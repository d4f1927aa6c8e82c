import MediaSender.Sender.Basic
/-!
The senders of an endpoint, and lifecycles that belong to no sender.
-/

namespace MediaSender

abbrev SenderKey := Nat

inductive LifecycleKey
  | ofSender (k : SenderKey)
  | free (n : Nat)
  deriving DecidableEq, Repr

structure Roster where
  senders : Table Sender := .empty
  lifecycles : Table Lifecycle := .empty

namespace Roster

def sender (r : Roster) (k : SenderKey) : Sender := r.senders.entry k

def lifecycle (r : Roster) : LifecycleKey → Lifecycle
  | .ofSender k => (r.sender k).lifecycle
  | .free n => r.lifecycles.entry n

def setSender (k : SenderKey) (s : Sender) (r : Roster) : Roster :=
  { r with senders := r.senders.set k s }

def addSender (s : Sender) (r : Roster) : Roster := { r with senders := r.senders.push s }

end Roster

end MediaSender
