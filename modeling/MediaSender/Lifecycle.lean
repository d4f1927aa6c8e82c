import MediaSender.Failure
/-!
The life of a sender: idle, then sending, then stopped. A stopped sender remembers whether it had
been sending.
-/

namespace MediaSender

inductive Lifecycle
  | idle
  | sending
  | stopped (sent : Bool)
  deriving DecidableEq, Repr, Inhabited

namespace Lifecycle

def hasSent : Lifecycle → Bool
  | sending | stopped true => true
  | _ => false

def hasStopped : Lifecycle → Bool
  | stopped _ => true
  | _ => false

def start : Lifecycle → Lifecycle
  | idle => sending
  | l => l

def stop (l : Lifecycle) : Lifecycle :=
  if l.hasStopped then l else stopped l.hasSent

def canStart (l : Lifecycle) : Bool := l == idle

def canStop (l : Lifecycle) : Bool := !l.hasStopped

/-- What a wait for sending ends with, once it ends. -/
def awaited : Lifecycle → Option (Outcome Unit)
  | idle => none
  | sending => some (.ok ())
  | stopped _ => some (.error .closedPipe)

def name : Lifecycle → String
  | idle => "idle"
  | sending => "sending"
  | stopped _ => "stopped"

def summary : Lifecycle → String
  | idle => "Idle"
  | sending => "Sending"
  | stopped sent => "Stopped \x7b sent: " ++ toString sent ++ " \x7d"

end Lifecycle

end MediaSender
