import MediaSender.Call
import MediaSender.Sender.Encodings
import MediaSender.Sender.Start
import MediaSender.Sender.Stop
/-!
Sessions: an endpoint and its senders, with names for the objects that commands speak of, and the
calls that are waiting. A name that is given again belongs to the new object; calls on the old one
go on.
-/

namespace MediaSender

inductive Reply
  | nothing
  | outcome (r : Outcome Unit)
  | flag (b : Bool)
  | number (n : Nat)
  | text (s : String)
  | count (r : Outcome Nat)
  | bytes (r : Outcome Bytes)
  | data (r : Outcome (Bytes × Attributes))
  | packets (r : Outcome (List ControlPacket × Attributes))
  | codec (r : Outcome Codec)
  | remaining (r : Option Int)
  | created (r : Outcome Sender)
  | parameters (p : SendParameters)
  | state (s : Sender)
  | track (t : Track)
  | context (c : ContextView)
  | lifecycle (l : Lifecycle)

/-- Objects by name, the newest first. -/
abbrev Names (α : Type) := List (String × α)

structure Directory where
  tracks : Names Track := []
  senders : Names SenderKey := []
  streams : Names StreamId := []
  gates : Names GateId := []
  contexts : Names Context := []
  lifecycles : Names Nat := []
  transceivers : Names Nat := []
  readers : Names Reader := []
  writers : Names Writer := []

structure Session where
  endpoint : Endpoint := {}
  roster : Roster := {}
  directory : Directory := {}
  pace : Pace := {}
  calls : List (Call Reply) := []
  steps : Nat := 0

/-- How a command begins: some name nothing that exists, some are answered at once, and some are
calls that may have to wait. -/
inductive Started
  | refused
  | finished (r : Reply) (s : Session)
  | waiting (t : Task Reply)

namespace Session

def withNamed {α : Type} (names : Names α) (name : String) (f : α → Started) : Started :=
  match names.lookup name with
  | some a => f a
  | none => .refused

def mapEndpoint (f : Endpoint → Endpoint) (s : Session) : Session :=
  { s with endpoint := f s.endpoint }

def moment (s : Session) (ms : Option Int) : Option Instant := ms.map (s.endpoint.clock + ·)

def sender (s : Session) (k : SenderKey) : Sender := s.roster.sender k

def setSender (k : SenderKey) (a : Sender) (s : Session) : Session :=
  { s with roster := s.roster.setSender k a }

def apply (k : SenderKey) (f : Sender → Endpoint → Sender.Result) (s : Session) : Started :=
  let r := f (s.sender k) s.endpoint
  .finished (.outcome r.outcome) { s.setSender k r.sender with endpoint := r.endpoint }

def trackNamed (s : Session) (name : Option String) : Option Track :=
  name.bind fun n => s.directory.tracks.lookup n

def nameOfTrack (s : Session) (key : TrackKey) : Option String :=
  (s.directory.tracks.find? fun (_, t) => t.key == key).map (·.1)

def namesOfSenders (s : Session) : List (String × String) :=
  s.directory.senders.map fun (name, k) => ((s.sender k).id, name)

end Session

end MediaSender
