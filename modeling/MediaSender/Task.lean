import MediaSender.ControlPacket
import MediaSender.Roster
/-!
Calls that may have to wait. A task is a value, or a request together with what follows its answer;
reading and writing through a chain of layers, a gate or a track is such a task.
-/

namespace MediaSender

inductive Request
  | sending (l : LifecycleKey)
  | reader (k : SenderKey) (feed : Sender.Feed)
  | bindings (t : Track)
  | gate (g : GateId)
  | read (s : StreamId) (size : Nat)
  | write (s : StreamId) (p : Packet)
  | report (r : Report)

abbrev Request.Answer : Request → Type
  | sending _ => Outcome Unit
  | reader .. => Outcome Reader
  | bindings _ => List Binding
  | gate _ => Writer
  | read .. => Outcome Bytes
  | write .. => Outcome Nat
  | report _ => Unit

def Request.stream? : Request → Option StreamId
  | read s _ => some s
  | write s _ => some s
  | _ => none

inductive Task (α : Type)
  | done (a : α)
  | ask (r : Request) (next : r.Answer → Task α)

namespace Task

variable {α β : Type}

def bind (t : Task α) (f : α → Task β) : Task β :=
  match t with
  | done a => f a
  | ask r next => ask r fun a => (next a).bind f

def map (f : α → β) (t : Task α) : Task β := t.bind fun a => done (f a)

def andThen (t : Task (Outcome α)) (f : α → Task (Outcome β)) : Task (Outcome β) :=
  t.bind fun
    | .ok a => f a
    | .error e => done (.error e)

def request (r : Request) : Task r.Answer := ask r done

def stream? : Task α → Option StreamId
  | done _ => none
  | ask r _ => r.stream?

end Task

def LayerScript.task {query answer : Type} (name : String)
    (inner : query → Task (Outcome answer)) : LayerScript query answer → Task (Outcome answer)
  | .done result => .done result
  | .note n rest => .ask (.report (.layer name n)) fun _ => rest.task name inner
  | .inner q rest => (inner q).bind fun result => (rest result).task name inner

def Reader.read (size : Nat) : Reader → Attributes → Task (Outcome (Bytes × Attributes))
  | .stream s, attributes =>
    (Task.request (.read s size)).map fun result => result.map fun data => (data, attributes)
  | .wrapped l inner, attributes => (l.read size attributes).task l.name (inner.read size)
  | .sink name failure, attributes =>
    .ask (.report (.sinkRead name attributes)) fun _ => .done <| match failure with
      | some e => .error e
      | none => .ok (List.replicate size 0, attributes)

def Writer.write : Writer → Packet × Attributes → Task (Outcome Nat)
  | .stream s, (packet, _) => Task.request (.write s packet)
  | .wrapped l d inner, (packet, attributes) =>
    (l.write d packet attributes).task l.name inner.write
  | .sink name failure, (packet, attributes) =>
    .ask (.report (.sinkWrite name packet attributes)) fun _ => .done <| match failure with
      | some e => .error e
      | none => .ok packet.payload.length

def writeGate (g : GateId) (packet : Packet) (attributes : Attributes) : Task (Outcome Nat) :=
  .ask (.gate g) fun writer => writer.write (packet, attributes)

structure Tally where
  written : Nat := 0
  failures : List Failure := []

namespace Tally

def add (id : String) (t : Tally) : Outcome Nat → Tally
  | .ok n => { t with written := t.written + n }
  | .error e => { t with failures := t.failures ++ [.other (id ++ ": " ++ e.message)] }

def outcome (t : Tally) : Outcome Nat := (Failure.flatten t.failures).map fun _ => t.written

end Tally

/-- Each binding that has a gate is written to, whatever the others do. -/
def writeBindings (packet : Packet) (attributes : Attributes) :
    List Binding → Tally → Task (Outcome Nat)
  | [], t => .done t.outcome
  | b :: bs, t =>
    match b.gate with
    | none => writeBindings packet attributes bs t
    | some g =>
      (writeGate g (packet.readdress b.ssrc b.payloadType) attributes).bind fun result =>
        writeBindings packet attributes bs (t.add b.id result)

/-- A packet goes to the bindings that the track has when the write begins. -/
def Track.write (t : Track) (packet : Packet) (attributes : Attributes) : Task (Outcome Nat) :=
  .ask (.bindings t) fun bindings => writeBindings packet attributes bindings {}

namespace Sender

def awaitSending (k : SenderKey) : Task (Outcome Unit) := .request (.sending (.ofSender k))

def lookupReader (k : SenderKey) (feed : Feed) : Task (Outcome Reader) := .request (.reader k feed)

def read (k : SenderKey) (feed : Feed) (size : Nat) : Task (Outcome (Bytes × Attributes)) :=
  if feed.isCompanion then
    (lookupReader k feed).andThen fun reader =>
      (awaitSending k).andThen fun _ => reader.read size []
  else
    (awaitSending k).andThen fun _ =>
      (lookupReader k feed).andThen fun reader => reader.read size []

def readPackets (k : SenderKey) (feed : Feed) (size : Nat) :
    Task (Outcome (List ControlPacket × Attributes)) :=
  (read k feed size).map fun result => do
    let (data, attributes) ← result
    return (← ControlPacket.decode data, attributes)

end Sender

end MediaSender
