import MediaSender.Task
/-!
Calls and how they are polled. A call runs until it has to wait; what it has waited for so far is
its progress. A call that is dropped, or whose deadline passes, gives up its claim to open a stream.
What no call has in its hands is the pace of a poll: somebody else may hold the lock of a sender,
and the transport may be busy with a close.
-/

namespace MediaSender

/-- Of two things that happen at once, the one that a waiting call looks at first. -/
inductive Bias
  | streamFirst
  | closeFirst
  deriving DecidableEq, Repr

structure Pace where
  first : Bias := .streamFirst
  /-- The lock of the sender is held, or promised to somebody who came earlier. -/
  locked : SenderKey → Bool := fun _ => false
  /-- The transport takes longer than this poll to close what it opened for the stream. -/
  lingers : StreamId → Bool := fun _ => false

inductive Progress
  | fresh
  | queued (deadline : Option Instant)
  | opening (deadline : Option Instant)
  | shutting (deadline : Option Instant)
  | receiving (deadline : Option Instant)
  deriving DecidableEq, Repr

/-- The deadline of a read is the one that its stream has when the read starts. -/
def Progress.deadline (atStart : Option Instant) : Progress → Option Instant
  | fresh => atStart
  | queued d | opening d | shutting d | receiving d => d

def Progress.withDeadline (d : Option Instant) : Progress → Progress
  | fresh => fresh
  | queued _ => queued d
  | opening _ => opening d
  | shutting _ => shutting d
  | receiving _ => receiving d

def Progress.started : Progress → Bool
  | opening _ => true
  | _ => false

inductive Attempt (α : Type)
  | ready (a : α) (w : Endpoint)
  | blocked (p : Progress) (w : Endpoint)

def Attempt.bind {α β : Type} (a : Attempt (Outcome α))
    (f : α → Endpoint → Attempt (Outcome β)) : Attempt (Outcome β) :=
  match a with
  | ready (.ok a) w => f a w
  | ready (.error e) w => ready (.error e) w
  | blocked p w => blocked p w

namespace Endpoint

def claim (t : Ticket) (s : StreamId) : Endpoint → Endpoint := updateStream s (.claim t)

def releaseClaim (t : Ticket) (s : StreamId) : Endpoint → Endpoint := updateStream s (.release t)

def openingText (ssrc : Ssrc) : String := "opening srtp stream for ssrc " ++ toString ssrc.toNat

def shutText (ssrc : Ssrc) (e : Failure) : String :=
  "failed to close srtp stream for ssrc " ++ toString ssrc.toNat ++ ": " ++ e.message

/-- An open first closes the stream that waits in the trap. -/
def springTrap (w : Endpoint) : Endpoint :=
  match w.transport.trap with
  | some s => { w with transport := { w.transport with trap := none } }.closeStream s
  | none => w

def trapFailure (w : Endpoint) : Option Failure := w.transport.trap.bind w.closeFailure

def openFailure (s : StreamId) (w : Endpoint) : Option Failure :=
  w.trapFailure.or (w.transport.failure (w.ssrcOf s) .openStream)

def openNow (t : Ticket) (s : StreamId) (w : Endpoint) : Attempt (Outcome Unit) :=
  let w' := (w.emit (.opening s (w.ssrcOf s))).springTrap
  match w.openFailure s with
  | some e => .ready (.error e) (w'.releaseClaim t s)
  | none => .ready (.ok ()) ((w'.updateStream s .markOpened).emit (.opened s (w.ssrcOf s)))

def openAs (t : Ticket) (s : StreamId) (started : Bool) (w : Endpoint) : Attempt (Outcome Unit) :=
  let w' := if started then w else w.log .trace (openingText (w.ssrcOf s))
  if w'.transport.ready then w'.openNow t s else .blocked (.opening none) w'

def open? (t : Ticket) (s : StreamId) (p : Progress) (w : Endpoint) : Attempt (Outcome Unit) :=
  if (w.stream s).opened then .ready (.ok ()) w
  else
    let w' := w.claim t s
    if (w'.stream s).isOpener t then w'.openAs t s p.started
    else .blocked (.queued none) w'

/-- Waits for the open and for a close together. -/
def openOrClosed (b : Pace) (t : Ticket) (s : StreamId) (p : Progress) (w : Endpoint) :
    Attempt (Outcome Unit) :=
  if b.first = .closeFirst ∧ (w.stream s).closed then
    .ready (.error .closedPipe) (w.releaseClaim t s)
  else match w.open? t s p with
    | .ready r w' => .ready r w'
    | .blocked p' w' =>
      if (w'.stream s).closed then .ready (.error .closedPipe) (w'.releaseClaim t s)
      else .blocked p' w'

def awaitShut (b : Pace) (s : StreamId) (w : Endpoint) : Attempt (Outcome Unit) :=
  if b.lingers s then .blocked (.shutting none) w
  else .ready (.error .closedPipe) <| match w.transport.failure (w.ssrcOf s) .close with
    | some e => w.log .debug (shutText (w.ssrcOf s) e)
    | none => w

/-- What was opened for a stream that is closed by now is shut at once. -/
def shutLate (b : Pace) (s : StreamId) (w : Endpoint) : Attempt (Outcome Unit) :=
  if (w.stream s).shut then .ready (.error .closedPipe) w else (w.shut s).awaitShut b s

def enter (b : Pace) (t : Ticket) (s : StreamId) (p : Progress) (w : Endpoint) :
    Attempt (Outcome Unit) :=
  if p = .fresh ∧ (w.stream s).closed then .ready (.error .closedPipe) w
  else (w.openOrClosed b t s p).bind fun _ w' =>
    if (w'.stream s).closed then w'.shutLate b s else .ready (.ok ()) w'

def obtain (b : Pace) (t : Ticket) (s : StreamId) (p : Progress) (w : Endpoint) :
    Attempt (Outcome Unit) :=
  match p with
  | .shutting _ => w.awaitShut b s
  | _ => w.enter b t s p

def receive (s : StreamId) (size : Nat) (data : Bytes) (w : Endpoint) : Attempt (Outcome Bytes) :=
  .ready (.ok (data.take size))
    ({ w with transport := w.transport.pop (w.ssrcOf s) }.emit
      (.received s (w.ssrcOf s) (data.take size)))

/-- What is longer than the buffer is lost. -/
def receive? (b : Pace) (s : StreamId) (size : Nat) (w : Endpoint) : Attempt (Outcome Bytes) :=
  let closed := (w.stream s).closed
  if b.first = .closeFirst ∧ closed then .ready (.error .closedPipe) w
  else match w.transport.failure (w.ssrcOf s) .read, w.transport.queue (w.ssrcOf s) with
    | some e, _ => .ready (.error e) w
    | none, data :: _ => w.receive s size data
    | none, [] => if closed then .ready (.error .closedPipe) w else .blocked (.receiving none) w

def readWithoutDeadline (b : Pace) (t : Ticket) (s : StreamId) (size : Nat) (p : Progress)
    (w : Endpoint) : Attempt (Outcome Bytes) :=
  match p with
  | .receiving _ => w.receive? b s size
  | _ => (w.obtain b t s p).bind fun _ w' => w'.receive? b s size

/-- Data that is there is read even after the deadline. -/
def read (b : Pace) (t : Ticket) (s : StreamId) (size : Nat) (p : Progress) (w : Endpoint) :
    Attempt (Outcome Bytes) :=
  let deadline := p.deadline (w.stream s).deadline
  match w.readWithoutDeadline b t s size p with
  | .ready r w' => .ready r w'
  | .blocked p' w' =>
    if Instant.passed w'.clock deadline then .ready (.error .timeout) (w'.releaseClaim t s)
    else .blocked (p'.withDeadline deadline) w'

def send (s : StreamId) (packet : Packet) (w : Endpoint) : Attempt (Outcome Nat) :=
  let w' := w.emit (.sent s (w.ssrcOf s) packet)
  match w.transport.failure (w.ssrcOf s) .write with
  | some e => .ready (.error e) w'
  | none => .ready (.ok packet.payload.length) w'

def write (b : Pace) (t : Ticket) (s : StreamId) (packet : Packet) (p : Progress) (w : Endpoint) :
    Attempt (Outcome Nat) :=
  (w.obtain b t s p).bind fun _ w' => w'.send s packet

def await {α : Type} (w : Endpoint) : Option α → Attempt α
  | some a => .ready a w
  | none => .blocked .fresh w

end Endpoint

def Request.attempt (roster : Roster) (b : Pace) (t : Ticket) :
    (r : Request) → Progress → Endpoint → Attempt r.Answer
  | .sending l, _, w => w.await (roster.lifecycle l).awaited
  | .reader k feed, _, w =>
    if b.locked k then .blocked .fresh w else .ready ((roster.sender k).reader feed) w
  | .bindings track, _, w => .ready (w.track track).bindings w
  | .gate g, _, w => w.await (w.gate g)
  | .read s size, p, w => w.read b t s size p
  | .write s packet, p, w => w.write b t s packet p
  | .report r, _, w => .ready () (w.emit (.report r))

structure Call (α : Type) where
  ticket : Ticket
  task : Task α
  progress : Progress := .fresh

inductive Polled (α : Type)
  | finished (a : α) (w : Endpoint)
  | waiting (task : Task α) (p : Progress) (w : Endpoint)

def Task.poll {α : Type} (roster : Roster) (b : Pace) (t : Ticket) :
    Task α → Progress → Endpoint → Polled α
  | .done a, _, w => .finished a w
  | .ask r next, p, w =>
    match r.attempt roster b t p w with
    | .ready a w' => (next a).poll roster b t .fresh w'
    | .blocked p' w' => .waiting (.ask r next) p' w'

def Call.drop {α : Type} (c : Call α) (w : Endpoint) : Endpoint :=
  match c.task.stream? with
  | some s => w.releaseClaim c.ticket s
  | none => w

end MediaSender
