import MediaSender.LazyStream
import MediaSender.RandomText
import MediaSender.Settings
import MediaSender.Table
import MediaSender.Track
import MediaSender.Transport
/-!
An endpoint: the configuration that its senders share, the transport with the streams opened on it,
the gates through which tracks write, and a trace of all that happened. Each action comes as a
function to the next endpoint and, where it has a result, a function that reads the result off the
endpoint before it.
-/

namespace MediaSender

structure Endpoint where
  settings : Settings := {}
  capabilities : Capabilities := {}
  chain : Chain := []
  /-- The random numbers, in the order in which they are drawn. -/
  numbers : Nat → Nat := id
  numbersDrawn : Nat := 0
  ssrcsDrawn : Nat := 0
  clock : Instant := 0
  transport : Transport := {}
  streams : Table LazyStream := .empty
  /-- A gate stays shut until it is given the writer that it leads to. -/
  gates : Table (Option Writer) := .empty
  tracks : Table TrackState := .empty
  transceivers : Table (Option (List Codec)) := .empty
  trace : List Event := []

namespace Endpoint

def emit (e : Event) (w : Endpoint) : Endpoint := { w with trace := w.trace ++ [e] }

def emitAll (es : List Event) (w : Endpoint) : Endpoint := { w with trace := w.trace ++ es }

@[simp] theorem trace_emit (e : Event) (w : Endpoint) : (w.emit e).trace = w.trace ++ [e] := rfl

@[simp] theorem trace_emitAll (es : List Event) (w : Endpoint) :
    (w.emitAll es).trace = w.trace ++ es := rfl

def log (level : LogLevel) (text : String) (w : Endpoint) : Endpoint := w.emit (.log level text)

def reportAll (rs : List Report) (w : Endpoint) : Endpoint := w.emitAll (rs.map .report)

def idLength : Nat := 32

def nextId (w : Endpoint) : String :=
  (RandomText.draw (fun i => w.numbers (w.numbersDrawn + i)) RandomText.letters idLength).getD ""

def drawId (w : Endpoint) : Endpoint := { w with numbersDrawn := w.numbersDrawn + idLength }

def nextSsrc (w : Endpoint) : Ssrc :=
  match w.settings.ssrcs with
  | some source => source w.ssrcsDrawn
  | none => UInt32.ofNat (w.numbers w.numbersDrawn)

def drawSsrc (w : Endpoint) : Endpoint :=
  match w.settings.ssrcs with
  | some _ => { w with ssrcsDrawn := w.ssrcsDrawn + 1 }
  | none => { w with numbersDrawn := w.numbersDrawn + 1 }

def stream (w : Endpoint) (s : StreamId) : LazyStream := w.streams.entry s

def ssrcOf (w : Endpoint) (s : StreamId) : Ssrc := (w.stream s).ssrc

def updateStream (s : StreamId) (f : LazyStream → LazyStream) (w : Endpoint) : Endpoint :=
  { w with streams := w.streams.modify s f }

@[simp] theorem stream_updateStream_self (s : StreamId) (f : LazyStream → LazyStream)
    (w : Endpoint) : (w.updateStream s f).stream s = f (w.stream s) := by
  simp [updateStream, stream, Table.modify]

theorem stream_updateStream_ne {s s' : StreamId} (f : LazyStream → LazyStream) (w : Endpoint)
    (h : s' ≠ s) : (w.updateStream s f).stream s' = w.stream s' := by
  simp [updateStream, stream, Table.modify, Table.entry_set_ne _ _ h]

@[simp] theorem stream_emit (e : Event) (w : Endpoint) : (w.emit e).stream = w.stream := rfl

@[simp] theorem stream_emitAll (es : List Event) (w : Endpoint) :
    (w.emitAll es).stream = w.stream := rfl

def nextStream (w : Endpoint) : StreamId := w.streams.size

def addStream (ssrc : Ssrc) (deadline : Option Instant) (w : Endpoint) : Endpoint :=
  { w with streams := w.streams.push { ssrc, deadline } }

def setDeadline (s : StreamId) (deadline : Option Instant) : Endpoint → Endpoint :=
  updateStream s fun st => { st with deadline }

/-- Only the first attempt to shut what was opened reaches the transport. -/
def shutFailure (s : StreamId) (w : Endpoint) : Option Failure :=
  if (w.stream s).shut then none else w.transport.failure (w.ssrcOf s) .close

def shut (s : StreamId) (w : Endpoint) : Endpoint :=
  if (w.stream s).shut then w
  else (w.updateStream s .markShut).emit (.closed s (w.ssrcOf s))

/-- Only the first close has an effect; it shuts the stream if that was opened. Whoever has to wait
until the transport is done with that waits after it (`awaitShut`). -/
def closeFailure (s : StreamId) (w : Endpoint) : Option Failure :=
  if (w.stream s).closed || !(w.stream s).opened then none else w.shutFailure s

def closeStream (s : StreamId) (w : Endpoint) : Endpoint :=
  if (w.stream s).closed then w
  else if (w.stream s).opened then (w.updateStream s .close).shut s
  else w.updateStream s .close

def nextGate (w : Endpoint) : GateId := w.gates.size

def addGate (w : Endpoint) : Endpoint := { w with gates := w.gates.push none }

def gate (w : Endpoint) (g : GateId) : Option Writer := w.gates.entry g

def resolveOutcome (g : GateId) (w : Endpoint) : Outcome Unit :=
  if (w.gate g).isSome then .error .alreadyResolved else .ok ()

def resolve (g : GateId) (writer : Writer) (w : Endpoint) : Endpoint :=
  if (w.gate g).isSome then w else { w with gates := w.gates.set g (some writer) }

def readerOf (w : Endpoint) (s : StreamId) : Reader := w.chain.reader (.stream s)

def bindReader (s : StreamId) (w : Endpoint) : Endpoint :=
  (w.emit (.readerBound s)).reportAll (w.chain.reports .readerBound)

def writerOf (w : Endpoint) (s : StreamId) (d : StreamDescription) : Writer :=
  w.chain.writer d (.stream s)

def bindWriter (s : StreamId) (d : StreamDescription) (w : Endpoint) : Endpoint :=
  (w.emit (.writerBound s d)).reportAll (w.chain.reports (.writerBound d))

def releaseStream (d : StreamDescription) (w : Endpoint) : Endpoint :=
  (w.emit (.released d)).reportAll (w.chain.reports (.released d.id d.ssrc))

def track (w : Endpoint) (t : Track) : TrackState := w.tracks.entry t.key

def bindResult (t : Track) (c : Context) (w : Endpoint) : Outcome Codec :=
  t.bindResult c (w.track t)

def bindTrack (t : Track) (c : Context) (w : Endpoint) : Endpoint :=
  { w with tracks := w.tracks.modify t.key (t.afterBind c) }.emit
    (.trackBound t.key c.view (w.bindResult t c))

def unbindResult (t : Track) (c : Context) (w : Endpoint) : Outcome Unit :=
  t.unbindResult c (w.track t)

def unbindTrack (t : Track) (c : Context) (w : Endpoint) : Endpoint :=
  { w with tracks := w.tracks.modify t.key (t.afterUnbind c) }.emit
    (.trackUnbound t.key c.id c.ssrc (w.unbindResult t c))

end Endpoint

end MediaSender
