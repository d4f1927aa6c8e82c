import MediaSender.Proofs.Run.Moves
import Mathlib.Logic.Relation
/-!
The elementary changes of an endpoint. Whatever a call, a command or a sender does to an endpoint is
a sequence of them, so that an invariant of the streams and the trace needs one case for each.
-/

namespace MediaSender

def Reader.target? : Reader → Option StreamId
  | stream s => some s
  | wrapped _ inner => inner.target?
  | sink .. => none

def Writer.target? : Writer → Option StreamId
  | stream s => some s
  | wrapped _ _ inner => inner.target?
  | sink .. => none

theorem Chain.reader_target (c : Chain) (r : Reader) : (c.reader r).target? = r.target? := by
  induction c with
  | nil => rfl
  | cons l c ih => exact ih

theorem Chain.writer_target (c : Chain) (d : StreamDescription) (x : Writer) :
    (c.writer d x).target? = x.target? := by
  induction c with
  | nil => rfl
  | cons l c ih => exact ih

def Event.isNote : Event → Bool
  | report _ | trackBound .. | trackUnbound .. | opening .. | log .. => true
  | _ => false

namespace Endpoint

def Known (w : Endpoint) (s : StreamId) : Prop := s < w.streams.size

/-- A stream that a sender has made for itself. -/
def Owned (w : Endpoint) (s : StreamId) : Prop := .readerBound s ∈ w.trace

instance (w : Endpoint) (s : StreamId) : Decidable (w.Owned s) :=
  inferInstanceAs (Decidable (_ ∈ w.trace))

def Handed (w : Endpoint) (s : StreamId) : Prop := ∃ d, .writerBound s d ∈ w.trace

theorem Owned.of_emit {e : Event} {w : Endpoint} {s : StreamId} (hs : (w.emit e).Owned s)
    (h : e ≠ .readerBound s) : w.Owned s := by
  rw [Owned, trace_emit, List.mem_append, List.mem_singleton] at hs
  exact hs.resolve_right h.symm

theorem Handed.of_emit {e : Event} {w : Endpoint} {s : StreamId} (hs : (w.emit e).Handed s)
    (h : ∀ d, e ≠ .writerBound s d) : w.Handed s := by
  refine hs.imp fun d hd => ?_
  rw [trace_emit, List.mem_append, List.mem_singleton] at hd
  exact hd.resolve_right (h d).symm

/-- A stream that somebody may write to: one that is free for all, or one that layers got. -/
def Writable (free : StreamId → Prop) (w : Endpoint) (s : StreamId) : Prop := free s ∨ w.Handed s

theorem stream_updateStream (s s' : StreamId) (f : LazyStream → LazyStream) (w : Endpoint) :
    (w.updateStream s f).stream s' = if s' = s then f (w.stream s') else w.stream s' := by
  by_cases h : s' = s
  · subst h
    simp
  · rw [stream_updateStream_ne f w h, if_neg h]

def markOpen (s : StreamId) (w : Endpoint) : Endpoint :=
  (w.updateStream s .markOpened).emit (.opened s (w.ssrcOf s))

/-- A stream that was closed before it was opened is shut as soon as it is open. -/
def finishOpen (s : StreamId) (w : Endpoint) : Endpoint :=
  if (w.stream s).closed then (w.markOpen s).shut s else w.markOpen s

def transmit (s : StreamId) (packet : Packet) (w : Endpoint) : Endpoint :=
  w.emit (.sent s (w.ssrcOf s) packet)

def take (s : StreamId) (size : Nat) (data : Bytes) (w : Endpoint) : Endpoint :=
  { w with transport := w.transport.pop (w.ssrcOf s) }.emit
    (.received s (w.ssrcOf s) (data.take size))

theorem stream_markOpen (s s' : StreamId) (w : Endpoint) :
    (w.markOpen s).stream s' = if s' = s then (w.stream s').markOpened else w.stream s' := by
  rw [markOpen, stream_emit, stream_updateStream]

theorem stream_shut (s s' : StreamId) (w : Endpoint) :
    (w.shut s).stream s' = if s' = s then (w.stream s').markShut else w.stream s' := by
  simp only [shut]
  split
  · rename_i h
    by_cases hs : s' = s
    · subst hs
      rw [if_pos rfl, LazyStream.markShut, ← h]
    · rw [if_neg hs]
  · rw [stream_emit, stream_updateStream]

theorem trace_shut (s : StreamId) (w : Endpoint) :
    (w.shut s).trace =
      w.trace ++ if (w.stream s).shut then [] else [.closed s (w.ssrcOf s)] := by
  simp only [shut]
  split
  · rw [List.append_nil]
  · rfl

def closing (st : LazyStream) : LazyStream :=
  if st.closed then st else if st.opened then st.close.markShut else st.close

theorem stream_closeStream (s s' : StreamId) (w : Endpoint) :
    (w.closeStream s).stream s' = if s' = s then closing (w.stream s') else w.stream s' := by
  by_cases hs : s' = s
  · subst hs
    rw [if_pos rfl, closing, closeStream]
    split
    · rfl
    · split
      · rw [stream_shut, if_pos rfl, stream_updateStream_self]
      · rw [stream_updateStream_self]
  · rw [if_neg hs, closeStream]
    split
    · rfl
    · split
      · rw [stream_shut, if_neg hs, stream_updateStream_ne _ _ hs]
      · rw [stream_updateStream_ne _ _ hs]

/-- What calls, tracks and the world do: `free` are the streams that no sender made, and `closes`
those that may be closed meanwhile. -/
inductive Change (free closes : StreamId → Prop) : Endpoint → Endpoint → Prop
  | surroundings {w w' : Endpoint} (streams : w'.streams = w.streams) (gates : w'.gates = w.gates)
      (tracks : w'.tracks = w.tracks) (trace : w'.trace = w.trace)
      (queue : w'.transport.queue = w.transport.queue)
      (trap : ∀ s, w'.transport.trap = some s → w.transport.trap = some s) :
      Change free closes w w'
  | notes (w : Endpoint) {es : List Event} (notes : ∀ e ∈ es, e.isNote) :
      Change free closes w (w.emitAll es)
  | bindTrack (w : Endpoint) (t : Track) {c : Context}
      (reader : ∀ r s, c.reader = some r → r.target? = some s → w.Known s) :
      Change free closes w (w.bindTrack t c)
  | unbindTrack (w : Endpoint) (t : Track) (c : Context) :
      Change free closes w (w.unbindTrack t c)
  | addGate (w : Endpoint) : Change free closes w w.addGate
  | resolve (w : Endpoint) (g : GateId) {x : Writer}
      (target : ∀ s, x.target? = some s → w.Writable free s) :
      Change free closes w (w.resolve g x)
  | tend (w : Endpoint) (s : StreamId) {f : LazyStream → LazyStream}
      (opened : ∀ st, (f st).opened = st.opened) (closed : ∀ st, (f st).closed = st.closed)
      (shut : ∀ st, (f st).shut = st.shut) (ssrc : ∀ st, (f st).ssrc = st.ssrc) :
      Change free closes w (w.updateStream s f)
  | finishOpen (w : Endpoint) {s : StreamId} (known : w.Known s)
      (opened : (w.stream s).opened = false) : Change free closes w (w.finishOpen s)
  | shut (w : Endpoint) {s : StreamId} (opened : (w.stream s).opened)
      (closed : (w.stream s).closed) : Change free closes w (w.shut s)
  | transmit (w : Endpoint) {s : StreamId} (packet : Packet) (opened : (w.stream s).opened)
      (closed : (w.stream s).closed = false) (writable : w.Writable free s) :
      Change free closes w (w.transmit s packet)
  | take (w : Endpoint) {s : StreamId} (size : Nat) {data : Bytes} {rest : List Bytes}
      (opened : (w.stream s).opened) (queue : w.transport.queue (w.ssrcOf s) = data :: rest) :
      Change free closes w (w.take s size data)
  | close (w : Endpoint) {s : StreamId} (known : w.Known s) (may : closes s) :
      Change free closes w (w.closeStream s)

/-- What senders do besides: they make streams, and hand them to the layers and take them back. -/
inductive Handover : Endpoint → Endpoint → Prop
  | own (w : Endpoint) (ssrc : Ssrc) (deadline : Option Instant) :
      Handover w ((w.addStream ssrc deadline).emit (.readerBound w.nextStream))
  | hand (w : Endpoint) {s : StreamId} (d : StreamDescription) (owned : w.Owned s) :
      Handover w (w.emit (.writerBound s d))
  | release (w : Endpoint) (d : StreamDescription) : Handover w (w.emit (.released d))

def Evolves (free closes : StreamId → Prop) : Endpoint → Endpoint → Prop :=
  Relation.ReflTransGen (Change free closes)

def Builds (free closes : StreamId → Prop) : Endpoint → Endpoint → Prop :=
  Relation.ReflTransGen fun w w' => Change free closes w w' ∨ Handover w w'

end Endpoint

end MediaSender
