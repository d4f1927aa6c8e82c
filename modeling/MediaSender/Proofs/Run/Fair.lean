import MediaSender.Proofs.Run.Frame
import MediaSender.Proofs.Run.Steady
/-!
Endpoints with a transport that is ready and never fails. There no call waits for a stream to open:
a stream that nobody claims is open after the first attempt to use it, and still nobody claims it.
Gates that lead somewhere lead there for good.
-/

namespace MediaSender

def Event.sent? : Event → Option (StreamId × Ssrc × Packet)
  | .sent s ssrc packet => some (s, ssrc, packet)
  | _ => none

namespace Endpoint

/-- The writes that have reached a stream, in order. -/
def sends (w : Endpoint) : List (StreamId × Ssrc × Packet) := w.trace.filterMap Event.sent?

variable {w w' w₁ w₂ w₃ : Endpoint} {s : StreamId}

structure Fair (w : Endpoint) : Prop where
  ready : w.transport.ready
  failure : ∀ c op, w.transport.failure c op = none
  trap : w.transport.trap = none

theorem Fair.congr (h : Fair w) (ht : w'.transport = w.transport) : Fair w' := by
  constructor
  · rw [ht]
    exact h.ready
  · rw [ht]
    exact h.failure
  · rw [ht]
    exact h.trap

def Idle (s : StreamId) (w : Endpoint) : Prop := (w.stream s).claims = []

def Resolved (g : GateId) (x : Writer) (w : Endpoint) : Prop :=
  g < w.gates.size ∧ w.gate g = some x

structure Smooth (w w' : Endpoint) : Prop where
  fair : Fair w → Fair w'
  idle : Fair w → ∀ s, Idle s w → Idle s w'
  gates : ∀ g x, Resolved g x w → Resolved g x w'

theorem Smooth.refl (w : Endpoint) : Smooth w w := ⟨id, fun _ _ => id, fun _ _ => id⟩

theorem Smooth.trans (h : Smooth w₁ w₂) (h' : Smooth w₂ w₃) : Smooth w₁ w₃ where
  fair hf := h'.fair (h.fair hf)
  idle hf s hs := h'.idle (h.fair hf) s (h.idle hf s hs)
  gates g x hg := h'.gates g x (h.gates g x hg)

theorem smooth_of_idle (transport : w'.transport = w.transport) (gates : w'.gates = w.gates)
    (idle : ∀ s, Idle s w → Idle s w') : Smooth w w' where
  fair h := h.congr transport
  idle _ := idle
  gates g x hg := by rwa [Resolved, gate, gates]

theorem smooth_of_streams (streams : w'.streams = w.streams)
    (transport : w'.transport = w.transport) (gates : w'.gates = w.gates) : Smooth w w' :=
  smooth_of_idle transport gates fun s hs => by rwa [Idle, stream, streams]

theorem smooth_emitAll (es : List Event) (w : Endpoint) : Smooth w (w.emitAll es) :=
  smooth_of_streams rfl rfl rfl

theorem smooth_emit (e : Event) (w : Endpoint) : Smooth w (w.emit e) :=
  smooth_of_streams rfl rfl rfl

theorem idle_updateStream {s' : StreamId} {f : LazyStream → LazyStream}
    (hf : ∀ st, st.claims = [] → (f st).claims = []) (hs : Idle s w) :
    Idle s (w.updateStream s' f) := by
  rw [Idle, stream_updateStream]
  split
  · exact hf _ hs
  · exact hs

theorem idle_releaseClaim {s' : StreamId} (t : Ticket) (hs : Idle s w) :
    Idle s (w.releaseClaim t s') :=
  idle_updateStream (fun st hst => by rw [LazyStream.release, hst]; rfl) hs

theorem smooth_addStream (ssrc : Ssrc) (deadline : Option Instant) (w : Endpoint) :
    Smooth w (w.addStream ssrc deadline) :=
  smooth_of_idle rfl rfl fun s hs => by
    by_cases hn : s = w.nextStream
    · rw [Idle, hn, stream_addStream_self]
    · rwa [Idle, stream_addStream_ne ssrc deadline w hn]

theorem smooth_addGate (w : Endpoint) : Smooth w w.addGate where
  fair h := h.congr rfl
  idle _ _ hs := hs
  gates g x hg := by
    obtain ⟨hlt, hx⟩ := hg
    refine ⟨Nat.lt_succ_of_lt hlt, ?_⟩
    exact (Table.entry_push_ne _ _ (Nat.ne_of_lt hlt)).trans hx

theorem smooth_resolve (g : GateId) (x : Writer) (w : Endpoint) : Smooth w (w.resolve g x) := by
  simp only [resolve]
  split
  · exact .refl w
  · rename_i hn
    refine ⟨fun h => h.congr rfl, fun _ _ hs => hs, fun g' x' hg => ⟨hg.1, ?_⟩⟩
    have hne : g' ≠ g := by
      rintro rfl
      exact hn (by rw [hg.2]; rfl)
    exact (Table.entry_set_ne _ _ hne).trans hg.2

theorem claims_closing (a : LazyStream) : (closing a).claims = a.claims := by
  simp only [closing]
  split
  · rfl
  · split <;> rfl

theorem smooth_closeStream (s : StreamId) (w : Endpoint) : Smooth w (w.closeStream s) := by
  have hr := sameRest_closeStream s w
  refine smooth_of_idle hr.transport hr.gates fun s' hs => ?_
  rw [Idle, stream_closeStream]
  split
  · rw [claims_closing]
    exact hs
  · exact hs

theorem Touches.smooth (h : Touches s w w') (hs : Fair w → Idle s w → Idle s w') : Smooth w w' where
  fair hf := ⟨h.ready ▸ hf.ready, h.failure ▸ hf.failure, h.trap hf.trap⟩
  idle hf s' hs' := by
    by_cases heq : s' = s
    · exact heq ▸ hs hf (heq ▸ hs')
    · rwa [Idle, h.others hf.trap s' heq]
  gates g x hg := by rwa [Resolved, gate, h.gates]

structure OpensNow (s : StreamId) (w : Endpoint) (a : Attempt (Outcome Unit)) : Prop where
  ready : a = .ready (.ok ()) a.endpoint
  idle : Idle s a.endpoint
  opened : (a.endpoint.stream s).opened
  closed : (a.endpoint.stream s).closed = (w.stream s).closed
  ssrc : a.endpoint.ssrcOf s = w.ssrcOf s
  sends : a.endpoint.sends = w.sends

theorem sends_emit {e : Event} (h : e.sent? = none) (w : Endpoint) :
    (w.emit e).sends = w.sends := by
  rw [sends, trace_emit, List.filterMap_append, List.filterMap_cons_none h]
  exact List.append_nil _

theorem opensNow_openNow (t : Ticket) (hf : Fair w) : OpensNow s w (w.openNow t s) := by
  have htrap : (w.emit (.opening s (w.ssrcOf s))).springTrap =
      w.emit (.opening s (w.ssrcOf s)) := by
    rw [springTrap, show (w.emit _).transport.trap = none from hf.trap]
  have hfail : w.openFailure s = none := by
    rw [openFailure, trapFailure, hf.trap, hf.failure]
    rfl
  rw [openNow, htrap, hfail]
  refine ⟨rfl, ?_, ?_, ?_, ?_, ?_⟩
  iterate 4
    simp only [Idle, ssrcOf, Attempt.endpoint, stream_emit, stream_updateStream_self,
      LazyStream.markOpened]
  exact (sends_emit rfl _).trans (sends_emit (e := .opening s (w.ssrcOf s)) rfl w)

theorem opensNow_open? (t : Ticket) (p : Progress) (hf : Fair w) (hs : Idle s w) :
    OpensNow s w (w.open? t s p) := by
  have hclaim : (w.claim t s).stream s = { w.stream s with claims := [t] } := by
    rw [claim, stream_updateStream_self, LazyStream.claim, hs]
    rfl
  have hnow : ∀ w' : Endpoint, Fair w' → w'.stream s = (w.claim t s).stream s →
      w'.sends = w.sends → OpensNow s w (w'.openNow t s) := by
    intro w' hf' hw' hsends'
    obtain ⟨ready, idle, opened, closed, ssrc, sends⟩ := opensNow_openNow (s := s) t hf'
    refine ⟨ready, idle, opened, ?_, ?_, sends.trans hsends'⟩
    · rw [closed, hw', hclaim]
    · rw [ssrc, ssrcOf, hw', hclaim]
      rfl
  dsimp only [open?]
  split
  · exact ⟨rfl, hs, ‹_›, rfl, rfl, rfl⟩
  · -- Nobody had claimed the stream, so this call is the one that opens it.
    rw [if_pos (by rw [hclaim]; simp [LazyStream.isOpener])]
    have hc : Fair (w.claim t s) := hf.congr rfl
    cases hp : p.started with
    | true =>
      rw [openAs, if_pos rfl, if_pos hc.ready]
      exact hnow _ hc rfl rfl
    | false =>
      rw [openAs, if_neg Bool.false_ne_true]
      exact (if_pos hc.ready).symm ▸ hnow _ (hc.congr rfl) rfl (sends_emit rfl _)

theorem openOrClosed_cases (b : Pace) (t : Ticket) (p : Progress) (hf : Fair w) (hs : Idle s w) :
    OpensNow s w (w.openOrClosed b t s p) ∨
      (w.stream s).closed ∧
        w.openOrClosed b t s p = .ready (.error .closedPipe) (w.releaseClaim t s) := by
  have ho := opensNow_open? t p hf hs
  simp only [openOrClosed]
  split
  · rename_i hc
    exact .inr ⟨hc.2, rfl⟩
  · left
    rw [ho.ready]
    exact ⟨rfl, ho.idle, ho.opened, ho.closed, ho.ssrc, ho.sends⟩

theorem idle_awaitShut (b : Pace) (hs : Idle s w) : Idle s (w.awaitShut b s).endpoint := by
  simp only [awaitShut]
  split
  · exact hs
  · split <;> exact hs

theorem idle_shutLate (b : Pace) (hs : Idle s w) : Idle s (w.shutLate b s).endpoint := by
  have hshut : Idle s (w.shut s) := by
    rw [Idle, stream_shut, if_pos rfl]
    exact hs
  simp only [shutLate]
  split
  · exact hs
  · exact idle_awaitShut b hshut

theorem idle_obtain (b : Pace) (t : Ticket) (p : Progress) (hf : Fair w) (hs : Idle s w) :
    Idle s (w.obtain b t s p).endpoint := by
  have henter : Idle s (w.enter b t s p).endpoint := by
    simp only [enter]
    split
    · exact hs
    · rcases openOrClosed_cases b t p hf hs with ho | ⟨-, he⟩
      · rw [ho.ready, Attempt.bind]
        split
        · exact idle_shutLate b ho.idle
        · exact ho.idle
      · rw [he]
        exact idle_releaseClaim t hs
  cases p with
  | shutting deadline => exact idle_awaitShut b hs
  | _ => exact henter

theorem idle_receive? (b : Pace) (size : Nat) (hs : Idle s w) :
    Idle s (w.receive? b s size).endpoint := by
  dsimp only [receive?]
  split
  · exact hs
  · split
    · exact hs
    · exact hs
    · split <;> exact hs

theorem idle_bind {α β : Type} {a : Attempt (Outcome α)} {f : α → Endpoint → Attempt (Outcome β)}
    (h : Idle s a.endpoint) (hf : ∀ x w', Idle s w' → Idle s (f x w').endpoint) :
    Idle s (a.bind f).endpoint := by
  cases a with
  | ready r w' =>
    cases r with
    | ok x => exact hf x w' h
    | error e => exact h
  | blocked p w' => exact h

theorem smooth_write (b : Pace) (t : Ticket) (s : StreamId) (packet : Packet) (p : Progress)
    (w : Endpoint) : Smooth w (w.write b t s packet p).endpoint :=
  (touches_write b t s packet p w).smooth fun hf hs =>
    idle_bind (idle_obtain b t p hf hs) fun _ w' hs' => by
      obtain ⟨r, hr⟩ := endpoint_send s packet w'
      rw [hr]
      exact hs'

theorem smooth_read (b : Pace) (t : Ticket) (s : StreamId) (size : Nat) (p : Progress)
    (w : Endpoint) : Smooth w (w.read b t s size p).endpoint := by
  refine (touches_read b t s size p w).smooth fun hf hs => ?_
  have ho : Idle s ((w.obtain b t s p).bind fun _ w' => w'.receive? b s size).endpoint :=
    idle_bind (idle_obtain b t p hf hs) fun _ w' => idle_receive? b size
  have hw : Idle s (w.readWithoutDeadline b t s size p).endpoint := by
    rcases readWithoutDeadline_cases b t s size p w with ⟨-, h⟩ | h
    · exact h ▸ idle_receive? b size hs
    · exact h ▸ ho
  dsimp only [read]
  split
  · rename_i heq
    rwa [heq] at hw
  · rename_i heq
    rw [heq] at hw
    split
    · exact idle_releaseClaim t hw
    · exact hw

end Endpoint

open Endpoint

theorem Task.smooth_poll {α : Type} (roster : Roster) (b : Pace) (t : Ticket) (task : Task α)
    (p : Progress) (w : Endpoint) : Smooth w (task.poll roster b t p w).endpoint :=
  task.related_poll .refl .trans
    (Request.related_attempt .refl (smooth_read b t) (smooth_write b t) fun _ => smooth_emit _) p w

namespace Sender

theorem steady_smooth : Steady Smooth where
  refl := .refl
  trans := .trans
  emitAll := smooth_emitAll
  drawSsrc w := by
    simp only [drawSsrc]
    split <;> exact smooth_of_streams rfl rfl rfl
  addStream := smooth_addStream
  addGate := smooth_addGate
  resolve := smooth_resolve
  bindTrack _ _ _ := smooth_of_streams rfl rfl rfl
  unbindTrack _ _ _ := smooth_of_streams rfl rfl rfl
  closeStream := smooth_closeStream

end Sender

namespace Session

variable {m : Move} {σ σ' : Session}

theorem Errand.smooth {w : Endpoint} (h : Errand m σ w) (hm : m.troubles = false) :
    Smooth σ.endpoint w := by
  cases h with
  | nothing => exact .refl _
  | report rs => exact smooth_emitAll _ _
  | deadline s deadline =>
    exact smooth_of_idle rfl rfl fun s' => idle_updateStream fun _ hst => hst
  | close named => exact smooth_closeStream _ _
  | addStream ssrc => exact smooth_addStream ssrc none _
  | addGate => exact smooth_addGate _
  | resolve g x => exact smooth_resolve g x _
  | beside rest fate =>
    -- The only errands that reach the transport, and untroubled ones leave its fate alone.
    obtain ⟨ready, failure, trap⟩ := fate hm
    refine ⟨fun hf => ⟨ready ▸ hf.ready, failure ▸ hf.failure, trap ▸ hf.trap⟩, fun _ s hs => ?_,
      fun g x hg => ?_⟩
    · rwa [Idle, stream, rest.streams]
    · rwa [Resolved, gate, rest.gates]
  | drop c =>
    simp only [Call.drop]
    split
    · exact smooth_of_idle rfl rfl fun s' => idle_releaseClaim _
    · exact .refl _
  | bind t c => exact smooth_of_streams rfl rfl rfl
  | unbind t c => exact smooth_of_streams rfl rfl rfl

theorem Course.smooth (h : Course m σ σ') (hm : m.troubles = false) :
    Smooth σ.endpoint σ'.endpoint := by
  cases h with
  | errand action endpoint => exact endpoint.smooth hm
  | poll action task t p endpoint => exact endpoint ▸ Task.smooth_poll _ _ _ _ _ _
  | create t creates action given endpoint =>
    have hd : Smooth σ.endpoint σ.endpoint.drawId := smooth_of_streams rfl rfl rfl
    exact endpoint ▸ hd.trans (Sender.steady_smooth.withEncoding _ t _)
  | act action endpoint => exact endpoint ▸ Sender.steady_smooth.act _ _ _

end Session

end MediaSender
