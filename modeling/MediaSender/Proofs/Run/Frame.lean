import MediaSender.Proofs.Run.Course
import MediaSender.Proofs.Run.Upkeep
import MediaSender.Proofs.Sender.Outcomes
/-!
What calls leave alone. A call binds no track and unbinds none, whatever it waits for, and an
attempt to use one stream changes no other stream unless the transport has a trap.
-/

namespace MediaSender

def Event.isTie : Event → Bool
  | trackBound .. | trackUnbound .. => true
  | _ => false

theorem Event.isTie_of_isUpkeep {e : Event} (h : e.isUpkeep) : e.isTie = false := by
  cases e <;> first | rfl | cases h

namespace Endpoint

variable {w w' w₁ w₂ w₃ : Endpoint} {s : StreamId}

structure Untied (w w' : Endpoint) : Prop extends SameSetup w w' where
  tracks : w'.tracks = w.tracks
  events : ∃ es, w'.trace = w.trace ++ es ∧ ∀ e ∈ es, e.isTie = false

theorem Untied.refl (w : Endpoint) : Untied w w :=
  ⟨.refl w, rfl, [], (List.append_nil _).symm, List.forall_mem_nil _⟩

theorem Untied.trans (h : Untied w₁ w₂) (h' : Untied w₂ w₃) : Untied w₁ w₃ := by
  obtain ⟨es, ht, hes⟩ := h.events
  obtain ⟨es', ht', hes'⟩ := h'.events
  exact ⟨h.toSameSetup.trans h'.toSameSetup, h'.tracks.trans h.tracks,
    es ++ es', by rw [ht', ht, List.append_assoc], List.forall_mem_append.mpr ⟨hes, hes'⟩⟩

theorem untied_emitAll {es : List Event} (h : ∀ e ∈ es, e.isTie = false) (w : Endpoint) :
    Untied w (w.emitAll es) := ⟨⟨rfl, rfl, rfl, rfl⟩, rfl, es, rfl, h⟩

theorem untied_emit {e : Event} (h : e.isTie = false) (w : Endpoint) : Untied w (w.emit e) :=
  untied_emitAll (List.forall_mem_singleton.mpr h) w

theorem untied_log (level : LogLevel) (text : String) (w : Endpoint) :
    Untied w (w.log level text) := untied_emit rfl w

theorem untied_reportAll (rs : List Report) (w : Endpoint) : Untied w (w.reportAll rs) :=
  untied_emitAll (by simp [Event.isTie]) w

theorem untied_of_trace (setup : SameSetup w w') (tracks : w'.tracks = w.tracks)
    (trace : w'.trace = w.trace) : Untied w w' :=
  ⟨setup, tracks, [], by rw [trace, List.append_nil], List.forall_mem_nil _⟩

theorem untied_updateStream (s : StreamId) (f : LazyStream → LazyStream) (w : Endpoint) :
    Untied w (w.updateStream s f) := untied_of_trace ⟨rfl, rfl, rfl, rfl⟩ rfl rfl

theorem untied_shut (s : StreamId) (w : Endpoint) : Untied w (w.shut s) := by
  simp only [shut]
  split
  · exact .refl w
  · exact (untied_updateStream s _ w).trans (untied_emit rfl _)

theorem untied_closeStream (s : StreamId) (w : Endpoint) : Untied w (w.closeStream s) := by
  simp only [closeStream]
  split
  · exact .refl w
  · split
    · exact (untied_updateStream s _ w).trans (untied_shut s _)
    · exact untied_updateStream s _ w

theorem untied_resolve (g : GateId) (x : Writer) (w : Endpoint) : Untied w (w.resolve g x) := by
  simp only [resolve]
  split
  · exact .refl w
  · exact untied_of_trace ⟨rfl, rfl, rfl, rfl⟩ rfl rfl

theorem untied_bindReader (s : StreamId) (w : Endpoint) : Untied w (w.bindReader s) :=
  (untied_emit rfl w).trans (untied_reportAll _ _)

theorem untied_bindWriter (s : StreamId) (d : StreamDescription) (w : Endpoint) :
    Untied w (w.bindWriter s d) := (untied_emit rfl w).trans (untied_reportAll _ _)

theorem untied_releaseStream (d : StreamDescription) (w : Endpoint) :
    Untied w (w.releaseStream d) := (untied_emit rfl w).trans (untied_reportAll _ _)

/-- What an attempt to use a stream may do. A trap is sprung at most once, and then another stream
may be closed. -/
structure Touches (s : StreamId) (w w' : Endpoint) : Prop extends Untied w w' where
  size : w'.streams.size = w.streams.size
  gates : w'.gates = w.gates
  ready : w'.transport.ready = w.transport.ready
  failure : w'.transport.failure = w.transport.failure
  trap : w.transport.trap = none → w'.transport.trap = none
  others : w.transport.trap = none → ∀ s', s' ≠ s → w'.stream s' = w.stream s'

theorem Touches.refl (s : StreamId) (w : Endpoint) : Touches s w w :=
  ⟨.refl w, rfl, rfl, rfl, rfl, id, fun _ _ _ => rfl⟩

theorem Touches.trans (h : Touches s w₁ w₂) (h' : Touches s w₂ w₃) : Touches s w₁ w₃ where
  toUntied := h.toUntied.trans h'.toUntied
  size := h'.size.trans h.size
  gates := h'.gates.trans h.gates
  ready := h'.ready.trans h.ready
  failure := h'.failure.trans h.failure
  trap ht := h'.trap (h.trap ht)
  others ht s' hs := (h'.others (h.trap ht) s' hs).trans (h.others ht s' hs)

theorem touches_emit {e : Event} (he : e.isTie = false) (s : StreamId) (w : Endpoint) :
    Touches s w (w.emit e) :=
  ⟨untied_emit he w, rfl, rfl, rfl, rfl, id, fun _ _ _ => rfl⟩

theorem touches_updateStream (s : StreamId) (f : LazyStream → LazyStream) (w : Endpoint) :
    Touches s w (w.updateStream s f) :=
  ⟨untied_updateStream s f w, rfl, rfl, rfl, rfl, id, fun _ _ hs => stream_updateStream_ne f w hs⟩

theorem touches_closeStream (s : StreamId) (w : Endpoint) : Touches s w (w.closeStream s) := by
  have hr := sameRest_closeStream s w
  refine ⟨untied_closeStream s w, size_closeStream s w, hr.gates, ?_, ?_, fun h => ?_,
    fun _ s' hs => ?_⟩
  · rw [hr.transport]
  · rw [hr.transport]
  · rwa [hr.transport]
  · rw [stream_closeStream, if_neg hs]

theorem touches_springTrap (s : StreamId) (w : Endpoint) : Touches s w w.springTrap := by
  simp only [springTrap]
  split
  · rename_i i hi
    have hc := touches_closeStream i { w with transport := { w.transport with trap := none } }
    have hu : Untied w { w with transport := { w.transport with trap := none } } :=
      untied_of_trace ⟨rfl, rfl, rfl, rfl⟩ rfl rfl
    have hn : w.transport.trap ≠ none := hi ▸ Option.some_ne_none i
    exact ⟨hu.trans hc.toUntied, hc.size, hc.gates, hc.ready, hc.failure,
      fun h => absurd h hn, fun h => absurd h hn⟩
  · exact .refl s w

theorem upkeep_touches (s : StreamId) : Upkeep s (Touches s) where
  refl := .refl s
  trans := .trans
  emit he := touches_emit (Event.isTie_of_isUpkeep he) s
  updateStream _ _ := touches_updateStream s _
  springTrap := touches_springTrap s

theorem touches_bind {α β : Type} {a : Attempt (Outcome α)}
    {f : α → Endpoint → Attempt (Outcome β)} (h : Touches s w a.endpoint)
    (hf : ∀ x w', Touches s w' (f x w').endpoint) : Touches s w (a.bind f).endpoint := by
  cases a with
  | ready r w' =>
    cases r with
    | ok x => exact h.trans (hf x w')
    | error e => exact h
  | blocked p w' => exact h

theorem touches_obtain (b : Pace) (t : Ticket) (s : StreamId) (p : Progress) (w : Endpoint) :
    Touches s w (w.obtain b t s p).endpoint := (upkeep_touches s).obtain b t p w

theorem touches_receive? (b : Pace) (s : StreamId) (size : Nat) (w : Endpoint) :
    Touches s w (w.receive? b s size).endpoint := by
  have hpop : ∀ data, Touches s w (w.receive s size data).endpoint := by
    intro data
    have hp : Touches s w { w with transport := w.transport.pop (w.ssrcOf s) } :=
      ⟨untied_of_trace ⟨rfl, rfl, rfl, rfl⟩ rfl rfl, rfl, rfl, rfl, rfl, id, fun _ _ _ => rfl⟩
    exact hp.trans (touches_emit (e := .received s (w.ssrcOf s) (data.take size)) rfl s _)
  dsimp only [receive?]
  split
  · exact .refl s w
  · split
    · exact .refl s w
    · exact hpop _
    · split <;> exact .refl s w

theorem touches_read (b : Pace) (t : Ticket) (s : StreamId) (size : Nat) (p : Progress)
    (w : Endpoint) : Touches s w (w.read b t s size p).endpoint := by
  have hw : Touches s w (w.readWithoutDeadline b t s size p).endpoint := by
    have ho : Touches s w ((w.obtain b t s p).bind fun _ w' => w'.receive? b s size).endpoint :=
      touches_bind (touches_obtain b t s p w) fun _ w' => touches_receive? b s size w'
    rcases readWithoutDeadline_cases b t s size p w with ⟨-, h⟩ | h
    · exact h ▸ touches_receive? b s size w
    · exact h ▸ ho
  dsimp only [read]
  split
  · rename_i heq
    rwa [heq] at hw
  · rename_i heq
    rw [heq] at hw
    split
    · exact hw.trans (touches_updateStream s _ _)
    · exact hw

theorem touches_write (b : Pace) (t : Ticket) (s : StreamId) (packet : Packet) (p : Progress)
    (w : Endpoint) : Touches s w (w.write b t s packet p).endpoint := by
  refine touches_bind (touches_obtain b t s p w) fun _ w' => ?_
  obtain ⟨r, hr⟩ := endpoint_send s packet w'
  rw [hr]
  exact touches_emit rfl s w'

end Endpoint

open Endpoint

theorem Request.related_attempt {R : Endpoint → Endpoint → Prop} (refl : ∀ w, R w w)
    {roster : Roster} {b : Pace} {t : Ticket}
    (read : ∀ s size p w, R w (w.read b t s size p).endpoint)
    (write : ∀ s packet p w, R w (w.write b t s packet p).endpoint)
    (report : ∀ r w, R w (w.emit (.report r))) (r : Request) (p : Progress) (w : Endpoint) :
    R w (r.attempt roster b t p w).endpoint := by
  have hawait : ∀ {α : Type} (x : Option α), R w (w.await x).endpoint := by
    intro α x
    cases x <;> exact refl w
  cases r with
  | sending l => exact hawait _
  | reader k feed => exact (endpoint_reader roster b t k feed p w).symm ▸ refl w
  | bindings track => exact refl w
  | gate g => exact hawait _
  | read s size => exact read s size p w
  | write s packet => exact write s packet p w
  | report r => exact report r w

theorem Request.gates_attempt (roster : Roster) (b : Pace) (t : Ticket) (r : Request)
    (p : Progress) (w : Endpoint) : (r.attempt roster b t p w).endpoint.gates = w.gates :=
  related_attempt (R := fun w w' => w'.gates = w.gates) (fun _ => rfl)
    (fun s size p w => (touches_read b t s size p w).gates)
    (fun s packet p w => (touches_write b t s packet p w).gates) (fun _ _ => rfl) r p w

theorem Task.related_poll {R : Endpoint → Endpoint → Prop} (refl : ∀ w, R w w)
    (trans : ∀ {w₁ w₂ w₃}, R w₁ w₂ → R w₂ w₃ → R w₁ w₃) {roster : Roster} {b : Pace} {t : Ticket}
    (attempt : ∀ (r : Request) p w, R w (r.attempt roster b t p w).endpoint) {α : Type}
    (task : Task α) (p : Progress) (w : Endpoint) : R w (task.poll roster b t p w).endpoint := by
  induction task generalizing p w with
  | done a => exact refl w
  | ask r next ih =>
    have ha := attempt r p w
    rw [poll]
    split
    · rename_i heq
      rw [heq] at ha
      exact trans ha (ih _ _ _)
    · rename_i heq
      rwa [heq] at ha

theorem Task.untied_poll {α : Type} (roster : Roster) (b : Pace) (t : Ticket) (task : Task α)
    (p : Progress) (w : Endpoint) : Untied w (task.poll roster b t p w).endpoint :=
  task.related_poll .refl .trans
    (Request.related_attempt .refl (fun s size p w => (touches_read b t s size p w).toUntied)
      (fun s packet p w => (touches_write b t s packet p w).toUntied) fun _ => untied_emit rfl) p w

theorem Task.gates_poll {α : Type} (roster : Roster) (b : Pace) (t : Ticket) (task : Task α)
    (p : Progress) (w : Endpoint) : (task.poll roster b t p w).endpoint.gates = w.gates :=
  task.related_poll (R := fun w w' => w'.gates = w.gates) (fun _ => rfl) (fun h h' => h'.trans h)
    (fun r => r.gates_attempt roster b t) p w

namespace Sender

theorem untied_addStream (ssrc : Ssrc) (deadline : Option Instant) (w : Endpoint) :
    Untied w (w.addStream ssrc deadline) := untied_of_trace ⟨rfl, rfl, rfl, rfl⟩ rfl rfl

theorem untied_drawSsrc (w : Endpoint) : Untied w w.drawSsrc := by
  simp only [drawSsrc]
  split <;> exact untied_of_trace ⟨rfl, rfl, rfl, rfl⟩ rfl rfl

theorem untied_prepared (w : Endpoint) : Untied w (prepared w) :=
  ((untied_drawSsrc w).trans (untied_addStream _ _ _)).trans (untied_bindReader _ _)

theorem untied_reserve (wanted : Bool) (w : Endpoint) : Untied w (reserve wanted w) := by
  simp only [reserve]
  split
  · exact untied_drawSsrc w
  · exact .refl w

theorem untied_withEncoding (id : String) (t : Track) (w : Endpoint) :
    Untied w (withEncoding id t w) :=
  (((untied_prepared w).trans (untied_reserve _ _)).trans (untied_reserve _ _)).trans
    (untied_log _ _ _)

theorem untied_openPrimary (e : Encoding) (c : Coding) (w : Endpoint) :
    Untied w (openPrimary e c w) := by
  have hadd : Untied w ((w.addStream c.ssrc (w.stream e.primary.stream).deadline).addGate) :=
    untied_of_trace ⟨rfl, rfl, rfl, rfl⟩ rfl rfl
  exact hadd.trans (untied_bindReader _ _)

theorem untied_bindCompanion (plan : Option CompanionPlan) (w : Endpoint) :
    Untied w (bindCompanion plan w) := by
  cases plan with
  | none => exact .refl w
  | some p =>
    exact ((untied_addStream p.ssrc none w).trans (untied_bindReader _ _)).trans
      (untied_bindWriter _ _ _)

theorem untied_bindStreams (l : Launch) (t : Track) (context : Context) (s : StreamId) (g : GateId)
    (codec : Codec) (c : Coding) (e : Encoding) (w : Endpoint) :
    Untied w (bindStreams l t context s g codec c e w).endpoint :=
  ((((untied_bindWriter _ _ w).trans (untied_resolve _ _ _)).trans
    (untied_bindCompanion _ _)).trans (untied_bindCompanion _ _)).trans (untied_log _ _ _)

theorem untied_releaseAll (id : String) (bs : List BoundStream) (w : Endpoint) :
    Untied w (releaseAll id bs w).endpoint := by
  induction bs generalizing w with
  | nil => exact .refl w
  | cons b bs ih =>
    have hb : Untied w (release id b w).endpoint := by
      have hc := (untied_releaseStream b.description w).trans (untied_closeStream b.stream _)
      dsimp only [release]
      split
      · exact hc
      · exact hc.trans (untied_log _ _ _)
    exact hb.trans (ih _)

end Sender

namespace Session

variable {m : Move} {σ σ' : Session}

theorem Errand.untied_or_tied {w : Endpoint} (h : Errand m σ w) :
    Untied σ.endpoint w ∨ m.ties ∧ ∃ t c,
      w = σ.endpoint.bindTrack t c ∨ w = σ.endpoint.unbindTrack t c := by
  cases h with
  | nothing => exact .inl (.refl _)
  | report rs => exact .inl (untied_reportAll rs _)
  | deadline s deadline => exact .inl (untied_updateStream s _ _)
  | close named => exact .inl (untied_closeStream _ _)
  | addStream ssrc => exact .inl (untied_of_trace ⟨rfl, rfl, rfl, rfl⟩ rfl rfl)
  | addGate => exact .inl (untied_of_trace ⟨rfl, rfl, rfl, rfl⟩ rfl rfl)
  | resolve g x => exact .inl (untied_resolve g x _)
  | beside rest fate => exact .inl (untied_of_trace rest.toSameSetup rest.tracks rest.trace)
  | drop c =>
    simp only [Call.drop]
    split
    · exact .inl (untied_updateStream _ _ _)
    · exact .inl (.refl _)
  | bind t c ties => exact .inr ⟨ties, t, c, .inl rfl⟩
  | unbind t c ties => exact .inr ⟨ties, t, c, .inr rfl⟩

theorem Errand.untied {w : Endpoint} (h : Errand m σ w) (hm : m.ties = false) :
    Untied σ.endpoint w :=
  h.untied_or_tied.resolve_right fun ⟨ties, _⟩ => Bool.false_ne_true (hm.symm.trans ties)

end Session

end MediaSender
