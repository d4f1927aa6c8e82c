import MediaSender.Proofs.Stream.Delivery
/-!
How feedback is read. A layer that forwards reads asks the reader inside it once and returns the
data that it gets, whatever it notes or adds to the attributes. Through such layers a read is left
with one read of the stream below: what it returns was waiting there, and on a closed stream it is
over.
-/

namespace MediaSender

open Endpoint

/-- The reader inside is asked once, and the data come back as they are. -/
inductive LayerScript.Relays : ReadScript → Prop
  | inner (attributes : Attributes) {rest : Outcome (Bytes × Attributes) → ReadScript}
      (h : ∀ r, ∃ r' : Outcome (Bytes × Attributes),
        r'.map Prod.fst = r.map Prod.fst ∧ Returns r' (rest r)) :
      Relays (.inner attributes rest)
  | note (n : LayerNote) {rest : ReadScript} (h : Relays rest) : Relays (.note n rest)

def Layer.ForwardsReads (l : Layer) : Prop :=
  ∀ size attributes, LayerScript.Relays (l.read size attributes)

inductive Reader.Draws (s : StreamId) : Reader → Prop
  | stream : Draws s (.stream s)
  | wrapped {l : Layer} {inner : Reader} (forwards : l.ForwardsReads) (h : Draws s inner) :
      Draws s (.wrapped l inner)

theorem Chain.reader_draws {c : Chain} (h : ∀ l ∈ c, l.ForwardsReads) (s : StreamId) :
    (c.reader (.stream s)).Draws s := by
  induction c with
  | nil => exact .stream
  | cons l c ih =>
    obtain ⟨hl, hc⟩ := List.forall_mem_cons.mp h
    exact .wrapped hl (ih hc)

namespace Endpoint

variable {w w' w₁ w₂ w₃ : Endpoint} {s : StreamId}

structure SameData (w w' : Endpoint) : Prop where
  queue : w'.transport.queue = w.transport.queue
  ssrc : ∀ s, w'.ssrcOf s = w.ssrcOf s
  closed : ∀ s, (w.stream s).closed → (w'.stream s).closed
  shut : ∀ s, (w.stream s).shut → (w'.stream s).shut
  trace : w.trace <+: w'.trace

theorem SameData.refl (w : Endpoint) : SameData w w :=
  ⟨rfl, fun _ => rfl, fun _ => id, fun _ => id, List.prefix_rfl⟩

theorem SameData.trans (h : SameData w₁ w₂) (h' : SameData w₂ w₃) : SameData w₁ w₃ where
  queue := h'.queue.trans h.queue
  ssrc s := (h'.ssrc s).trans (h.ssrc s)
  closed s := h'.closed s ∘ h.closed s
  shut s := h'.shut s ∘ h.shut s
  trace := h.trace.trans h'.trace

theorem sameData_emit (e : Event) (w : Endpoint) : SameData w (w.emit e) :=
  ⟨rfl, fun _ => rfl, fun _ => id, fun _ => id, List.prefix_append _ _⟩

theorem sameData_updateStream (s : StreamId) {f : LazyStream → LazyStream}
    (hf : ∀ st, Grows st (f st)) (w : Endpoint) : SameData w (w.updateStream s f) := by
  have hs : ∀ s', Grows (w.stream s') ((w.updateStream s f).stream s') := fun s' => by
    rw [stream_updateStream]
    exact grows_ite _ (hf _)
  exact ⟨rfl, fun s' => (hs s').ssrc, fun s' => (hs s').closed, fun s' => (hs s').shut,
    List.prefix_rfl⟩

theorem tends_sameData (s : StreamId) : Tends s SameData where
  refl := .refl
  trans := .trans
  emit _ := sameData_emit _
  updateStream hf _ := sameData_updateStream s hf

theorem upkeep_sameData (s : StreamId) : Upkeep s SameData :=
  upkeep_of_tends tends_sameData
    (fun _ => ⟨rfl, fun _ => rfl, fun _ => id, fun _ => id, List.prefix_rfl⟩) s

/-- A call closes what was opened for it too late: it waits for that close already, or it comes to
it now. -/
def ShutsLate (s : StreamId) (p : Progress) (w w' : Endpoint) : Prop :=
  p.isShutting ∨ (w.stream s).shut = false ∧ (w'.stream s).shut

theorem ShutsLate.of_sameData {p : Progress} (h : SameData w w₁)
    (late : ShutsLate s .fresh w₁ w₂) : ShutsLate s p w w₂ := by
  rcases late with fresh | ⟨before, after⟩
  · cases fresh
  · refine .inr ⟨eq_false_of_ne_true fun hs => ?_, after⟩
    exact absurd (before.symm.trans (h.shut s hs)) Bool.false_ne_true

theorem ShutsLate.keeps {p : Progress} (late : ShutsLate s p w w₁) (h : SameData w₁ w₂) :
    ShutsLate s p w w₂ := late.imp_right fun ⟨before, after⟩ => ⟨before, h.shut s after⟩

theorem shutsLate_shut {p : Progress} (h : SameData w w') (before : (w'.stream s).shut = false) :
    ShutsLate s p w (w'.shut s) := by
  refine ShutsLate.of_sameData h (.inr ⟨before, ?_⟩)
  rw [stream_shut, if_pos rfl]
  rfl

theorem not_prompt {L : Prop} {b : Pace} (late : L) (lingers : b.lingers s) :
    ¬ (L → b.lingers s = false) := fun prompt =>
  Bool.false_ne_true ((prompt late).symm.trans lingers)

structure Patient {α : Type} (b : Pace) (s : StreamId) (p : Progress) (w : Endpoint)
    (a : Attempt α) : Prop where
  data : SameData w a.endpoint
  alive : (ShutsLate s p w a.endpoint → b.lingers s = false) →
    ∀ p' w', a = .blocked p' w' → (w.stream s).closed = false

variable {p : Progress}

theorem patient_ready {α : Type} (b : Pace) (s : StreamId) (a : α) (h : SameData w w') :
    Patient b s p w (.ready a w') := ⟨h, fun _ _ _ h => nomatch h⟩

theorem patient_openOrClosed (b : Pace) (t : Ticket) (s : StreamId) (p : Progress) (w : Endpoint) :
    Patient b s p w (w.openOrClosed b t s p) := by
  have ho := (upkeep_sameData s).open? t p w
  dsimp only [openOrClosed]
  split
  · exact patient_ready b s _ ((tends_sameData s).releaseClaim t w)
  · split
    · rename_i heq
      rw [heq] at ho
      exact patient_ready b s _ ho
    · rename_i heq
      rw [heq] at ho
      split
      · exact patient_ready b s _ (ho.trans ((tends_sameData s).releaseClaim t _))
      · rename_i hc
        exact ⟨ho, fun _ _ _ _ => eq_false_of_ne_true fun h => hc (ho.closed s h)⟩

theorem patient_awaitShut (b : Pace) (s : StreamId) (shutting : p.isShutting) (w : Endpoint) :
    Patient b s p w (w.awaitShut b s) :=
  ⟨(tends_sameData s).awaitShut b w,
    fun prompt _ _ h => nomatch (awaitShut_now (prompt (.inl shutting)) w).symm.trans h⟩

theorem patient_shutLate (b : Pace) (s : StreamId) (h : SameData w w') :
    Patient b s p w (w'.shutLate b s) := by
  refine ⟨h.trans ((tends_sameData s).shutLate b w'), fun prompt p' w'' hb => ?_⟩
  rcases shutLate_cases b s w' with ⟨w₁, hr⟩ | ⟨lingers, before, hs⟩
  · cases hr.symm.trans hb
  · rw [hs] at prompt
    exact absurd prompt (not_prompt (shutsLate_shut h before) lingers)

theorem patient_bind {α β : Type} {b : Pace} {a : Attempt (Outcome α)}
    {f : α → Endpoint → Attempt (Outcome β)} (h : Patient b s p w a)
    (hf : ∀ x w', SameData w w' → Patient b s p w (f x w')) : Patient b s p w (a.bind f) := by
  cases a with
  | ready r w' =>
    cases r with
    | ok x => exact hf x w' h.data
    | error e => exact patient_ready b s _ h.data
  | blocked p' w' => exact ⟨h.data, fun prompt _ _ _ => h.alive prompt p' w' rfl⟩

theorem patient_obtain (b : Pace) (t : Ticket) (s : StreamId) (p : Progress) (w : Endpoint) :
    Patient b s p w (w.obtain b t s p) := by
  have henter : Patient b s p w (w.enter b t s p) := by
    simp only [enter]
    split
    · exact patient_ready b s _ (.refl w)
    · refine patient_bind (patient_openOrClosed b t s p w) fun _ w' h => ?_
      split
      · exact patient_shutLate b s h
      · exact patient_ready b s _ h
  cases p with
  | shutting deadline => exact patient_awaitShut b s rfl w
  | _ => exact henter

def Took (s : StreamId) (size : Nat) (data : Bytes) (w w' : Endpoint) : Prop :=
  ∃ datagram rest es, w.transport.queue (w.ssrcOf s) = datagram :: rest ∧
    data = datagram.take size ∧ w'.trace = w.trace ++ es ∧
    .received s (w.ssrcOf s) data ∈ es

theorem Took.of_sameData {size : Nat} {data : Bytes} (h : SameData w w₁)
    (took : Took s size data w₁ w₂) : Took s size data w w₂ := by
  obtain ⟨datagram, rest, es, queue, take, trace, received⟩ := took
  obtain ⟨es', htrace⟩ := h.trace
  rw [h.queue, h.ssrc] at queue
  rw [h.ssrc] at received
  exact ⟨datagram, rest, es' ++ es, queue, take, by rw [trace, ← htrace, List.append_assoc],
    List.mem_append_right _ received⟩

theorem Took.emitAll {size : Nat} {data : Bytes} (took : Took s size data w w')
    (es : List Event) : Took s size data w (w'.emitAll es) := by
  obtain ⟨datagram, rest, es', queue, take, trace, received⟩ := took
  exact ⟨datagram, rest, es' ++ es, queue, take, by rw [trace_emitAll, trace, List.append_assoc],
    List.mem_append_left _ received⟩

structure Drawn (b : Pace) (s : StreamId) (size : Nat) (p : Progress) (w : Endpoint)
    (a : Attempt (Outcome Bytes)) : Prop where
  took : ∀ data w', a = .ready (.ok data) w' → Took s size data w w'
  alive : (ShutsLate s p w a.endpoint → b.lingers s = false) →
    ∀ p' w', a = .blocked p' w' → (w.stream s).closed = false

theorem drawn_failed {b : Pace} {size : Nat} (e : Failure) (w' : Endpoint) :
    Drawn b s size p w (.ready (.error e) w') :=
  ⟨fun _ _ h => (nomatch h), fun _ _ _ h => nomatch h⟩

theorem drawn_receive? (b : Pace) (size : Nat) (h : SameData w w₁) :
    Drawn b s size p w (w₁.receive? b s size) := by
  dsimp only [receive?]
  split
  · exact drawn_failed _ _
  · split
    · exact drawn_failed _ _
    · rename_i datagram rest _ queue
      refine ⟨fun data w' hready => Took.of_sameData h ?_, fun _ _ _ h => nomatch h⟩
      cases hready
      exact ⟨datagram, rest, [_], queue, rfl, rfl, List.mem_singleton_self _⟩
    · split
      · exact drawn_failed _ _
      · rename_i hc
        exact ⟨fun _ _ h => (nomatch h),
          fun _ _ _ _ => eq_false_of_ne_true fun hs => hc (h.closed s hs)⟩

theorem drawn_readWithoutDeadline (b : Pace) (t : Ticket) (s : StreamId) (size : Nat)
    (p : Progress) (w : Endpoint) : Drawn b s size p w (w.readWithoutDeadline b t s size p) := by
  rcases readWithoutDeadline_cases b t s size p w with ⟨-, h⟩ | h
  · exact h ▸ drawn_receive? b size (.refl w)
  · rw [h]
    have hp := patient_obtain b t s p w
    generalize w.obtain b t s p = a at hp
    cases a with
    | ready r w' =>
      cases r with
      | ok x => exact drawn_receive? b size hp.data
      | error e => exact drawn_failed e w'
    | blocked p' w' =>
      exact ⟨fun _ _ h => (nomatch h), fun prompt _ _ _ => hp.alive prompt p' w' rfl⟩

theorem drawn_read (b : Pace) (t : Ticket) (s : StreamId) (size : Nat) (p : Progress)
    (w : Endpoint) : Drawn b s size p w (w.read b t s size p) := by
  have hr := drawn_readWithoutDeadline b t s size p w
  dsimp only [read]
  split
  · rename_i heq
    rwa [heq] at hr
  · rename_i p' w' heq
    rw [heq] at hr
    split
    · exact drawn_failed _ _
    · exact ⟨fun _ _ h => (nomatch h), fun prompt _ _ _ => hr.alive prompt p' w' rfl⟩

end Endpoint

namespace Task

variable {α β : Type} {s : StreamId} {size : Nat}

inductive Concludes (P : α → Prop) : Task α → Prop
  | done {a : α} (h : P a) : Concludes P (.done a)
  | note (r : Report) {next : Unit → Task α} (h : Concludes P (next ())) :
      Concludes P (.ask (.report r) next)

inductive Draws (s : StreamId) (size : Nat) (P : Outcome Bytes → α → Prop) : Task α → Prop
  | read {next : Outcome Bytes → Task α} (h : ∀ r, Concludes (P r) (next r)) :
      Draws s size P (.ask (.read s size) next)
  | note (r : Report) {next : Unit → Task α} (h : Draws s size P (next ())) :
      Draws s size P (.ask (.report r) next)

theorem Concludes.bind {P : α → Prop} {Q : β → Prop} {task : Task α} {f : α → Task β}
    (h : task.Concludes P) (hf : ∀ a, P a → (f a).Concludes Q) : (task.bind f).Concludes Q := by
  induction h with
  | done h => exact hf _ h
  | note r _ ih => exact .note r ih

theorem Concludes.mono {P Q : α → Prop} {task : Task α} (h : task.Concludes P)
    (hf : ∀ a, P a → Q a) : task.Concludes Q := by
  induction h with
  | done h => exact .done (hf _ h)
  | note r _ ih => exact .note r ih

theorem Draws.bind {P : Outcome Bytes → α → Prop} {Q : Outcome Bytes → β → Prop} {task : Task α}
    {f : α → Task β} (h : task.Draws s size P) (hf : ∀ r a, P r a → (f a).Concludes (Q r)) :
    (task.bind f).Draws s size Q := by
  induction h with
  | read h => exact .read fun r => (h r).bind (hf r)
  | note r _ ih => exact .note r ih

inductive DrawPolled (b : Pace) (s : StreamId) (size : Nat) (P : Outcome Bytes → α → Prop)
    (p : Progress) (w : Endpoint) : Polled α → Prop
  | waiting {task : Task α} (p' : Progress) (w' : Endpoint) (draws : task.Draws s size P)
      (alive : (ShutsLate s p w w' → b.lingers s = false) → (w.stream s).closed = false) :
      DrawPolled b s size P p w (.waiting task p' w')
  | finished {a : α} {w' : Endpoint} (r : Outcome Bytes) (holds : P r a)
      (took : ∀ data, r = .ok data → Took s size data w w') :
      DrawPolled b s size P p w (.finished a w')

variable {P : Outcome Bytes → α → Prop} {task : Task α} {w w₁ : Endpoint}

theorem DrawPolled.of_sameData {b : Pace} {p : Progress} {x : Polled α} (h : SameData w w₁)
    (hx : DrawPolled b s size P .fresh w₁ x) : DrawPolled b s size P p w x := by
  cases hx with
  | waiting p' w' draws alive =>
    refine .waiting p' w' draws fun prompt => eq_false_of_ne_true fun hc => ?_
    have hopen := alive fun late => prompt (late.of_sameData h)
    exact absurd (hopen.symm.trans (h.closed s hc)) Bool.false_ne_true
  | finished r holds took => exact .finished r holds fun data hr => (took data hr).of_sameData h

section

variable (roster : Roster) (b : Pace) (t : Ticket) (p : Progress)

theorem Concludes.poll {P : α → Prop} (h : task.Concludes P) (w : Endpoint) :
    ∃ a es, task.poll roster b t p w = .finished a (w.emitAll es) ∧ P a := by
  induction h generalizing w p with
  | @done a h => exact ⟨a, [], by rw [Task.poll, emitAll, List.append_nil], h⟩
  | note r _ ih =>
    obtain ⟨a, es, hpoll, ha⟩ := ih .fresh (w.emit (.report r))
    refine ⟨a, .report r :: es, hpoll.trans ?_, ha⟩
    simp [emitAll, emit]

theorem Draws.poll (h : task.Draws s size P) (w : Endpoint) :
    DrawPolled b s size P p w (task.poll roster b t p w) := by
  induction h generalizing w p with
  | @read next h =>
    have hd := drawn_read b t s size p w
    have hq : Draws s size P (.ask (.read s size) next) := .read h
    simp only [Task.poll, Request.attempt]
    generalize w.read b t s size p = a at hd
    cases a with
    | ready r w' =>
      obtain ⟨a, es, hpoll, ha⟩ := (h r).poll roster b t .fresh w'
      dsimp only
      rw [hpoll]
      refine .finished r ha fun data hr => ?_
      cases hr
      exact (hd.took data w' rfl).emitAll es
    | blocked p' w' => exact .waiting p' w' hq fun prompt => hd.alive prompt p' w' rfl
  | note r _ ih => exact (ih .fresh (w.emit (.report r))).of_sameData (sameData_emit _ w)

end

end Task

def Returned (r : Outcome Bytes) (a : Outcome (Bytes × Attributes)) : Prop := a.map Prod.fst = r

variable {s : StreamId} {size : Nat}

theorem LayerScript.Returns.concludes {query answer : Type} (name : String)
    (inner : query → Task (Outcome answer)) {r : Outcome answer} {script : LayerScript query answer}
    (h : Returns r script) : (script.task name inner).Concludes (· = r) := by
  induction h with
  | done => exact .done rfl
  | note n _ ih => exact .note _ ih

theorem LayerScript.Relays.draws (name : String) {inner : Attributes → Task _} {script : ReadScript}
    (h : Relays script) (hi : ∀ attributes, (inner attributes).Draws s size Returned) :
    (script.task name inner).Draws s size Returned := by
  induction h with
  | inner attributes hrest =>
    refine (hi attributes).bind fun r a hr => ?_
    obtain ⟨r', hdata, hreturns⟩ := hrest a
    refine Task.Concludes.mono (hreturns.concludes name inner) fun a' ha => ?_
    exact ha ▸ hdata.trans hr
  | note n _ ih => exact .note _ ih

theorem Reader.Draws.read {x : Reader} (h : x.Draws s) (size : Nat) (attributes : Attributes) :
    (x.read size attributes).Draws s size Returned := by
  induction h generalizing attributes with
  | stream => exact .read fun r => .done (by cases r <;> rfl)
  | wrapped forwards _ ih => exact (forwards size attributes).draws _ ih

end MediaSender
