import MediaSender.Proofs.Run.Reach
import MediaSender.Proofs.Run.Sound
/-!
What a poll does. A poll of a task changes the endpoint by elementary changes only: it opens a
stream that was not open, and it sends on streams that are open and not closed.
-/

namespace MediaSender

def Attempt.endpoint {α : Type} : Attempt α → Endpoint
  | ready _ w => w
  | blocked _ w => w

def Polled.endpoint {α : Type} : Polled α → Endpoint
  | finished _ w => w
  | waiting _ _ w => w

def Progress.Fits (p : Progress) (s : Option StreamId) (w : Endpoint) : Prop :=
  ∀ deadline i, p = .receiving deadline → s = some i → (w.stream i).opened

def Progress.obtains : Progress → Bool
  | queued _ | opening _ | shutting _ => true
  | fresh | receiving _ => false

def Progress.isShutting : Progress → Bool
  | shutting _ => true
  | _ => false

theorem Progress.not_shutting_fresh : ¬ Progress.fresh.isShutting := Bool.false_ne_true

theorem Progress.not_receiving_of_obtains {p : Progress} (h : p.obtains) (d : Option Instant) :
    p ≠ .receiving d := by
  rintro rfl
  cases h

theorem Progress.fits_fresh (s : Option StreamId) (w : Endpoint) : Progress.fresh.Fits s w := by
  intro deadline i h
  cases h

namespace Endpoint

variable {free closes : StreamId → Prop} {w w' : Endpoint}

theorem evolves_claim (t : Ticket) (s : StreamId) (w : Endpoint) :
    Evolves free closes w (w.claim t s) := by
  refine (Change.tend w s ?_ ?_ ?_ ?_).evolves <;>
  · intro st
    simp only [LazyStream.claim]
    split <;> rfl

theorem evolves_releaseClaim (t : Ticket) (s : StreamId) (w : Endpoint) :
    Evolves free closes w (w.releaseClaim t s) :=
  (Change.tend w s (f := .release t) (fun _ => rfl) (fun _ => rfl) (fun _ => rfl)
    fun _ => rfl).evolves

def Trapped (w : Endpoint) (s : StreamId) : Prop := w.transport.trap = some s

theorem evolves_springTrap (h : ∀ s, w.Trapped s → w.Known s) :
    Evolves free w.Trapped w w.springTrap := by
  simp only [springTrap]
  split
  · rename_i s hs
    have hd : Change free w.Trapped w { w with transport := { w.transport with trap := none } } :=
      .surroundings rfl rfl rfl rfl rfl fun _ h => nomatch h
    exact hd.evolves.tail (.close _ (h s hs) hs)
  · exact .refl w

theorem opened_springTrap (s : StreamId) (w : Endpoint) :
    (w.springTrap.stream s).opened = (w.stream s).opened := by
  simp only [springTrap]
  split
  · rw [stream_closeStream]
    split
    · rw [opened_closing]
      rfl
    · rfl
  · rfl

inductive OpenResult (free : StreamId → Prop) (s : StreamId) (w : Endpoint) :
    Attempt (Outcome Unit) → Prop
  | already (opened : (w.stream s).opened) : OpenResult free s w (.ready (.ok ()) w)
  | opened {w₁ : Endpoint} (evolves : Evolves free w.Trapped w w₁)
      (opened : (w₁.stream s).opened = false) :
      OpenResult free s w (.ready (.ok ()) (w₁.markOpen s))
  | failed (e : Failure) {w₁ : Endpoint} (evolves : Evolves free w.Trapped w w₁) :
      OpenResult free s w (.ready (.error e) w₁)
  | blocked {p : Progress} {w₁ : Endpoint} (evolves : Evolves free w.Trapped w w₁)
      (progress : p.obtains) : OpenResult free s w (.blocked p w₁)

theorem openNow_result {w₀ : Endpoint} (t : Ticket) {s : StreamId}
    (h₀ : Evolves free w₀.Trapped w₀ w) (ht : w.transport = w₀.transport)
    (h : ∀ s, w.Trapped s → w.Known s) (ho : (w.stream s).opened = false) :
    OpenResult free s w₀ (w.openNow t s) := by
  have hw : ∀ s', (w.emit (.opening s (w.ssrcOf s))).Trapped s' →
      (w.emit (.opening s (w.ssrcOf s))).Known s' := h
  have htrap : ∀ s', (w.emit (.opening s (w.ssrcOf s))).Trapped s' → w₀.Trapped s' := by
    intro s' h'
    rwa [Trapped, ← ht]
  have hs : Evolves free w₀.Trapped w₀ (w.emit (.opening s (w.ssrcOf s))).springTrap :=
    (h₀.trans (evolves_emit w rfl)).trans ((evolves_springTrap hw).mono (fun _ => id) htrap)
  have hg : Evolves free _ _ _ := evolves_springTrap hw
  have hssrc := (hg.grows s).ssrc
  dsimp only [openNow]
  split
  · exact .failed _ (hs.trans (evolves_releaseClaim t s _))
  · have hm : ((w.emit (.opening s (w.ssrcOf s))).springTrap.updateStream s .markOpened).emit
        (.opened s (w.ssrcOf s)) = (w.emit (.opening s (w.ssrcOf s))).springTrap.markOpen s :=
      congrArg (fun x => Endpoint.emit (.opened s x) _) hssrc.symm
    rw [hm]
    refine .opened hs ?_
    rw [opened_springTrap]
    exact ho

theorem openAs_result {w₀ : Endpoint} (t : Ticket) {s : StreamId} (started : Bool)
    (h₀ : Evolves free w₀.Trapped w₀ w) (ht : w.transport = w₀.transport)
    (h : ∀ s, w.Trapped s → w.Known s) (ho : (w.stream s).opened = false) :
    OpenResult free s w₀ (w.openAs t s started) := by
  cases started with
  | true =>
    simp only [openAs, ↓reduceIte]
    split
    · exact openNow_result t h₀ ht h ho
    · exact .blocked h₀ rfl
  | false =>
    have hl := h₀.trans (evolves_log .trace (openingText (w.ssrcOf s)) w)
    simp only [openAs, Bool.false_eq_true, ↓reduceIte]
    split
    · exact openNow_result t hl ht h ho
    · exact .blocked hl rfl

theorem open?_result (t : Ticket) {s : StreamId} (p : Progress)
    (h : ∀ s, w.Trapped s → w.Known s) : OpenResult free s w (w.open? t s p) := by
  dsimp only [open?]
  split
  · exact .already ‹_›
  · rename_i ho
    have hc : Evolves free w.Trapped w (w.claim t s) := evolves_claim t s w
    have hoc : ((w.claim t s).stream s).opened = false := by
      rw [claim, stream_updateStream_self, LazyStream.claim]
      split <;> exact eq_false_of_ne_true ho
    split
    · exact openAs_result t _ hc rfl h hoc
    · exact .blocked hc rfl

theorem openOrClosed_result (b : Pace) (t : Ticket) {s : StreamId} (p : Progress)
    (h : ∀ s, w.Trapped s → w.Known s) : OpenResult free s w (w.openOrClosed b t s p) := by
  dsimp only [openOrClosed]
  split
  · exact .failed _ (evolves_releaseClaim t s w)
  · have hr : OpenResult free s w (w.open? t s p) := open?_result t p h
    generalize w.open? t s p = r at hr
    cases hr with
    | already opened => exact .already opened
    | opened evolves opened => exact .opened evolves opened
    | failed e evolves => exact .failed e evolves
    | blocked evolves progress =>
      dsimp only
      split
      · exact .failed _ (evolves.trans (evolves_releaseClaim t s _))
      · exact .blocked evolves progress

inductive Obtained (free : StreamId → Prop) (s : StreamId) (w : Endpoint) :
    Attempt (Outcome Unit) → Prop
  | given {w₁ : Endpoint} (evolves : Evolves free w.Trapped w w₁) (opened : (w₁.stream s).opened)
      (closed : (w₁.stream s).closed = false) : Obtained free s w (.ready (.ok ()) w₁)
  | failed (e : Failure) {w₁ : Endpoint} (evolves : Evolves free w.Trapped w w₁) :
      Obtained free s w (.ready (.error e) w₁)
  | blocked {p : Progress} {w₁ : Endpoint} (evolves : Evolves free w.Trapped w w₁)
      (progress : p.obtains) : Obtained free s w (.blocked p w₁)

theorem awaitShut_now {b : Pace} {s : StreamId} (h : b.lingers s = false) (w : Endpoint) :
    w.awaitShut b s = .ready (.error .closedPipe) (w.awaitShut b s).endpoint := by
  rw [awaitShut, if_neg (by rw [h]; exact Bool.false_ne_true)]
  rfl

theorem shutLate_cases (b : Pace) (s : StreamId) (w : Endpoint) :
    (∃ w', w.shutLate b s = .ready (.error .closedPipe) w') ∨
      b.lingers s ∧ (w.stream s).shut = false ∧
        w.shutLate b s = .blocked (.shutting none) (w.shut s) := by
  simp only [shutLate]
  split
  · exact .inl ⟨w, rfl⟩
  · cases hl : b.lingers s with
    | false => exact .inl ⟨_, awaitShut_now hl _⟩
    | true => exact .inr ⟨rfl, eq_false_of_ne_true ‹_›, if_pos hl⟩

theorem awaitShut_result {w₀ : Endpoint} (b : Pace) (s : StreamId)
    (h₀ : Evolves free w₀.Trapped w₀ w) : Obtained free s w₀ (w.awaitShut b s) := by
  simp only [awaitShut]
  split
  · exact .blocked h₀ rfl
  · split
    · exact .failed _ (h₀.trans (evolves_log _ _ w))
    · exact .failed _ h₀

theorem shutLate_result {w₀ : Endpoint} (b : Pace) {s : StreamId}
    (h₀ : Evolves free w₀.Trapped w₀ (w.shut s)) : Obtained free s w₀ (w.shutLate b s) := by
  simp only [shutLate]
  split
  · rw [shut, if_pos ‹_›] at h₀
    exact .failed _ h₀
  · exact awaitShut_result b s h₀

theorem enter_result (b : Pace) (t : Ticket) {s : StreamId} (p : Progress) (hs : w.Known s)
    (h : ∀ s, w.Trapped s → w.Known s) : Obtained free s w (w.enter b t s p) := by
  simp only [enter]
  split
  · exact .failed _ (.refl w)
  · have hr : OpenResult free s w (w.openOrClosed b t s p) := openOrClosed_result b t p h
    generalize w.openOrClosed b t s p = r at hr
    cases hr with
    | already opened =>
      dsimp only [Attempt.bind]
      split
      · exact shutLate_result b (Change.shut w opened ‹_›).evolves
      · rename_i hopen
        exact .given (.refl w) opened (eq_false_of_ne_true hopen)
    | @opened w₁ evolves opened =>
      have ha : Evolves free w.Trapped w (w₁.finishOpen s) :=
        evolves.tail (.finishOpen w₁ (evolves.extends.known hs) opened)
      have hm : (w₁.markOpen s).stream s = (w₁.stream s).markOpened := by
        rw [stream_markOpen, if_pos rfl]
      have hc : ((w₁.markOpen s).stream s).closed = (w₁.stream s).closed := by rw [hm]; rfl
      rw [finishOpen, ← hc] at ha
      dsimp only [Attempt.bind]
      split
      · rw [if_pos ‹_›] at ha
        exact shutLate_result b ha
      · rename_i hopen
        rw [if_neg hopen] at ha
        exact .given ha (by rw [hm]; rfl) (eq_false_of_ne_true hopen)
    | failed e evolves => exact .failed e evolves
    | blocked evolves progress => exact .blocked evolves progress

theorem obtain_result (b : Pace) (t : Ticket) {s : StreamId} (p : Progress) (hs : w.Known s)
    (h : ∀ s, w.Trapped s → w.Known s) : Obtained free s w (w.obtain b t s p) := by
  cases p with
  | shutting deadline => exact awaitShut_result b s (.refl w)
  | _ => exact enter_result b t _ hs h

/-- An attempt that changes the endpoint step by step, and waits for data only on an open stream. -/
structure Proper {α : Type} (free : StreamId → Prop) (s : Option StreamId) (w : Endpoint)
    (a : Attempt α) : Prop where
  evolves : Evolves free w.Trapped w a.endpoint
  fits : ∀ p w', a = .blocked p w' → p.Fits s w'

theorem proper_ready {α : Type} {s : Option StreamId} (a : α)
    (h : Evolves free w.Trapped w w') : Proper free s w (.ready a w') :=
  ⟨h, fun _ _ hb => nomatch hb⟩

theorem fits_of_obtains {p : Progress} (s : Option StreamId) (w : Endpoint) (hp : p.obtains) :
    p.Fits s w := fun deadline _ h => absurd h (Progress.not_receiving_of_obtains hp deadline)

theorem proper_obtain {α : Type} (b : Pace) (t : Ticket) {s : StreamId} (p : Progress)
    (hs : w.Known s) (h : ∀ s, w.Trapped s → w.Known s)
    {f : Unit → Endpoint → Attempt (Outcome α)}
    (hf : ∀ w₁, Evolves free w.Trapped w w₁ → (w₁.stream s).opened →
      (w₁.stream s).closed = false → Evolves free w.Trapped w (f () w₁).endpoint ∧
        ∀ p w', f () w₁ = .blocked p w' → p.Fits (some s) w') :
    Proper free (some s) w ((w.obtain b t s p).bind f) := by
  have hr : Obtained free s w (w.obtain b t s p) := obtain_result b t p hs h
  generalize w.obtain b t s p = r at hr
  cases hr with
  | given evolves opened closed =>
    exact ⟨(hf _ evolves opened closed).1, (hf _ evolves opened closed).2⟩
  | failed e evolves => exact proper_ready _ evolves
  | blocked evolves progress =>
    refine ⟨evolves, fun p w' hb => ?_⟩
    cases hb
    exact fits_of_obtains _ _ progress

theorem endpoint_send (s : StreamId) (packet : Packet) (w : Endpoint) :
    ∃ r, w.send s packet = .ready r (w.transmit s packet) := by
  dsimp only [send]
  split <;> exact ⟨_, rfl⟩

theorem proper_write (b : Pace) (t : Ticket) {s : StreamId} (packet : Packet) (p : Progress)
    (hs : w.Known s) (h : ∀ s, w.Trapped s → w.Known s) (hw : w.Writable free s) :
    Proper free (some s) w (w.write b t s packet p) := by
  refine proper_obtain b t p hs h fun w₁ evolves opened closed => ?_
  obtain ⟨r, hr⟩ := endpoint_send s packet w₁
  rw [hr]
  exact ⟨evolves.tail (.transmit w₁ packet opened closed (evolves.extends.writable hw)),
    fun _ _ hb => nomatch hb⟩

theorem receive?_result (b : Pace) {s : StreamId} (size : Nat) (ho : (w.stream s).opened) :
    Evolves free closes w (w.receive? b s size).endpoint ∧
      ∀ p w', w.receive? b s size = .blocked p w' → p.Fits (some s) w' := by
  dsimp only [receive?]
  split
  · exact ⟨.refl w, fun _ _ hb => nomatch hb⟩
  · split
    · exact ⟨.refl w, fun _ _ hb => nomatch hb⟩
    · rename_i data rest _ hq
      exact ⟨(Change.take w size ho hq).evolves, fun _ _ hb => nomatch hb⟩
    · split
      · exact ⟨.refl w, fun _ _ hb => nomatch hb⟩
      · refine ⟨.refl w, fun p w' hb => ?_⟩
        cases hb
        intro deadline i _ hi
        cases hi
        exact ho

theorem readWithoutDeadline_cases (b : Pace) (t : Ticket) (s : StreamId) (size : Nat)
    (p : Progress) (w : Endpoint) :
    (∃ deadline, p = .receiving deadline) ∧
        w.readWithoutDeadline b t s size p = w.receive? b s size ∨
      w.readWithoutDeadline b t s size p =
        (w.obtain b t s p).bind fun _ w' => w'.receive? b s size := by
  cases p with
  | receiving deadline => exact .inl ⟨⟨deadline, rfl⟩, rfl⟩
  | _ => exact .inr rfl

theorem proper_readWithoutDeadline (b : Pace) (t : Ticket) {s : StreamId} (size : Nat)
    {p : Progress} (hs : w.Known s) (h : ∀ s, w.Trapped s → w.Known s)
    (hp : p.Fits (some s) w) : Proper free (some s) w (w.readWithoutDeadline b t s size p) := by
  have hq : ∀ w₁ : Endpoint, (w₁.stream s).opened →
      Evolves free w.Trapped w₁ (w₁.receive? b s size).endpoint ∧
        ∀ p w', w₁.receive? b s size = .blocked p w' → p.Fits (some s) w' :=
    fun w₁ => receive?_result b size
  have ho : Proper free (some s) w
      ((w.obtain b t s p).bind fun _ w' => w'.receive? b s size) :=
    proper_obtain b t p hs h fun w₁ evolves opened _ =>
      ⟨evolves.trans (hq w₁ opened).1, (hq w₁ opened).2⟩
  rcases readWithoutDeadline_cases b t s size p w with ⟨⟨deadline, rfl⟩, h⟩ | h
  · have hr := hq w (hp deadline s rfl rfl)
    exact h ▸ ⟨hr.1, hr.2⟩
  · exact h ▸ ho

theorem fits_withDeadline {p : Progress} {s : Option StreamId} (deadline : Option Instant)
    (h : p.Fits s w) : (p.withDeadline deadline).Fits s w := by
  intro d i hd hi
  cases p with
  | receiving d' => exact h d' i rfl hi
  | _ => cases hd

theorem proper_read (b : Pace) (t : Ticket) {s : StreamId} (size : Nat) {p : Progress}
    (hs : w.Known s) (h : ∀ s, w.Trapped s → w.Known s) (hp : p.Fits (some s) w) :
    Proper free (some s) w (w.read b t s size p) := by
  have hr : Proper free (some s) w (w.readWithoutDeadline b t s size p) :=
    proper_readWithoutDeadline b t size hs h hp
  dsimp only [read]
  split
  · rename_i heq
    rw [heq] at hr
    exact proper_ready _ hr.evolves
  · rename_i p' w' heq
    rw [heq] at hr
    split
    · exact proper_ready _ (hr.evolves.trans (evolves_releaseClaim t s w'))
    · refine ⟨hr.evolves, fun p'' w'' hb => ?_⟩
      cases hb
      exact fits_withDeadline _ (hr.fits p' w' rfl)

end Endpoint

open Endpoint

theorem Request.endpoint_reader (roster : Roster) (b : Pace) (t : Ticket) (k : SenderKey)
    (feed : Sender.Feed) (p : Progress) (w : Endpoint) :
    ((reader k feed).attempt roster b t p w).endpoint = w := by
  simp only [attempt]
  split <;> rfl

theorem Request.proper_attempt {free : StreamId → Prop} {w : Endpoint} (roster : Roster)
    (b : Pace) (t : Ticket) (r : Request) {p : Progress} (h : w.Sound free)
    (hr : r.Allowed w.Known (w.Writable free)) (hp : p.Fits r.stream? w) :
    Proper free r.stream? w (r.attempt roster b t p w) := by
  have hawait : ∀ {α : Type} (s : Option StreamId) (x : Option α),
      Proper free s w (w.await x) := by
    intro α s x
    cases x with
    | some a => exact proper_ready a (.refl w)
    | none =>
      refine ⟨.refl w, fun p w' hb => ?_⟩
      cases hb
      exact Progress.fits_fresh s w
  cases r with
  | sending l => exact hawait _ _
  | reader k feed =>
    simp only [attempt]
    split
    · refine ⟨.refl w, fun p w' hb => ?_⟩
      cases hb
      exact Progress.fits_fresh _ w
    · exact proper_ready _ (.refl w)
  | bindings track => exact proper_ready _ (.refl w)
  | gate g => exact hawait _ _
  | read s size => exact proper_read b t size hr h.trap hp
  | write s packet => exact proper_write b t packet p (h.known hr) h.trap hr
  | report report => exact proper_ready _ (evolves_emit w rfl)

theorem Request.answer_leads {free : StreamId → Prop} {w w' : Endpoint} {roster : Roster}
    {b : Pace} {t : Ticket} {r : Request} {p : Progress} {a : r.Answer} (h : w.Sound free)
    (hr : ∀ k feed x s, (roster.sender k).reader feed = .ok x → x.target? = some s → w.Known s)
    (ha : r.attempt roster b t p w = .ready a w') :
    (∀ s, r.readable? a = some s → w'.Known s) ∧
      ∀ s, r.writable? a = some s → w'.Writable free s := by
  cases r with
  | reader k feed =>
    rw [attempt] at ha
    split at ha <;> cases ha
    refine ⟨fun s hs => ?_, fun _ hs => nomatch hs⟩
    cases hx : (roster.sender k).reader feed with
    | ok x => exact hr k feed x s hx (by simpa [readable?, hx, Except.toOption] using hs)
    | error e => simp [readable?, hx, Except.toOption] at hs
  | gate g =>
    cases hg : w.gate g with
    | none => simp [attempt, await, hg] at ha
    | some x =>
      simp only [attempt, await, hg, Attempt.ready.injEq] at ha
      obtain ⟨rfl, rfl⟩ := ha
      exact ⟨fun _ hs => (nomatch hs), fun s hs => h.gates g x s hg hs⟩
  | _ => exact ⟨fun _ hs => (nomatch hs), fun _ hs => (nomatch hs)⟩

theorem Endpoint.Change.trapped {free closes : StreamId → Prop} {w w' : Endpoint}
    (h : Change free closes w w') {s : StreamId} (hs : w'.Trapped s) : w.Trapped s := by
  have hr : ∀ {w' : Endpoint}, SameRest w w' → w'.Trapped s → w.Trapped s := by
    intro w' hr hs
    rwa [Trapped, hr.transport] at hs
  cases h with
  | surroundings _ _ _ _ _ trap => exact trap s hs
  | resolve =>
    rw [Trapped, transport_resolve] at hs
    exact hs
  | finishOpen => exact hr (sameRest_finishOpen _ w) hs
  | shut => exact hr (sameRest_shut _ w) hs
  | close => exact hr (sameRest_closeStream _ w) hs
  | _ => exact hs

theorem Endpoint.Evolves.trapped {free closes : StreamId → Prop} {w w' : Endpoint}
    (h : Evolves free closes w w') {s : StreamId} (hs : w'.Trapped s) : w.Trapped s := by
  induction h with
  | refl => exact hs
  | tail _ h ih => exact ih (h.trapped hs)

structure Polled.Proper {α : Type} (free : StreamId → Prop) (w : Endpoint) (x : Polled α) :
    Prop where
  evolves : Evolves free w.Trapped w x.endpoint
  waiting : ∀ task p w', x = .waiting task p w' →
    task.Within w'.Known (w'.Writable free) ∧ p.Fits task.stream? w'

theorem Task.proper_poll {α : Type} {free : StreamId → Prop} {w : Endpoint} {roster : Roster}
    (b : Pace) (t : Ticket) {task : Task α} {p : Progress} (h : w.Sound free)
    (hr : ∀ k feed x s, (roster.sender k).reader feed = .ok x → x.target? = some s → w.Known s)
    (ht : task.Within w.Known (w.Writable free)) (hp : p.Fits task.stream? w) :
    (task.poll roster b t p w).Proper free w := by
  induction task generalizing p w with
  | done a => exact ⟨.refl w, fun _ _ _ hx => nomatch hx⟩
  | ask r next ih =>
    have ha := r.proper_attempt roster b t h ht.1 hp
    have hl : ∀ a w', r.attempt roster b t p w = .ready a w' → _ := fun _ _ =>
      Request.answer_leads h hr
    rw [poll]
    split
    · rename_i a w' heq
      rw [heq] at ha
      have he := ha.evolves.extends
      have hw := ht.2 a
      obtain ⟨hreads, hwrites⟩ := hl a w' heq
      have hn := ih a (p := .fresh) (h.evolves ha.evolves)
        (fun k feed x s hx hs => he.known (hr k feed x s hx hs))
        (hw.mono (fun s hs => hs.elim he.known (hreads s))
          fun s hs => hs.elim he.writable (hwrites s)) (Progress.fits_fresh _ _)
      have hrest := hn.evolves.mono (fun _ => id) fun _ => ha.evolves.trapped
      exact ⟨ha.evolves.trans hrest, hn.waiting⟩
    · rename_i p' w' heq
      rw [heq] at ha
      refine ⟨ha.evolves, fun task p'' w'' hx => ?_⟩
      cases hx
      exact ⟨ht.mono (fun s => ha.evolves.extends.known) fun s => ha.evolves.extends.writable,
        ha.fits p' w' rfl⟩

end MediaSender
