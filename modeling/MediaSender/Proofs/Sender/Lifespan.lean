import MediaSender.Proofs.Run.Course
import MediaSender.Proofs.Run.Steps
import MediaSender.Proofs.Sender.Silence
import MediaSender.Proofs.Sender.Outcomes
/-!
The lifespan of a sender. The calls that change a sender exclude one another, so each of them is one
move of a run, while a wait for sending may be polled between any two moves. Along a run a sender
starts to send at most once and stops at most once, and a wait tells how far it has come.
-/

namespace MediaSender

namespace Lifecycle

inductive Advances : Lifecycle → Lifecycle → Prop
  | sends : Advances idle sending
  | endsSending : Advances sending (stopped true)
  | endsIdle : Advances idle (stopped false)

theorem advances_stop {l : Lifecycle} (h : l.hasStopped = false) : Advances l l.stop := by
  cases l with
  | idle => exact .endsIdle
  | sending => exact .endsSending
  | stopped sent => cases h

theorem Advances.ne_idle {l l' : Lifecycle} (h : Advances l l') : l' ≠ .idle := by
  cases h <;> decide

theorem Advances.running {l l' : Lifecycle} (h : Advances l l') : l.hasStopped = false := by
  cases h <;> rfl

theorem stop_of_hasStopped {l : Lifecycle} (h : l.hasStopped) : l.stop = l := if_pos h

theorem hasStopped_stop (l : Lifecycle) : l.stop.hasStopped := by
  cases l <;> rfl

def answer : Lifecycle → Session.StepResult
  | idle => .pending
  | sending => .answered (.outcome (.ok ()))
  | stopped _ => .answered (.outcome (.error .closedPipe))

end Lifecycle

namespace Sender

variable {a : Sender} {w : Endpoint}

def Action.isStart : Action → Bool
  | start _ => true
  | _ => false

def Action.isStop : Action → Bool
  | stop => true
  | _ => false

def Action.NeedsLife : Action → Prop
  | extend track => ∃ t, track = some t ∧ t.ridText ≠ ""
  | swapTrack _ | start _ => True
  | stop => False

theorem lifecycle_extend (track : Option Track) (a : Sender) (w : Endpoint) :
    (a.extend track w).sender.lifecycle = a.lifecycle := by
  have h := extended track a w
  generalize a.extend track w = r at h
  cases h <;> rfl

/-- How an action with a given outcome moves the lifecycle: only a start that succeeds and the first
stop do. -/
inductive LifeStep : Action → Outcome Unit → Lifecycle → Lifecycle → Prop
  | stays (x : Action) (r : Outcome Unit) (l : Lifecycle) (start : x.isStart → r ≠ .ok ())
      (stop : x.isStop → l.hasStopped) : LifeStep x r l l
  | starts (p : SendParameters) : LifeStep (.start p) (.ok ()) .idle .sending
  | stops (r : Outcome Unit) {l : Lifecycle} (first : l.hasStopped = false) :
      LifeStep .stop r l l.stop

theorem lifeStep (x : Action) (a : Sender) (w : Endpoint) :
    LifeStep x (a.act x w).outcome a.lifecycle (a.act x w).sender.lifecycle := by
  cases x with
  | extend track =>
    have h : (a.extend track w).sender.lifecycle = a.lifecycle := lifecycle_extend track a w
    change LifeStep _ _ _ (a.extend track w).sender.lifecycle
    rw [h]
    exact .stays _ _ _ nofun nofun
  | swapTrack track =>
    change LifeStep _ _ _ (a.swapTrack track w).sender.lifecycle
    rw [sender_swapTrack]
    exact .stays _ _ _ nofun nofun
  | start p =>
    have h : Launched p a w (a.act (.start p) w) := launched p a w
    generalize a.act (.start p) w = r at h
    cases h with
    | refused f check => exact .stays _ _ _ nofun nofun
    | failed f r check all outcome => exact .stays _ _ _ nofun nofun
    | sent payloadType r check all outcome =>
      rw [(of_startFailure check).1]
      exact .starts p
  | stop =>
    change LifeStep _ _ _ (a.stop w).sender.lifecycle
    rw [sender_stop]
    cases hs : a.lifecycle.hasStopped with
    | false => exact .stops _ hs
    | true =>
      rw [Lifecycle.stop_of_hasStopped hs]
      exact .stays _ _ _ nofun fun _ => hs

theorem LifeStep.advances {x : Action} {r : Outcome Unit} {l l' : Lifecycle}
    (h : LifeStep x r l l') : l' = l ∨ l.Advances l' := by
  cases h with
  | stays => exact .inl rfl
  | starts p => exact .inr .sends
  | stops r first => exact .inr (Lifecycle.advances_stop first)

theorem LifeStep.starts_iff {x : Action} {r : Outcome Unit} {l l' : Lifecycle}
    (h : LifeStep x r l l') : x.isStart ∧ r = .ok () ↔ l = .idle ∧ l' = .sending := by
  cases h with
  | stays _ _ _ start =>
    constructor
    · exact fun ⟨hx, hr⟩ => absurd hr (start hx)
    · rintro ⟨rfl, h⟩
      cases h
  | starts p => exact ⟨fun _ => ⟨rfl, rfl⟩, fun _ => ⟨rfl, rfl⟩⟩
  | stops r first =>
    constructor
    · exact fun h => absurd h.1 Bool.false_ne_true
    · rintro ⟨rfl, h⟩
      cases h

theorem LifeStep.ends_iff {x : Action} {r : Outcome Unit} {l l' : Lifecycle}
    (h : LifeStep x r l l') :
    l.hasStopped = false ∧ l'.hasStopped ↔ x.isStop ∧ l.hasStopped = false := by
  cases h with
  | stays _ _ _ _ stop =>
    constructor
    · rintro ⟨hn, hs⟩
      exact absurd (hn.symm.trans hs) Bool.false_ne_true
    · rintro ⟨hx, hn⟩
      exact absurd (hn.symm.trans (stop hx)) Bool.false_ne_true
  | starts p => simp [Action.isStop, Lifecycle.hasStopped]
  | stops r first => simp [Action.isStop, first, Lifecycle.hasStopped_stop]

theorem outcome_of_hasStopped (h : a.lifecycle.hasStopped) {x : Action} (hx : x.NeedsLife) :
    (a.act x w).outcome = .error .stopped := by
  cases x with
  | extend track =>
    obtain ⟨t, rfl, ht⟩ := hx
    have hf : a.extendFailure t = some .stopped := (if_neg ht).trans (if_pos h)
    change (a.extend (some t) w).outcome = _
    rw [extend, hf]
  | swapTrack track =>
    change (a.swapTrack track w).outcome = _
    rw [swapTrack, if_pos h]
  | start p =>
    have hf : a.startFailure p = some .stopped := if_pos h
    change (a.start p w).outcome = _
    rw [Sender.start, hf]
  | stop => exact hx.elim

end Sender

namespace Session

open Sender

variable {σ : Session} {m : Move} {k : SenderKey} {t : Ticket}

structure Turn where
  before : Session
  move : Move

def turns : List Move → Session → List Turn
  | [], _ => []
  | m :: ms, σ => ⟨σ, m⟩ :: turns ms (σ.act m).1

namespace Turn

def after (x : Turn) : Session := (x.before.act x.move).1

def result (x : Turn) : StepResult := (x.before.act x.move).2

def asks (k : SenderKey) (p : Action → Bool) (x : Turn) : Bool :=
  match x.before.action? x.move with
  | some (k', y) => k' == k && p y
  | none => false

def succeeds (x : Turn) : Bool :=
  match x.result with
  | .answered (.outcome (.ok ())) => true
  | _ => false

def starts (k : SenderKey) (x : Turn) : Bool := x.asks k Action.isStart && x.succeeds

def ends (k : SenderKey) (x : Turn) : Bool :=
  !(x.before.sender k).lifecycle.hasStopped && (x.after.sender k).lifecycle.hasStopped

def Waits (k : SenderKey) (x : Turn) : Prop :=
  ∃ name, x.before.directory.senders.lookup name = some k ∧
    x.move = .issue (.sender name .awaitSending)

end Turn

inductive Comes (m : Move) (σ : Session) (c : Call Reply) : Prop
  | kept (mem : c ∈ σ.calls)
  | new (ticket : c.ticket = σ.steps) (steps : σ.steps < (σ.act m).1.steps)
  | resumed (d : Call Reply) (mem : d ∈ σ.calls) (ticket : c.ticket = d.ticket) (w : Endpoint)
      (poll : d.task.poll σ.roster σ.pace d.ticket d.progress σ.endpoint =
        .waiting c.task c.progress w)
      (move : m = .poll d.ticket) (found : σ.calls.find? (·.ticket == d.ticket) = some d)

theorem steps_act (σ : Session) (m : Move) : σ.steps ≤ (σ.act m).1.steps := by
  cases m with
  | issue c => exact Nat.le_of_lt (Nat.lt_of_lt_of_eq (Nat.lt_succ_self _) (steps_issue σ c).symm)
  | poll t =>
    simp only [act, pollCall]
    split
    · exact Nat.le_refl _
    · split <;> exact Nat.le_refl _
  | inject n packet =>
    simp only [act, inject, turn]
    split
    · exact Nat.le_refl _
    · split <;> exact Nat.le_succ _
  | turnTo b => exact Nat.le_refl _

theorem calls_turn (σ : Session) (t : Task Reply) {c : Call Reply}
    (hc : c ∈ (σ.turn (.waiting t)).1.calls) : c ∈ σ.calls ∨ c.ticket = σ.steps := by
  simp only [turn] at hc
  split at hc
  · exact .inl hc
  · rcases List.mem_append.mp hc with hc | hc
    · exact .inl hc
    · exact .inr (List.mem_singleton.mp hc ▸ rfl)

theorem comes (m : Move) {c : Call Reply} (hc : c ∈ (σ.act m).1.calls) : Comes m σ c := by
  cases m with
  | issue cmd =>
    have hs : σ.steps < (σ.act (.issue cmd)).1.steps :=
      Nat.lt_of_lt_of_eq (Nat.lt_succ_self _) (steps_issue σ cmd).symm
    have hk := start_keeps σ cmd
    change c ∈ (σ.turn (σ.start cmd)).1.calls at hc
    generalize σ.start cmd = x at hk hc
    cases x with
    | refused => exact .kept hc
    | finished r σ' => exact .kept (hk.2.subset hc)
    | waiting t => exact (calls_turn σ t hc).elim .kept fun ht => .new ht hs
  | poll t =>
    simp only [act, pollCall] at hc
    split at hc
    · exact .kept hc
    · rename_i d hd
      have ht := List.find?_some hd
      replace ht := beq_iff_eq.mp ht
      split at hc
      · exact .kept (List.mem_filter.mp hc).1
      · rename_i task p w heq
        obtain ⟨c', hc', rfl⟩ := List.mem_map.mp hc
        split
        · exact .resumed d (List.mem_of_find?_eq_some hd) ht.symm w (ht ▸ heq) (ht ▸ rfl) (ht ▸ hd)
        · exact .kept hc'
  | inject n packet =>
    simp only [act, inject] at hc
    split at hc
    · exact .kept hc
    · rename_i s d hs
      have hsteps : σ.steps < (σ.act (.inject n packet)).1.steps := by
        simp only [act, inject, hs, turn]
        split <;> exact Nat.lt_succ_self _
      exact (calls_turn σ _ hc).elim .kept fun ht => .new ht hsteps
  | turnTo b => exact .kept hc

/-- Numbers that have not been given to senders hold idle ones, and calls that wait have tickets of
earlier steps. -/
structure WellNumbered (σ : Session) : Prop where
  sound : σ.Sound
  unborn : ∀ k, σ.roster.senders.size ≤ k → (σ.sender k).lifecycle = .idle
  tickets : ∀ c ∈ σ.calls, c.ticket < σ.steps

theorem Fresh.numbered (h : σ.Fresh) : σ.WellNumbered where
  sound := h.sound
  unborn k _ := by
    rw [sender, Roster.sender, h.senders]
    rfl
  tickets c hc := by
    rw [h.calls] at hc
    cases hc

theorem lifecycle_of_other (h : σ.WellNumbered) (hx : ∀ x, σ.action? m ≠ some (k, x)) :
    ((σ.act m).1.sender k).lifecycle = (σ.sender k).lifecycle := by
  cases (course m σ).becomes k with
  | acted x action => exact absurd action (hx x)
  | stayed action sender =>
    obtain ⟨n, t, hs⟩ := sender
    rw [hs]
  | made t action number sender =>
    -- A sender that is made is idle, and so was its place.
    rw [sender, h.unborn k (Nat.le_of_eq number.symm)]
    rfl

theorem sender_act {x : Action} (hx : σ.action? m = some (k, x)) :
    (σ.act m).1.sender k = ((σ.sender k).act x σ.endpoint).sender := by
  rw [act_of_action hx]
  exact (sender_setSender k k _ σ.roster).trans (if_pos rfl)

theorem WellNumbered.act (h : σ.WellNumbered) (m : Move) : (σ.act m).1.WellNumbered := by
  refine ⟨h.sound.act m, fun k hk => ?_, fun c hc => ?_⟩
  · by_cases hx : ∃ x, σ.action? m = some (k, x)
    · obtain ⟨x, hx⟩ := hx
      have hlt := action_lt h.sound hx
      rw [act_of_action hx] at hk
      exact absurd hk (Nat.not_le.mpr hlt)
    · rw [lifecycle_of_other h (not_exists.mp hx)]
      exact h.unborn k (Nat.le_trans (course m σ).size_le hk)
  · have hs := steps_act σ m
    cases comes m hc with
    | kept mem => exact Nat.lt_of_lt_of_le (h.tickets c mem) hs
    | new ticket steps => rwa [ticket]
    | resumed d mem ticket => rw [ticket]; exact Nat.lt_of_lt_of_le (h.tickets d mem) hs

theorem wellNumbered_turns (h : σ.WellNumbered) (ms : List Move) :
    ∀ x ∈ turns ms σ, x.before.WellNumbered := by
  induction ms generalizing σ with
  | nil => exact List.forall_mem_nil _
  | cons m ms ih => exact List.forall_mem_cons.mpr ⟨h, ih (h.act m)⟩

structure Turn.Orderly (k : SenderKey) (x : Turn) : Prop where
  advances : (x.after.sender k).lifecycle = (x.before.sender k).lifecycle ∨
    (x.before.sender k).lifecycle.Advances (x.after.sender k).lifecycle
  starts : x.starts k ↔
    (x.before.sender k).lifecycle = .idle ∧ (x.after.sender k).lifecycle = .sending
  ends : x.ends k ↔
    x.asks k Action.isStop ∧ (x.before.sender k).lifecycle.hasStopped = false

theorem Turn.asks_of_action {x : Turn} {y : Action} (h : x.before.action? x.move = some (k, y))
    (p : Action → Bool) : x.asks k p = p y := by
  simp [asks, h]

theorem Turn.asks_of_other {x : Turn} (h : ∀ y, x.before.action? x.move ≠ some (k, y))
    (p : Action → Bool) : x.asks k p = false := by
  unfold asks
  split
  · rename_i k' y hy
    have hk : k' ≠ k := fun hk => h y (hk ▸ hy)
    simp [hk]
  · rfl

theorem Turn.succeeds_iff {x : Turn} {r : Outcome Unit} (h : x.result = .answered (.outcome r)) :
    x.succeeds ↔ r = .ok () := by
  unfold succeeds
  rw [h]
  cases r with
  | ok u => simp
  | error e => simp

theorem WellNumbered.orderly (h : σ.WellNumbered) (m : Move) (k : SenderKey) :
    Turn.Orderly k ⟨σ, m⟩ := by
  let x : Turn := ⟨σ, m⟩
  by_cases hy : ∃ y, σ.action? m = some (k, y)
  · obtain ⟨y, hy⟩ := hy
    have hasks : ∀ p, x.asks k p = p y := Turn.asks_of_action hy
    have hs : x.after.sender k = ((σ.sender k).act y σ.endpoint).sender := sender_act hy
    have hr : x.succeeds ↔ ((σ.sender k).act y σ.endpoint).outcome = .ok () :=
      Turn.succeeds_iff (congrArg Prod.snd (act_of_action hy))
    have hl := lifeStep y (σ.sender k) σ.endpoint
    rw [← hs] at hl
    constructor
    · exact hl.advances
    · rw [Turn.starts, Bool.and_eq_true, hasks, hr]
      exact hl.starts_iff
    · rw [Turn.ends, Bool.and_eq_true, Bool.not_eq_true', hasks]
      exact hl.ends_iff
  · have hother := not_exists.mp hy
    have hasks : ∀ p, x.asks k p = false := Turn.asks_of_other hother
    have hl : (x.after.sender k).lifecycle = (σ.sender k).lifecycle :=
      lifecycle_of_other h hother
    constructor
    · exact .inl hl
    · rw [Turn.starts, hasks, hl]
      simp +contextual
    · rw [Turn.ends, hasks, hl]
      simp

theorem Turn.Orderly.idle_of_idle {x : Turn} (h : x.Orderly k)
    (hi : (x.after.sender k).lifecycle = .idle) : (x.before.sender k).lifecycle = .idle := by
  rcases h.advances with hl | hl
  · exact hl.symm.trans hi
  · exact absurd hi hl.ne_idle

theorem Turn.Orderly.stays_stopped {x : Turn} (h : x.Orderly k)
    (hs : (x.before.sender k).lifecycle.hasStopped) :
    (x.after.sender k).lifecycle.hasStopped := by
  rcases h.advances with hl | hl
  · rwa [hl]
  · exact absurd (hl.running.symm.trans hs) Bool.false_ne_true

theorem count_starts_le (h : σ.WellNumbered) (ms : List Move) (k : SenderKey) :
    (turns ms σ).countP (Turn.starts k) ≤ if (σ.sender k).lifecycle = .idle then 1 else 0 := by
  induction ms generalizing σ with
  | nil => exact Nat.zero_le _
  | cons m ms ih =>
    let x : Turn := ⟨σ, m⟩
    have hx : x.Orderly k := h.orderly m k
    have hrest : (turns ms x.after).countP (Turn.starts k) ≤ _ := ih (h.act m)
    rw [turns, List.countP_cons]
    by_cases hs : x.starts k
    · -- The start uses up what there is to start.
      obtain ⟨hi, hl⟩ := hx.starts.mp hs
      rw [hl, if_neg (by decide)] at hrest
      rw [if_pos hs, if_pos hi]
      exact Nat.add_le_add_right hrest 1
    · rw [if_neg hs]
      refine Nat.le_trans hrest ?_
      by_cases hl : (x.after.sender k).lifecycle = .idle
      · have hi : (σ.sender k).lifecycle = .idle := hx.idle_of_idle hl
        simp [hl, hi]
      · rw [if_neg hl]
        exact Nat.zero_le _

theorem count_ends (h : σ.WellNumbered) (ms : List Move) (k : SenderKey) :
    (turns ms σ).countP (Turn.ends k) =
      if (σ.sender k).lifecycle.hasStopped then 0
      else if (turns ms σ).any (Turn.asks k Action.isStop) then 1 else 0 := by
  induction ms generalizing σ with
  | nil => simp [turns]
  | cons m ms ih =>
    let x : Turn := ⟨σ, m⟩
    have hx : x.Orderly k := h.orderly m k
    have hrest : (turns ms x.after).countP (Turn.ends k) = _ := ih (h.act m)
    rw [turns, List.countP_cons, List.any_cons]
    change (turns ms x.after).countP (Turn.ends k) + (if x.ends k then 1 else 0) =
      if (σ.sender k).lifecycle.hasStopped then 0
      else if x.asks k Action.isStop || (turns ms x.after).any (Turn.asks k Action.isStop)
        then 1 else 0
    rw [hrest]
    cases hs : (σ.sender k).lifecycle.hasStopped with
    | true =>
      have he : x.ends k = false := by simp [Turn.ends, x, hs]
      simp [he, hx.stays_stopped hs]
    | false =>
      cases hl : (x.after.sender k).lifecycle.hasStopped with
      | true =>
        have he : x.ends k := by simp [Turn.ends, x, hs, hl]
        simp [he, (hx.ends.mp he).1]
      | false =>
        have he : x.ends k = false := by simp [Turn.ends, hl]
        have ha : x.asks k Action.isStop = false := by
          refine eq_false_of_ne_true fun ha => ?_
          exact absurd (he.symm.trans (hx.ends.mpr ⟨ha, hs⟩)) Bool.false_ne_true
        simp [he, ha]

def waitTask (k : SenderKey) : Task Reply := (awaitSending k).map .outcome

theorem poll_waitTask (roster : Roster) (b : Pace) (t : Ticket) (p : Progress) (w : Endpoint) :
    (waitTask k).poll roster b t p w =
      match (roster.sender k).lifecycle with
      | .idle => .waiting (waitTask k) .fresh w
      | .sending => .finished (.outcome (.ok ())) w
      | .stopped _ => .finished (.outcome (.error .closedPipe)) w := by
  simp only [waitTask, awaitSending, Task.request, Task.map, Task.bind, Task.poll, Request.attempt,
    Endpoint.await, Roster.lifecycle]
  cases (roster.sender k).lifecycle <;> rfl

structure Awaits (k : SenderKey) (t : Ticket) (σ : Session) : Prop where
  old : t < σ.steps
  task : ∀ c ∈ σ.calls, c.ticket = t → c.task = waitTask k

theorem Awaits.act (h : Awaits k t σ) (m : Move) : Awaits k t (σ.act m).1 := by
  refine ⟨Nat.lt_of_lt_of_le h.old (steps_act σ m), fun c hc ht => ?_⟩
  cases comes m hc with
  | kept mem => exact h.task c mem ht
  | new ticket => exact absurd (ht.symm.trans ticket) (Nat.ne_of_lt h.old)
  | resumed d mem ticket w poll =>
    rw [h.task d mem (ticket.symm.trans ht), poll_waitTask] at poll
    split at poll
    · exact (Polled.waiting.inj poll).1.symm
    · cases poll
    · cases poll

theorem Awaits.result (h : Awaits k t σ) (hc : ∃ c ∈ σ.calls, c.ticket = t) :
    (σ.act (.poll t)).2 = (σ.sender k).lifecycle.answer := by
  obtain ⟨c, hc⟩ : ∃ c, σ.calls.find? (·.ticket == t) = some c := by
    obtain ⟨c, hc, ht⟩ := hc
    exact Option.isSome_iff_exists.mp (List.find?_isSome.mpr ⟨c, hc, beq_iff_eq.mpr ht⟩)
  have hticket := List.find?_some hc
  have ht := h.task c (List.mem_of_find?_eq_some hc) (beq_iff_eq.mp hticket)
  simp only [Session.act, pollCall, hc, ht, poll_waitTask, sender]
  cases (σ.roster.sender k).lifecycle <;> rfl

theorem awaits_turns (h : Awaits k t σ) (ms : List Move) :
    ∀ y ∈ turns ms σ, Awaits k t y.before := by
  induction ms generalizing σ with
  | nil => exact List.forall_mem_nil _
  | cons m ms ih => exact List.forall_mem_cons.mpr ⟨h, ih (h.act m)⟩

theorem Turn.awaits {x : Turn} (h : x.before.WellNumbered) (hx : x.Waits k) :
    x.result = (x.before.sender k).lifecycle.answer ∧ Awaits k x.before.steps x.after := by
  obtain ⟨name, hk, hm⟩ := hx
  have hstart : x.before.start (.sender name .awaitSending) = .waiting (waitTask k) := by
    simp only [Session.start, senderCommand, withNamed, hk, toSender]
    rfl
  have hsteps : x.after.steps = x.before.steps + 1 := by
    rw [Turn.after, hm]
    exact steps_issue _ _
  have hold : ∀ c ∈ x.before.calls, c.ticket = x.before.steps → c.task = waitTask k :=
    fun c hc ht => absurd ht (Nat.ne_of_lt (h.tickets c hc))
  refine ⟨?_, by rw [hsteps]; exact Nat.lt_succ_self _, ?_⟩
  · rw [Turn.result, hm]
    simp only [Session.act, issue, hstart, turn, poll_waitTask, sender]
    cases (x.before.roster.sender k).lifecycle <;> rfl
  · rw [Turn.after, hm]
    simp only [Session.act, issue, hstart, turn, poll_waitTask]
    cases (x.before.roster.sender k).lifecycle with
    | idle =>
      exact List.forall_mem_append.mpr ⟨hold, List.forall_mem_singleton.mpr fun _ => rfl⟩
    | sending => exact hold
    | stopped sent => exact hold

theorem setSender_self (k : SenderKey) (σ : Session) : σ.setSender k (σ.sender k) = σ := by
  have h : σ.roster.senders.set k (σ.roster.senders.entry k) = σ.roster.senders := by
    have he : (fun j => if j = k then σ.roster.senders.entry k else σ.roster.senders.entry j) =
        σ.roster.senders.entry := by
      funext j
      split
      · rename_i hj
        rw [hj]
      · rfl
    rw [Table.set, he]
  simp only [setSender, sender, Roster.setSender, Roster.sender, h]

theorem act_of_stopped (hs : (σ.sender k).lifecycle.hasStopped) {x : Action}
    (hx : σ.action? m = some (k, x)) (hn : x.NeedsLife) :
    σ.act m = ({ σ with steps := σ.steps + 1 }, .answered (.outcome (.error .stopped))) := by
  obtain ⟨hw, ha⟩ := act_of_hasStopped (w := σ.endpoint) hs x
  rw [act_of_action hx, outcome_of_hasStopped hs hn, ha, hw, setSender_self]

/-- A sender sends at most once and stops once, if at all; a wait is answered by what the sender has
come to; and once it has stopped, it does no more than refuse. -/
structure LivesOnce (k : SenderKey) (xs : List Turn) : Prop where
  orderly : ∀ x ∈ xs, x.Orderly k
  starts : xs.countP (Turn.starts k) ≤ 1
  ends : xs.countP (Turn.ends k) = if xs.any (Turn.asks k Action.isStop) then 1 else 0
  waits : ∀ x ∈ xs, x.Waits k → x.result = (x.before.sender k).lifecycle.answer
  polls : xs.Pairwise fun x y => x.Waits k → y.move = .poll x.before.steps →
    (∃ c ∈ y.before.calls, c.ticket = x.before.steps) →
      y.result = (y.before.sender k).lifecycle.answer
  refuses : ∀ x ∈ xs, (x.before.sender k).lifecycle.hasStopped →
    ∀ y : Action, x.before.action? x.move = some (k, y) → y.NeedsLife →
      x.result = .answered (.outcome (.error .stopped)) ∧
        x.after = { x.before with steps := x.before.steps + 1 }

theorem polls_turns (h : σ.WellNumbered) (ms : List Move) :
    (turns ms σ).Pairwise fun x y => x.Waits k → y.move = .poll x.before.steps →
      (∃ c ∈ y.before.calls, c.ticket = x.before.steps) →
        y.result = (y.before.sender k).lifecycle.answer := by
  induction ms generalizing σ with
  | nil => exact .nil
  | cons m ms ih =>
    refine .cons (fun y hy hx hm hc => ?_) (ih (h.act m))
    have hy := awaits_turns (Turn.awaits (x := ⟨σ, m⟩) h hx).2 ms y hy
    rw [Turn.result, hm]
    exact hy.result hc

/-- A sender begins idle. It goes on to send once, if at all, and to stop once, if at all. -/
theorem sender_lives_once {σ : Session} (fresh : σ.Fresh) (k : SenderKey) (ms : List Move) :
    (σ.sender k).lifecycle = .idle ∧ LivesOnce k (turns ms σ) := by
  have h := fresh.numbered
  have hall := wellNumbered_turns h ms
  have hi : (σ.sender k).lifecycle = .idle := by
    rw [sender, Roster.sender, fresh.senders]
    rfl
  refine ⟨hi, ?_⟩
  exact {
    orderly := fun x hx => (hall x hx).orderly x.move k
    starts := Nat.le_trans (count_starts_le h ms k) (by split <;> decide)
    ends := by rw [count_ends h, hi]; rfl
    waits := fun x hx hw => (Turn.awaits (hall x hx) hw).1
    polls := polls_turns h ms
    refuses := fun x hx hs y hy hn => by
      have hact := act_of_stopped hs hy hn
      exact ⟨congrArg Prod.snd hact, congrArg Prod.fst hact⟩ }

def wholeLife : List Move :=
  [.issue (.sender "s" (.create (some "q") true)), .issue (.sender "s" .awaitSending), .poll 1,
    .issue (.sender "s" (.start none none)), .issue (.sender "s" (.start none none)),
    .issue (.sender "s" .stop), .poll 1, .issue (.sender "s" (.start none none)),
    .issue (.sender "s" .stop), .issue (.sender "s" .awaitSending)]

theorem pair_lives_once :
    LivesOnce 0 (turns wholeLife pairSession) ∧
      (turns wholeLife pairSession).countP (Turn.starts 0) = 1 ∧
      (turns wholeLife pairSession).countP (Turn.ends 0) = 1 := by
  have h : pairSession.Fresh := fresh_of_tracks rfl _
  exact ⟨(sender_lives_once h 0 wholeLife).2, by decide, by decide⟩

end Session

end MediaSender
