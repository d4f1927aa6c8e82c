import MediaSender.Proofs.Stream.Datagrams
/-!
What a call exchanges with the endpoint. A call asks for one thing after another, so what it has
been answered so far tells what is left of its task, and with that whether it has ended and with
what result. Nothing that other calls do comes into it but the answers.
-/

namespace MediaSender

open Endpoint

abbrev Exchange := (r : Request) × r.Answer

namespace Task

variable {α β : Type} {t u v : Task α} {log log' : List Exchange} {f : α → Task β}

inductive Passes : Task α → List Exchange → Task α → Prop
  | refl (t : Task α) : Passes t [] t
  | ask {r : Request} {next : r.Answer → Task α} {a : r.Answer} {log : List Exchange} {u : Task α}
      (rest : Passes (next a) log u) : Passes (.ask r next) (⟨r, a⟩ :: log) u

theorem Passes.trans (h : t.Passes log u) (h' : u.Passes log' v) : t.Passes (log ++ log') v := by
  induction h with
  | refl t => exact h'
  | ask rest ih => exact .ask (ih h')

theorem Passes.of_done {a : α} (h : (done a).Passes log u) : log = [] ∧ u = done a := by
  cases h
  exact ⟨rfl, rfl⟩

theorem Passes.of_bind {u : Task β} (h : (t.bind f).Passes log u) :
    (∃ v, t.Passes log v ∧ u = v.bind f) ∨
      ∃ a log₁ log₂, log = log₁ ++ log₂ ∧ t.Passes log₁ (.done a) ∧ (f a).Passes log₂ u := by
  induction t generalizing log with
  | done a => exact .inr ⟨a, [], log, rfl, .refl _, h⟩
  | ask r next ih =>
    cases h with
    | refl => exact .inl ⟨.ask r next, .refl _, rfl⟩
    | ask rest =>
      rcases ih _ rest with ⟨v, passes, rfl⟩ | ⟨a, log₁, log₂, rfl, first, next⟩
      · exact .inl ⟨v, .ask passes, rfl⟩
      · exact .inr ⟨a, _ :: log₁, log₂, rfl, .ask first, next⟩

theorem Passes.of_map {g : α → β} {u : Task β} (h : (t.map g).Passes log u) :
    ∃ v, t.Passes log v ∧ u = v.map g := by
  rcases h.of_bind with still | ⟨a, log₁, log₂, rfl, first, next⟩
  · exact still
  · obtain ⟨rfl, rfl⟩ := next.of_done
    exact ⟨.done a, by rwa [List.append_nil], rfl⟩

def status : Task Reply → Session.StepResult
  | .done r => .answered r
  | .ask .. => .pending

def exchanges (roster : Roster) (b : Pace) (t : Ticket) :
    Task α → Progress → Endpoint → List Exchange
  | .done _, _, _ => []
  | .ask r next, p, w =>
    match r.attempt roster b t p w with
    | .ready a w' => ⟨r, a⟩ :: (next a).exchanges roster b t .fresh w'
    | .blocked .. => []

end Task

def Polled.rest {α : Type} : Polled α → Task α
  | .finished a _ => .done a
  | .waiting task _ _ => task

namespace Task

variable (roster : Roster) (b : Pace) (t : Ticket)

theorem passes_poll {α : Type} (task : Task α) (p : Progress) (w : Endpoint) :
    task.Passes (task.exchanges roster b t p w) (task.poll roster b t p w).rest := by
  induction task generalizing p w with
  | done a => exact .refl _
  | ask r next ih =>
    rw [exchanges, poll]
    cases r.attempt roster b t p w with
    | ready a w' => exact .ask (ih a .fresh w')
    | blocked p' w' => exact .refl _

theorem result_poll (task : Task Reply) (p : Progress) (w : Endpoint) :
    (task.poll roster b t p w).result = (task.poll roster b t p w).rest.status := by
  induction task generalizing p w with
  | done a => rfl
  | ask r next ih =>
    rw [poll]
    cases r.attempt roster b t p w with
    | ready a w' => exact ih a .fresh w'
    | blocked p' w' => rfl

theorem gate_of_exchange {α : Type} {g : GateId} {x : Writer} {task : Task α} {p : Progress}
    {w : Endpoint} (h : ⟨.gate g, x⟩ ∈ task.exchanges roster b t p w) : w.gate g = some x := by
  induction task generalizing p w with
  | done a => cases h
  | ask r next ih =>
    have gates := r.gates_attempt roster b t p w
    rw [exchanges] at h
    cases ha : r.attempt roster b t p w with
    | blocked p' w' =>
      rw [ha] at h
      cases h
    | ready a w' =>
      rw [ha] at h gates
      rcases List.mem_cons.mp h with first | h
      · cases first
        simp only [Request.attempt, Endpoint.await] at ha
        split at ha
        · cases ha
          assumption
        · cases ha
      · have := ih a h
        rwa [gate, show w'.gates = w.gates from gates] at this

theorem blocked_of_rest {α : Type} {r : Request} {next : r.Answer → Task α} {task : Task α}
    {p : Progress} {w : Endpoint} (h : (task.poll roster b t p w).rest = .ask r next) :
    ∃ p' w' p'' w'', w'.gates = w.gates ∧ r.attempt roster b t p' w' = .blocked p'' w'' := by
  induction task generalizing p w with
  | done a => cases h
  | ask r' next' ih =>
    have gates := r'.gates_attempt roster b t p w
    rw [poll] at h
    cases ha : r'.attempt roster b t p w with
    | blocked p' w' =>
      rw [ha] at h
      cases h
      exact ⟨p, w, p', w', rfl, ha⟩
    | ready a w' =>
      rw [ha] at h gates
      obtain ⟨p₁, w₁, p₂, w₂, same, blocked⟩ := ih a h
      exact ⟨p₁, w₁, p₂, w₂, same.trans gates, blocked⟩

end Task

namespace Session

variable {σ τ : Session} {m : Move} {t : Ticket} {d : Call Reply} {task rest : Task Reply}
  {x y : Turn} {xs : List Turn}

def Turn.exchangesOf (t : Ticket) (x : Turn) : List Exchange :=
  match x.before.polled? x.move with
  | some d =>
    if d.ticket = t then
      d.task.exchanges x.before.roster x.before.pace d.ticket d.progress x.before.endpoint
    else []
  | none => []

def exchanged (t : Ticket) (xs : List Turn) : List Exchange := xs.flatMap (·.exchangesOf t)

theorem exchanged_snoc (t : Ticket) (xs : List Turn) (x : Turn) :
    exchanged t (xs ++ [x]) = exchanged t xs ++ x.exchangesOf t := by simp [exchanged]

theorem exchangesOf_polled (h : σ.polled? m = some d) (ticket : d.ticket = t) :
    Turn.exchangesOf t ⟨σ, m⟩ =
      d.task.exchanges σ.roster σ.pace d.ticket d.progress σ.endpoint := by
  simp only [Turn.exchangesOf, h, if_pos ticket]

theorem exchangesOf_of_ne (h : ∀ d, σ.polled? m = some d → d.ticket ≠ t) :
    Turn.exchangesOf t ⟨σ, m⟩ = [] := by
  simp only [Turn.exchangesOf]
  split
  · exact if_neg (h _ ‹_›)
  · rfl

theorem polled_cases (h : σ.polled? m = some d) :
    d.ticket = σ.steps ∧ σ.steps < (σ.act m).1.steps ∨
      m = .poll d.ticket ∧ σ.call? d.ticket = some d := by
  cases m with
  | issue c =>
    simp only [polled?] at h
    split at h
    · cases h
      exact .inl ⟨rfl, Nat.lt_of_lt_of_eq (Nat.lt_succ_self _) (steps_issue σ c).symm⟩
    · cases h
  | poll t =>
    have ht : d.ticket = t := (mem_of_call h).2
    subst ht
    exact .inr ⟨rfl, h⟩
  | inject n packet =>
    obtain ⟨⟨s, description⟩, handed, rfl⟩ := Option.map_eq_some_iff.mp h
    refine .inl ⟨rfl, ?_⟩
    simp only [Session.act, inject, handed, turn]
    split <;> exact Nat.lt_succ_self _
  | turnTo b => cases h

theorem exchanged_of_unborn (h : σ.WellNumbered) (ms : List Move)
    (unborn : (σ.after ms).steps ≤ t) :
    exchanged t (turns ms σ) = [] := by
  induction ms using List.reverseRecOn with
  | nil => rfl
  | append_singleton ms m ih =>
    rw [after_snoc] at unborn
    have hsteps := steps_act (σ.after ms) m
    rw [turns_snoc, exchanged_snoc, ih (Nat.le_trans hsteps unborn), List.nil_append]
    refine exchangesOf_of_ne fun d hd ht => ?_
    rcases polled_cases hd with ⟨hnew, hlt⟩ | ⟨-, hold⟩
    · exact absurd (Nat.lt_of_lt_of_le hlt unborn) (by rw [← hnew, ht]; exact Nat.lt_irrefl _)
    · have hlt := (h.after ms).tickets d (mem_of_call hold).1
      exact absurd (Nat.lt_of_lt_of_le hlt (Nat.le_trans hsteps unborn))
        (by rw [ht]; exact Nat.lt_irrefl _)

/-- The call of an earlier step, and what is left of its task: the call has come to that by its
exchanges, and waits with it if it still waits. -/
def Stands (task : Task Reply) (t : Ticket) (xs : List Turn) (τ : Session) : Prop :=
  ∃ rest, task.Passes (exchanged t xs) rest ∧ Leaves (· = rest) t τ

theorem Stands.polled (h : Stands task t xs σ) (hd : σ.call? t = some d) :
    task.Passes (exchanged t (xs ++ [⟨σ, .poll t⟩])) (σ.pollOf d).rest := by
  obtain ⟨rest, passes, leaves⟩ := h
  obtain ⟨mem, ticket⟩ := mem_of_call hd
  obtain rfl : d.task = rest := leaves.task d mem ticket
  rw [exchanged_snoc, exchangesOf_polled (m := .poll t) hd ticket]
  exact passes.trans (d.task.passes_poll _ _ _ _ _)

theorem leaves_polled (old : t < σ.steps) (hd : σ.call? t = some d) :
    Leaves (· = (σ.pollOf d).rest) t (σ.act (.poll t)).1 := by
  refine ⟨Nat.lt_of_lt_of_le old (steps_act σ _), fun c hc ht => ?_⟩
  have ticket := (mem_of_call hd).2
  rw [call?] at hd
  simp only [Session.act, pollCall, hd] at hc
  simp only [pollOf, ticket]
  cases hp : d.task.poll σ.roster σ.pace t d.progress σ.endpoint with
  | finished r w =>
    rw [hp] at hc
    exact absurd ht (by simpa using (List.mem_filter.mp hc).2)
  | waiting task p w =>
    rw [hp] at hc
    obtain ⟨c', -, rfl⟩ := List.mem_map.mp hc
    split at ht
    · rw [if_pos ‹_›]
      rfl
    · rename_i hne
      exact absurd (beq_iff_eq.mpr ht) hne

theorem Stands.act (h : Stands task t xs σ) (m : Move) :
    Stands task t (xs ++ [⟨σ, m⟩]) (σ.act m).1 := by
  have hpolled := fun d => h.polled (d := d)
  obtain ⟨rest, passes, leaves⟩ := h
  by_cases hd : ∃ d, m = .poll t ∧ σ.call? t = some d
  · obtain ⟨d, rfl, hd⟩ := hd
    exact ⟨_, hpolled d hd, leaves_polled leaves.old hd⟩
  refine ⟨rest, ?_, leaves.act m (fun _ => id) fun hm d hd' => absurd ⟨d, hm, hd'⟩ hd⟩
  rw [exchanged_snoc, exchangesOf_of_ne, List.append_nil]
  · exact passes
  · intro d hpoll ht
    rcases polled_cases hpoll with ⟨hnew, -⟩ | ⟨hm, hcall⟩
    · exact absurd (ht.symm.trans hnew) (Nat.ne_of_lt leaves.old)
    · rw [ht] at hm hcall
      exact hd ⟨d, hm, hcall⟩

def Turn.Begins (task : Task Reply) (x : Turn) : Prop :=
  ∃ c, x.move = .issue c ∧ x.before.start c = .waiting task

theorem polled_of_start {c : Command} (h : σ.start c = .waiting task) :
    σ.polled? (.issue c) = some ⟨σ.steps, task, .fresh⟩ := by simp only [polled?, h]

theorem passes_made (h : σ.WellNumbered) (ms : List Move) {c : Command}
    (hc : (σ.after ms).start c = .waiting task) :
    task.Passes (exchanged (σ.after ms).steps (turns ms σ ++ [⟨σ.after ms, .issue c⟩]))
      ((σ.after ms).firstPoll task).rest := by
  rw [exchanged_snoc, exchanged_of_unborn h ms (Nat.le_refl _), List.nil_append,
    exchangesOf_polled (polled_of_start hc) rfl]
  exact task.passes_poll _ _ _ _ _

theorem stands_since (h : σ.WellNumbered) (ms : List Move) (hx : x ∈ turns ms σ)
    (begins : x.Begins task) : Stands task x.before.steps (turns ms σ) (σ.after ms) := by
  refine since_turn (P := Stands task x.before.steps) ms hx ?_ fun before m hs => hs.act m
  rintro before m rfl
  obtain ⟨c, hm, hc⟩ := begins
  obtain rfl : m = .issue c := hm
  refine ⟨_, passes_made h before hc, (h.after before).leaves hc fun task' p w hp => ?_⟩
  rw [hp]
  rfl

theorem serves_passes (h : σ.WellNumbered) (ms : List Move)
    (hx : x ∈ turns ms σ ++ [⟨σ.after ms, m⟩]) (begins : x.Begins task)
    (serves : Turn.Serves ⟨σ.after ms, m⟩ x) :
    ∃ d, (σ.after ms).polled? m = some d ∧
      task.Passes (exchanged x.before.steps (turns ms σ ++ [⟨σ.after ms, m⟩]))
        ((σ.after ms).pollOf d).rest ∧
      Turn.result ⟨σ.after ms, m⟩ = ((σ.after ms).pollOf d).rest.status := by
  rcases serves.made_or_polls hx with rfl | ⟨made, d, hm, hd⟩
  · obtain ⟨c, hm, hc⟩ := begins
    obtain rfl : m = .issue c := hm
    exact ⟨_, polled_of_start hc, passes_made h ms hc,
      (act_start hc).1.trans (task.result_poll _ _ _ _ _)⟩
  · obtain rfl : m = .poll x.before.steps := hm
    exact ⟨d, hd, (stands_since h ms made begins).polled hd,
      (act_poll hd).1.trans (d.task.result_poll _ _ _ _ _)⟩

theorem until_served {P : List Turn → Session → Prop} (ms : List Move)
    (hx : x ∈ turns ms σ ++ [⟨σ.after ms, m⟩])
    (first : ∀ before m, x = ⟨σ.after before, m⟩ → P (turns before σ) (σ.after before))
    (next : ∀ before m, P (turns before σ) (σ.after before) →
      P (turns before σ ++ [⟨σ.after before, m⟩]) ((σ.after before).act m).1) :
    P (turns ms σ) (σ.after ms) := by
  rcases List.mem_append.mp hx with hx | hx
  · exact since_turn ms hx (fun before m begins => next before m (first before m begins)) next
  · exact first ms m (List.mem_singleton.mp hx)

theorem exchanged_of_gone (h : Leaves (fun _ => False) t σ) (ms : List Move) :
    exchanged t (turns ms σ) = [] := by
  induction ms generalizing σ with
  | nil => rfl
  | cons m ms ih =>
    have none : Turn.exchangesOf t ⟨σ, m⟩ = [] := by
      refine exchangesOf_of_ne fun d hd ht => ?_
      rcases polled_cases hd with ⟨hnew, -⟩ | ⟨-, hcall⟩
      · exact absurd (ht.symm.trans hnew) (Nat.ne_of_lt h.old)
      · exact h.task d (mem_of_call hcall).1 ht
    have rest := ih (h.act m (fun _ => id) fun _ _ _ absurd => absurd.elim)
    change Turn.exchangesOf t ⟨σ, m⟩ ++ exchanged t (turns ms (σ.act m).1) = []
    rw [none, rest, List.append_nil]

theorem gone_of_cancel (old : t < σ.steps) :
    Leaves (fun _ => False) t (σ.act (.issue (.world (.cancel t)))).1 := by
  refine ⟨Nat.lt_of_lt_of_le old (steps_act σ _), fun c hc ht => ?_⟩
  simp only [Session.act, issue, Session.start, worldCommand, cancel, turn] at hc
  cases hf : σ.calls.find? (·.ticket == t) with
  | none =>
    rw [hf] at hc
    exact absurd (beq_iff_eq.mpr ht) (List.find?_eq_none.mp hf c hc)
  | some d =>
    rw [hf] at hc
    exact absurd ht (by simpa using (List.mem_filter.mp hc).2)

end Session

end MediaSender
