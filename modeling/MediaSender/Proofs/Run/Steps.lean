import MediaSender.Proofs.Run.Moves
/-!
The steps of a session are runs. The command of a step is one move, and each pass over the waiting
calls is a sequence of polls, in the order of the calls.
-/

namespace MediaSender

def Move.IsPoll (m : Move) : Prop := ∃ t, m = .poll t

def Command.Makes (c : Command) (m : Move) : Prop := m = .issue c ∨ m.IsPoll

namespace Session

variable {σ σ' σ₁ σ₂ σ₃ : Session} {kind kind' : Move → Prop}

structure Ticketed (σ : Session) : Prop where
  nodup : (σ.calls.map (·.ticket)).Nodup
  old : ∀ t ∈ σ.calls.map (·.ticket), t < σ.steps

theorem Ticketed.of_sublist (h : σ.Ticketed)
    (hc : (σ'.calls.map (·.ticket)).Sublist (σ.calls.map (·.ticket)))
    (hs : σ.steps ≤ σ'.steps) : σ'.Ticketed where
  nodup := h.nodup.sublist hc
  old t ht := Nat.lt_of_lt_of_le (h.old t (hc.subset ht)) hs

def Reaches (kind : Move → Prop) (σ σ' : Session) : Prop :=
  ∃ ms, (∀ m ∈ ms, kind m) ∧ σ.after ms = σ'

theorem Reaches.refl (σ : Session) : Reaches kind σ σ := ⟨[], List.forall_mem_nil _, rfl⟩

theorem Reaches.trans (h : Reaches kind σ₁ σ₂) (h' : Reaches kind σ₂ σ₃) : Reaches kind σ₁ σ₃ := by
  obtain ⟨ms, hk, rfl⟩ := h
  obtain ⟨ms', hk', rfl⟩ := h'
  exact ⟨ms ++ ms', List.forall_mem_append.mpr ⟨hk, hk'⟩, after_append ms ms' σ₁⟩

theorem Reaches.mono (h : Reaches kind σ σ') (hk : ∀ m, kind m → kind' m) : Reaches kind' σ σ' := by
  obtain ⟨ms, hm, h⟩ := h
  exact ⟨ms, fun m hms => hk m (hm m hms), h⟩

section

variable {c : Call Reply} {before cs : List (Call Reply)}

theorem find_ticket (hb : c.ticket ∉ before.map (·.ticket)) :
    (before ++ c :: cs).find? (·.ticket == c.ticket) = some c := by
  induction before with
  | nil => simp
  | cons d ds ih =>
    rw [List.map_cons, List.mem_cons, not_or] at hb
    have hd : (d.ticket == c.ticket) = false := beq_eq_false_iff_ne.mpr (Ne.symm hb.1)
    rw [List.cons_append, List.find?_cons, hd]
    exact ih hb.2

variable (hb : c.ticket ∉ before.map (·.ticket)) (hc : c.ticket ∉ cs.map (·.ticket))

include hb hc

theorem filter_ticket : (before ++ c :: cs).filter (·.ticket != c.ticket) = before ++ cs := by
  have keep : ∀ ds : List (Call Reply), c.ticket ∉ ds.map (·.ticket) →
      ds.filter (·.ticket != c.ticket) = ds := by
    intro ds hds
    refine List.filter_eq_self.mpr fun d hd => bne_iff_ne.mpr fun h => hds ?_
    exact h ▸ List.mem_map_of_mem hd
  rw [List.filter_append, keep before hb, List.filter_cons, keep cs hc]
  simp

theorem map_ticket (c' : Call Reply) :
    (before ++ c :: cs).map (fun d => if d.ticket == c.ticket then c' else d) =
      before ++ c' :: cs := by
  have keep : ∀ ds : List (Call Reply), c.ticket ∉ ds.map (·.ticket) →
      ds.map (fun d => if d.ticket == c.ticket then c' else d) = ds := by
    intro ds hds
    refine (List.map_congr_left fun d hd => if_neg fun h => hds ?_).trans (List.map_id ds)
    exact beq_iff_eq.mp h ▸ List.mem_map_of_mem hd
  rw [List.map_append, List.map_cons, keep before hb, keep cs hc, if_pos (beq_self_eq_true _)]

theorem pollCall_eq (h : σ.calls = before ++ c :: cs) :
    (σ.pollCall c.ticket).1 =
      match c.task.poll σ.roster σ.pace c.ticket c.progress σ.endpoint with
      | .finished _ endpoint => { σ with endpoint := endpoint, calls := before ++ cs }
      | .waiting task progress endpoint =>
        { σ with endpoint := endpoint, calls := before ++ ⟨c.ticket, task, progress⟩ :: cs } := by
  cases hp : c.task.poll σ.roster σ.pace c.ticket c.progress σ.endpoint with
  | finished reply w => simp only [pollCall, h, find_ticket hb, hp, filter_ticket hb hc]
  | waiting task progress w => simp only [pollCall, h, find_ticket hb, hp, map_ticket hb hc]

end

def polls (cs : List (Call Reply)) : List Move := cs.map fun c => .poll c.ticket

theorem isPoll_of_polls (cs : List (Call Reply)) : ∀ m ∈ polls cs, m.IsPoll := by
  intro m hm
  obtain ⟨c, -, rfl⟩ := List.mem_map.mp hm
  exact ⟨c.ticket, rfl⟩

theorem tickets_pollAll (roster : Roster) (b : Pace) (cs : List (Call Reply)) (w : Endpoint) :
    ((pollAll roster b cs w).waiting.map (·.ticket)).Sublist (cs.map (·.ticket)) := by
  induction cs generalizing w with
  | nil => exact .refl _
  | cons c cs ih =>
    rw [pollAll]
    split
    · exact (ih _).cons _
    · exact (ih _).cons_cons _

theorem after_polls (before : List (Call Reply)) {cs : List (Call Reply)}
    (h : σ.calls = before ++ cs) (hn : ((before ++ cs).map (·.ticket)).Nodup) :
    σ.after (polls cs) =
      { σ with
        calls := before ++ (pollAll σ.roster σ.pace cs σ.endpoint).waiting
        endpoint := (pollAll σ.roster σ.pace cs σ.endpoint).endpoint } := by
  induction cs generalizing σ before with
  | nil =>
    change σ = { σ with calls := before ++ [] }
    rw [← h]
  | cons c cs ih =>
    have hn' := hn
    rw [List.map_append, List.map_cons, List.nodup_append, List.nodup_cons] at hn'
    obtain ⟨hbefore, ⟨hc, hcs⟩, hne⟩ := hn'
    have hb : c.ticket ∉ before.map (·.ticket) := fun hm => hne _ hm _ List.mem_cons_self rfl
    change (σ.pollCall c.ticket).1.after (polls cs) = _
    rw [pollCall_eq hb hc h, pollAll]
    cases c.task.poll σ.roster σ.pace c.ticket c.progress σ.endpoint with
    | finished reply w =>
      refine (ih before rfl ?_).trans rfl
      exact hn.sublist (((List.sublist_cons_self c cs).append_left before).map _)
    | waiting task progress w =>
      have heq : before ++ ⟨c.ticket, task, progress⟩ :: cs =
          (before ++ [⟨c.ticket, task, progress⟩]) ++ cs := List.append_cons _ _ _
      refine (ih (before ++ [⟨c.ticket, task, progress⟩]) heq ?_).trans ?_
      · rw [← heq, List.map_append, List.map_cons]
        rwa [List.map_append, List.map_cons] at hn
      · dsimp only
        rw [List.append_assoc]
        rfl

theorem Ticketed.pass (h : σ.Ticketed) : σ.pass.1.Ticketed :=
  h.of_sublist (tickets_pollAll _ _ _ _) (Nat.le_refl _)

theorem reaches_pass (h : σ.Ticketed) : Reaches Move.IsPoll σ σ.pass.1 :=
  ⟨polls σ.calls, isPoll_of_polls _, after_polls [] rfl h.nodup⟩

theorem settle_reaches (h : σ.Ticketed) (fuel idle : Nat) :
    Reaches Move.IsPoll σ (settle fuel idle σ).1 ∧ (settle fuel idle σ).1.Ticketed := by
  induction fuel generalizing σ idle with
  | zero => exact ⟨.refl σ, h⟩
  | succ fuel ih =>
    cases idle with
    | zero => exact ⟨.refl σ, h⟩
    | succ idle =>
      obtain ⟨hr, ht⟩ := ih h.pass (if σ.pass.2.isEmpty then idle else idlePasses)
      exact ⟨(reaches_pass h).trans hr, ht⟩

theorem settle_withSteps (n fuel idle : Nat) (σ : Session) :
    (settle fuel idle { σ with steps := n }).1 = { (settle fuel idle σ).1 with steps := n } := by
  induction fuel generalizing σ idle with
  | zero => rfl
  | succ fuel ih =>
    cases idle with
    | zero => rfl
    | succ idle => exact ih _ σ.pass.1

def Keeps (σ : Session) : Started → Prop
  | .finished _ σ' => σ'.steps = σ.steps ∧ σ'.calls.Sublist σ.calls
  | _ => True

theorem keeps_of_eq {r : Reply} (hs : σ'.steps = σ.steps) (hc : σ'.calls = σ.calls) :
    σ.Keeps (.finished r σ') := ⟨hs, hc ▸ .refl _⟩

theorem keeps_named {α : Type} {names : Names α} {name : String} {f : α → Started}
    (hf : ∀ a, σ.Keeps (f a)) : σ.Keeps (withNamed names name f) := by
  simp only [withNamed]
  split
  · exact hf _
  · trivial

theorem keeps_worldCommand (σ : Session) (c : WorldCommand) : σ.Keeps (σ.worldCommand c) := by
  have hf : ∀ name, (σ.forgetTransceiver name).steps = σ.steps ∧
      (σ.forgetTransceiver name).calls = σ.calls := by
    intro name
    simp only [forgetTransceiver]
    split <;> exact ⟨rfl, rfl⟩
  cases c with
  | trap stream => exact keeps_named fun _ => keeps_of_eq rfl rfl
  | cancel step =>
    change σ.Keeps (σ.cancel step)
    simp only [cancel]
    split
    · exact keeps_of_eq rfl rfl
    · exact ⟨rfl, List.filter_sublist⟩
  | createTransceiver name codecs => exact keeps_of_eq (hf name).1 (hf name).2
  | dropTransceiver name => exact keeps_of_eq (hf name).1 (hf name).2
  | _ => exact keeps_of_eq rfl rfl

theorem keeps_senderCommand (σ : Session) (name : String) (c : SenderCommand) :
    σ.Keeps (σ.senderCommand name c) := by
  cases c with
  | create track connected =>
    change σ.Keeps (σ.createSender name track connected)
    simp only [createSender]
    split <;> exact keeps_of_eq rfl rfl
  | setDeadline ms rid =>
    refine keeps_named fun k => ?_
    unfold toSender
    dsimp only
    split <;> exact keeps_of_eq rfl rfl
  | awaitSending => exact keeps_named fun _ => trivial
  | read feed size => exact keeps_named fun _ => trivial
  | readPackets feed => exact keeps_named fun _ => trivial
  | _ => exact keeps_named fun _ => keeps_of_eq rfl rfl

theorem keeps_withContext (t : Track) (index : Nat) {f : Context → Started}
    (hf : ∀ c, σ.Keeps (f c)) : σ.Keeps (σ.withContext t index f) := by
  simp only [withContext]
  split
  · trivial
  · split
    · exact hf _
    · trivial

theorem keeps_trackCommand (σ : Session) (name : String) (c : TrackCommand) :
    σ.Keeps (σ.trackCommand name c) := by
  refine keeps_named fun t => ?_
  cases c with
  | info => exact keeps_of_eq rfl rfl
  | bind context => exact keeps_named fun _ => keeps_of_eq rfl rfl
  | unbind context => exact keeps_named fun _ => keeps_of_eq rfl rfl
  | bindingCount =>
    change σ.Keeps (if t.isFixed then _ else _)
    split
    · exact keeps_of_eq rfl rfl
    · trivial
  | write packet attributes index =>
    change σ.Keeps (if t.isFixed then _ else _)
    split
    · trivial
    · refine keeps_withContext t index fun c => ?_
      split
      · trivial
      · exact keeps_of_eq rfl rfl
  | read size attributes index =>
    refine keeps_withContext t index fun c => ?_
    split
    · trivial
    · exact keeps_of_eq rfl rfl

theorem start_keeps (σ : Session) (c : Command) : σ.Keeps (σ.start c) := by
  cases c with
  | world c => exact keeps_worldCommand σ c
  | sender name c => exact keeps_senderCommand σ name c
  | track name c => exact keeps_trackCommand σ name c
  | context name c =>
    cases c with
    | create => exact keeps_of_eq rfl rfl
    | info => exact keeps_named fun _ => keeps_of_eq rfl rfl
  | gate name c =>
    cases c with
    | create => exact keeps_of_eq rfl rfl
    | resolveStream stream => exact keeps_named fun _ => keeps_named fun _ => keeps_of_eq rfl rfl
    | write => exact keeps_named fun _ => trivial
    | _ => exact keeps_named fun _ => keeps_of_eq rfl rfl
  | stream name c =>
    cases c with
    | create => exact keeps_of_eq rfl rfl
    | write => exact keeps_named fun _ => trivial
    | read => exact keeps_named fun _ => trivial
    | readWith => exact keeps_named fun _ => trivial
    | _ => exact keeps_named fun _ => keeps_of_eq rfl rfl
  | lifecycle name c =>
    cases c with
    | create => exact keeps_of_eq rfl rfl
    | awaitSending => exact keeps_named fun _ => trivial
    | _ => exact keeps_named fun _ => keeps_of_eq rfl rfl
  | chain c =>
    cases c with
    | read => exact keeps_named fun _ => trivial
    | write => exact keeps_named fun _ => trivial
    | _ => exact keeps_of_eq rfl rfl
  | unknown => trivial

def Alike (x y : Started) : Prop := (∃ r σ, x = .finished r σ) ∨ y = x

theorem alike_finished {r : Reply} {y : Started} : Alike (.finished r σ) y := .inl ⟨r, σ, rfl⟩

theorem alike_named {α : Type} {names names' : Names α} (hn : names' = names) {name : String}
    {f f' : α → Started} (hf : ∀ a, Alike (f a) (f' a)) :
    Alike (withNamed names name f) (withNamed names' name f') := by
  subst hn
  simp only [withNamed]
  split
  · exact hf _
  · exact .inr rfl

theorem start_alike {c : Command} (hc : c.actsAtOnce) (hd : σ'.directory = σ.directory) :
    Alike (σ.start c) (σ'.start c) := by
  have streams := congrArg Directory.streams hd
  have gates := congrArg Directory.gates hd
  have lifecycles := congrArg Directory.lifecycles hd
  cases c with
  | world c =>
    cases c with
    | trap stream => exact alike_named streams fun _ => alike_finished
    | cancel step =>
      change Alike (σ.cancel step) _
      simp only [cancel]
      split <;> exact alike_finished
    | _ => exact alike_finished
  | context name c =>
    cases c with
    | create => exact alike_finished
    | info => exact alike_named (congrArg _ hd) fun _ => alike_finished
  | gate name c =>
    cases c with
    | create => exact alike_finished
    | resolveStream stream =>
      exact alike_named gates fun _ => alike_named streams fun _ => alike_finished
    | write => exact alike_named gates fun _ => .inr rfl
    | _ => exact alike_named gates fun _ => alike_finished
  | stream name c =>
    cases c with
    | create => exact alike_finished
    | write => exact alike_named streams fun _ => .inr rfl
    | read => exact alike_named streams fun _ => .inr rfl
    | readWith => exact alike_named streams fun _ => .inr rfl
    | close => cases hc
    | _ => exact alike_named streams fun _ => alike_finished
  | lifecycle name c =>
    cases c with
    | create => exact alike_finished
    | awaitSending => exact alike_named lifecycles fun _ => .inr rfl
    | _ => exact alike_named lifecycles fun _ => alike_finished
  | unknown => exact .inr rfl
  | _ => cases hc

theorem Ticketed.issue (h : σ.Ticketed) (c : Command) : (σ.issue c).1.Ticketed := by
  have hk := start_keeps σ c
  simp only [Session.issue, turn]
  generalize σ.start c = x at hk
  cases x with
  | refused => exact h.of_sublist (.refl _) (Nat.le_succ _)
  | finished r σ' => exact h.of_sublist (hk.2.map _) (hk.1 ▸ Nat.le_succ _)
  | waiting t =>
    dsimp only
    split
    · exact h.of_sublist (.refl _) (Nat.le_succ _)
    · constructor
      · rw [List.map_append, List.nodup_append]
        refine ⟨h.nodup, List.pairwise_singleton _ _, fun t ht t' ht' => ?_⟩
        cases List.mem_singleton.mp ht'
        exact Nat.ne_of_lt (h.old t ht)
      · intro t ht
        rw [List.map_append, List.mem_append] at ht
        rcases ht with ht | ht
        · exact Nat.lt_succ_of_lt (h.old t ht)
        · cases List.mem_singleton.mp ht
          exact Nat.lt_succ_self _

theorem reaches_issue (c : Command) (σ : Session) : Reaches c.Makes σ (σ.issue c).1 :=
  ⟨[.issue c], List.forall_mem_singleton.mpr (.inl rfl), rfl⟩

theorem steps_issue (σ : Session) (c : Command) : (σ.issue c).1.steps = σ.steps + 1 := by
  have hk := start_keeps σ c
  simp only [issue, turn]
  generalize σ.start c = x at hk
  cases x with
  | refused => rfl
  | finished r σ' => exact congrArg Nat.succ hk.1
  | waiting t =>
    dsimp only
    split <;> rfl

theorem reaches_settle_turn (h : σ.Ticketed) (c : Command) (fuel idle : Nat) :
    let τ := { (settle fuel idle (σ.turn (σ.start c)).1).1 with steps := σ.steps + 1 }
    Reaches c.Makes σ τ ∧ τ.Ticketed := by
  intro τ
  have hn : (σ.turn (σ.start c)).1.steps = σ.steps := Nat.succ.inj (steps_issue σ c)
  have hi : (σ.issue c).1 = { (σ.turn (σ.start c)).1 with steps := σ.steps + 1 } := by
    rw [← hn]
    rfl
  have hτ : τ = (settle fuel idle (σ.issue c).1).1 := by rw [hi, settle_withSteps]
  obtain ⟨hr, ht⟩ := settle_reaches (h.issue c) fuel idle
  rw [hτ]
  exact ⟨(reaches_issue c σ).trans (hr.mono fun _ => .inr), ht⟩

theorem step_reaches (h : σ.Ticketed) (c : Command) :
    Reaches c.Makes σ (σ.step c).1 ∧ (σ.step c).1.Ticketed := by
  have pass : Reaches c.Makes σ σ.pass.1 := (reaches_pass h).mono fun _ => .inr
  have later := reaches_settle_turn h.pass c
  by_cases hc : c.actsAtOnce
  · have halike : Alike (σ.start c) (σ.pass.1.start c) := start_alike hc rfl
    -- A command that is done at once acts before the first pass, any other one after it.
    cases hs : σ.start c with
    | finished r σ' =>
      have harrive : σ.arrive c = (σ', .finished r) := by
        rw [arrive, if_pos hc, hs]
      have hkeeps := start_keeps σ c
      have hissue : (σ.issue c).1 = { σ' with steps := σ.steps + 1 } := by
        rw [hs] at hkeeps
        rw [issue, hs, ← hkeeps.1]
        rfl
      have ht : Ticketed { σ' with steps := σ.steps + 1 } := hissue ▸ h.issue c
      have hissued := reaches_issue c σ
      rw [hissue] at hissued
      have hpass := hissued.trans ((reaches_pass ht).mono fun _ => .inr)
      have hsettle := settle_reaches ht.pass
      rw [step, harrive]
      dsimp only
      rw [← settle_withSteps]
      exact ⟨hpass.trans ((hsettle _ _).1.mono fun _ => .inr), (hsettle _ _).2⟩
    | _ =>
      have hlater : σ.pass.1.start c = σ.start c := halike.resolve_left (by simp [hs])
      have harrive : σ.arrive c = (σ, fun _ => σ.start c) := by
        rw [arrive, if_pos hc, hs]
      rw [step, harrive, ← hlater]
      exact ⟨pass.trans (later _ _).1, (later _ _).2⟩
  · have hstep : σ.arrive c = (σ, fun σ' => σ'.start c) := if_neg hc
    rw [step, hstep]
    exact ⟨pass.trans (later _ _).1, (later _ _).2⟩

theorem Ticketed.run_reaches (h : σ.Ticketed) (cs : List Command) :
    Reaches (fun m => ∃ c ∈ cs, c.Makes m) σ (σ.run cs).1 := by
  induction cs generalizing σ with
  | nil => exact .refl σ
  | cons c cs ih =>
    obtain ⟨hstep, ht⟩ := step_reaches h c
    have first : Reaches (fun m => ∃ c' ∈ c :: cs, c'.Makes m) σ (σ.step c).1 :=
      hstep.mono fun _ hm => ⟨c, List.mem_cons_self, hm⟩
    have rest : Reaches (fun m => ∃ c' ∈ c :: cs, c'.Makes m) (σ.step c).1 (σ.run (c :: cs)).1 :=
      (ih ht).mono fun _ ⟨c', hc', hm⟩ => ⟨c', List.mem_cons_of_mem _ hc', hm⟩
    exact first.trans rest

theorem Fresh.ticketed (h : σ.Fresh) : σ.Ticketed := by
  constructor <;> simp [h.calls]

/-- A run of commands is a run of moves, each of which is one of the commands or a poll. -/
theorem Fresh.run_reaches (h : σ.Fresh) (cs : List Command) :
    Reaches (fun m => ∃ c ∈ cs, c.Makes m) σ (σ.run cs).1 := h.ticketed.run_reaches cs

end Session

end MediaSender
