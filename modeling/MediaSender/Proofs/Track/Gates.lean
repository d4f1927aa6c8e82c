import MediaSender.Proofs.Run.Assignments
import MediaSender.Proofs.Sender.PayloadTypes
import MediaSender.Proofs.Stream.Exchanges
/-!
Gates are given their writers once, and lose nothing. A write through a gate asks the gate for the
writer, and is from then on a write to that writer; until the gate has one, it stays where it is.
-/

namespace MediaSender

open Endpoint

def gateTask (g : GateId) (packet : Packet) (attributes : Attributes) : Task Reply :=
  (writeGate g packet attributes).map .count

namespace Task

variable {g : GateId} {packet : Packet} {attributes : Attributes} {w : Endpoint} {x : Writer}
  {log : List Exchange} {rest : Task Reply}

theorem Passes.of_gateTask (h : (gateTask g packet attributes).Passes log rest) :
    (log = [] ∧ rest = gateTask g packet attributes) ∨
      ∃ x log' left, log = ⟨.gate g, x⟩ :: log' ∧
        (x.write (packet, attributes)).Passes log' left ∧ rest = left.map .count := by
  cases h with
  | refl => exact .inl ⟨rfl, rfl⟩
  | @ask r next x log' u passes =>
    obtain ⟨left, writing, rfl⟩ := Passes.of_map passes
    exact .inr ⟨x, log', left, rfl, writing, rfl⟩

variable (roster : Roster) (b : Pace) (t : Ticket) (p : Progress)

theorem poll_gateTask_of_none (h : w.gate g = none) :
    (gateTask g packet attributes).poll roster b t p w =
      .waiting (gateTask g packet attributes) .fresh w := by
  simp only [gateTask, writeGate, map, bind, poll, Request.attempt, h, Endpoint.await]

theorem exchanges_gateTask_of_some (h : w.gate g = some x) :
    (gateTask g packet attributes).exchanges roster b t p w =
      ⟨.gate g, x⟩ ::
        ((x.write (packet, attributes)).map .count : Task Reply).exchanges roster b t .fresh w := by
  simp only [gateTask, writeGate, map, bind, exchanges, Request.attempt, h, Endpoint.await]

end Task

namespace Session

variable {σ : Session} {m : Move} {g : GateId} {packet : Packet} {attributes : Attributes}
  {t : Ticket} {x y : Turn} {xs : List Turn} {X : Writer}

/-- The turn resolves the gate: it asks that the gate lead to a writer. -/
def Turn.Resolves (g : GateId) (X : Writer) (x : Turn) : Prop :=
  x.before.resolving? x.move = some (g, X)

def firstResolve (g : GateId) (xs : List Turn) : Option Writer :=
  xs.findSome? fun x => x.before.resolvedTo x.move g

theorem firstResolve_snoc (g : GateId) (xs : List Turn) (x : Turn) :
    firstResolve g (xs ++ [x]) = (firstResolve g xs).or (x.before.resolvedTo x.move g) := by
  rw [firstResolve, List.findSome?_append]
  simp [firstResolve]

theorem hasGate_of_resolving (h : σ.resolving? m = some (g, X)) : σ.directory.HasGate g := by
  unfold resolving? at h
  split at h
  · obtain ⟨g', hg, h⟩ := Option.bind_eq_some_iff.mp h
    obtain ⟨s, -, h⟩ := Option.map_eq_some_iff.mp h
    cases h
    exact .inl ⟨_, mem_of_lookup hg, rfl⟩
  · obtain ⟨g', hg, h⟩ := Option.map_eq_some_iff.mp h
    cases h
    exact .inl ⟨_, mem_of_lookup hg, rfl⟩
  · cases h

theorem resolvedTo_eq_some (h : σ.resolvedTo m g = some X) : σ.resolving? m = some (g, X) := by
  obtain ⟨⟨g', X'⟩, hr, h⟩ := Option.bind_eq_some_iff.mp h
  dsimp only at h
  split at h
  · cases h
    subst g'
    exact hr
  · cases h

theorem act_resolving (h : σ.resolving? m = some (g, X)) :
    σ.act m = ({ σ with endpoint := σ.endpoint.resolve g X, steps := σ.steps + 1 },
      .answered (.outcome (σ.endpoint.resolveOutcome g))) := by
  unfold resolving? at h
  split at h
  · obtain ⟨g', hg, h⟩ := Option.bind_eq_some_iff.mp h
    obtain ⟨s, hs, h⟩ := Option.map_eq_some_iff.mp h
    cases h
    simp only [Session.act, issue, Session.start, gateCommand, withNamed, hg, toGate, hs, turn]
    rfl
  · obtain ⟨g', hg, h⟩ := Option.map_eq_some_iff.mp h
    cases h
    simp only [Session.act, issue, Session.start, gateCommand, withNamed, hg, toGate, turn]
    rfl
  · cases h

def LeadsFirst (g : GateId) (xs : List Turn) (τ : Session) : Prop :=
  g < τ.endpoint.gates.size ∧ τ.endpoint.gate g = firstResolve g xs

theorem LeadsFirst.act (h : LeadsFirst g xs σ) (m : Move) :
    LeadsFirst g (xs ++ [⟨σ, m⟩]) (σ.act m).1 := by
  have assigned := assigned_act m σ
  refine ⟨Nat.lt_of_lt_of_le h.1 assigned.gatesSize, ?_⟩
  rw [assigned.gates g h.1, h.2, firstResolve_snoc]

structure GatesLead (xs : List Turn) (τ : Session) : Prop where
  named : ∀ g, τ.directory.HasGate g → LeadsFirst g xs τ
  resolved : ∀ g X, firstResolve g xs = some X → g < τ.endpoint.gates.size

theorem GatesLead.act (h : GatesLead xs σ) (m : Move) :
    GatesLead (xs ++ [⟨σ, m⟩]) (σ.act m).1 := by
  have assigned := assigned_act m σ
  have hresolved : ∀ g X, σ.resolvedTo m g = some X → g < σ.endpoint.gates.size := fun g X hg =>
    (h.named g (hasGate_of_resolving (resolvedTo_eq_some hg))).1
  constructor
  · intro g hg
    rcases (course m σ).hasGate hg with hg | ⟨rfl, hadded⟩
    · exact (h.named g hg).act m
    · -- A gate that has just been made leads nowhere, and nobody has resolved it.
      have unborn : ¬ σ.endpoint.nextGate < σ.endpoint.gates.size := Nat.lt_irrefl _
      have none : firstResolve σ.endpoint.nextGate (xs ++ [⟨σ, m⟩]) = none := by
        rw [firstResolve_snoc, Option.or_eq_none_iff, Option.eq_none_iff_forall_ne_some,
          Option.eq_none_iff_forall_ne_some]
        exact ⟨fun X hX => unborn (h.resolved _ X hX), fun X hX => unborn (hresolved _ X hX)⟩
      rw [LeadsFirst, hadded, none]
      exact ⟨Nat.lt_succ_self _, Table.entry_push_size _ _⟩
  · intro g X hX
    rw [firstResolve_snoc, Option.or_eq_some_iff] at hX
    rcases hX with hX | ⟨-, hX⟩
    · exact Nat.lt_of_lt_of_le (h.resolved g X hX) assigned.gatesSize
    · exact Nat.lt_of_lt_of_le (hresolved g X hX) assigned.gatesSize

theorem gatesLead_after (fresh : σ.Fresh) (ms : List Move) :
    GatesLead (turns ms σ) (σ.after ms) := by
  induction ms using List.reverseRecOn with
  | nil =>
    refine ⟨fun g hg => ?_, fun g X hX => nomatch hX⟩
    rw [show (σ.after []).directory = _ from fresh.names] at hg
    rcases hg with ⟨p, hp, -⟩ | ⟨p, hp, -⟩ <;> cases hp
  | append_singleton ms m ih =>
    rw [turns_snoc, after_snoc]
    exact ih.act m

def Turn.Writes (g : GateId) (packet : Packet) (attributes : Attributes) (x : Turn) : Prop :=
  ∃ name, x.before.directory.gates.lookup name = some g ∧
    x.move = .issue (.gate name (.write packet attributes))

theorem Turn.Writes.begins (h : x.Writes g packet attributes) :
    x.Begins (gateTask g packet attributes) := by
  obtain ⟨name, hg, hm⟩ := h
  refine ⟨_, hm, ?_⟩
  simp only [Session.start, gateCommand, withNamed, hg, toGate]
  rfl

theorem Turn.Writes.hasGate (h : x.Writes g packet attributes) : x.before.directory.HasGate g := by
  obtain ⟨name, hg, -⟩ := h
  exact .inl ⟨_, mem_of_lookup hg, rfl⟩

/-- The gate leads where its first resolve asked for, and that is what a call was told. -/
def Told (g : GateId) (t : Ticket) (xs : List Turn) (τ : Session) : Prop :=
  LeadsFirst g xs τ ∧ ∀ X, ⟨.gate g, X⟩ ∈ exchanged t xs → firstResolve g xs = some X

theorem gate_of_turn (h : ⟨.gate g, X⟩ ∈ Turn.exchangesOf t ⟨σ, m⟩) :
    σ.endpoint.gate g = some X := by
  simp only [Turn.exchangesOf] at h
  split at h
  · split at h
    · exact Task.gate_of_exchange _ _ _ h
    · cases h
  · cases h

theorem Told.first (h : Told g t xs σ) (hX : ⟨.gate g, X⟩ ∈ exchanged t (xs ++ [⟨σ, m⟩])) :
    firstResolve g xs = some X := by
  rw [exchanged_snoc] at hX
  rcases List.mem_append.mp hX with hX | hX
  · exact h.2 X hX
  · rw [← h.1.2]
    exact gate_of_turn hX

theorem Told.act (h : Told g t xs σ) (m : Move) : Told g t (xs ++ [⟨σ, m⟩]) (σ.act m).1 := by
  refine ⟨h.1.act m, fun X hX => ?_⟩
  rw [firstResolve_snoc, h.first hX, Option.some_or]

theorem told_before (fresh : σ.Fresh) (ms : List Move)
    (writes : Turn.Writes g packet attributes ⟨σ.after ms, m⟩) :
    Told g (σ.after ms).steps (turns ms σ) (σ.after ms) := by
  refine ⟨(gatesLead_after fresh ms).named g writes.hasGate, fun X hX => ?_⟩
  rw [exchanged_of_unborn fresh.numbered ms (Nat.le_refl _)] at hX
  cases hX

theorem told_of_serves (fresh : σ.Fresh) (ms : List Move)
    (hx : x ∈ turns ms σ ++ [⟨σ.after ms, m⟩]) (writes : x.Writes g packet attributes) :
    Told g x.before.steps (turns ms σ) (σ.after ms) := by
  refine until_served (P := Told g x.before.steps) ms hx ?_ fun before m told => told.act m
  rintro before m rfl
  exact told_before fresh before writes

theorem polled_of_serves {task : Task Reply} (h : σ.WellNumbered) (ms : List Move)
    (hx : x ∈ turns ms σ ++ [⟨σ.after ms, m⟩]) (begins : x.Begins task)
    (serves : Turn.Serves ⟨σ.after ms, m⟩ x) (none : exchanged x.before.steps (turns ms σ) = []) :
    ∃ d, (σ.after ms).polled? m = some d ∧ d.ticket = x.before.steps ∧ d.task = task := by
  rcases serves.made_or_polls hx with rfl | ⟨made, d, hm, hd⟩
  · obtain ⟨c, hm, hc⟩ := begins
    obtain rfl : m = .issue c := hm
    exact ⟨_, polled_of_start hc, rfl, rfl⟩
  · obtain rfl : m = .poll x.before.steps := hm
    obtain ⟨mem, ticket⟩ := mem_of_call hd
    obtain ⟨rest, passes, leaves⟩ := stands_since h ms made begins
    rw [none] at passes
    cases passes
    exact ⟨d, hd, ticket, leaves.task d mem ticket⟩

/-- How a write through a gate has fared: before the first resolve it waits, unseen; after it, it is
one write to the writer that the gate was given, and what comes of that. -/
inductive Turn.Forwards (g : GateId) (packet : Packet) (attributes : Attributes) (y : Turn)
    (log : List Exchange) : Option Writer → Prop
  | waits (result : y.result = .pending) (endpoint : y.after.endpoint = y.before.endpoint)
      (quiet : log = []) : Forwards g packet attributes y log none
  | forwards {X : Writer} {log' : List Exchange} {rest : Task (Outcome Nat)}
      (asked : log = ⟨.gate g, X⟩ :: log')
      (passes : (X.write (packet, attributes)).Passes log' rest)
      (result : y.result = (rest.map Reply.count).status) :
      Forwards g packet attributes y log (some X)

theorem forwards_of_serves (fresh : σ.Fresh) (ms : List Move)
    (hx : x ∈ turns ms σ ++ [⟨σ.after ms, m⟩]) (writes : x.Writes g packet attributes)
    (serves : Turn.Serves ⟨σ.after ms, m⟩ x) :
    Turn.Forwards g packet attributes ⟨σ.after ms, m⟩
      (exchanged x.before.steps (turns ms σ ++ [⟨σ.after ms, m⟩]))
      (firstResolve g (turns ms σ)) := by
  have told := told_of_serves fresh ms hx writes
  obtain ⟨_, -, passes, result⟩ := serves_passes fresh.numbered ms hx writes.begins serves
  rcases passes.of_gateTask with ⟨quiet, rest⟩ | ⟨X, log, left, asked, writing, rest⟩
  · rw [rest] at result
    obtain ⟨before, now⟩ := List.append_eq_nil_iff.mp ((exchanged_snoc _ _ _).symm.trans quiet)
    obtain ⟨d, hd, ticket, htask⟩ :=
      polled_of_serves fresh.numbered ms hx writes.begins serves before
    cases hfirst : firstResolve g (turns ms σ) with
    | none =>
      refine .waits result ?_ quiet
      change ((σ.after ms).act m).1.endpoint = _
      rw [(act_polled hd).2, pollOf, htask, Task.poll_gateTask_of_none _ _ _ _
        (told.1.2.trans hfirst)]
      rfl
    | some X =>
      -- The gate would have answered.
      rw [exchangesOf_polled hd ticket, htask,
        Task.exchanges_gateTask_of_some _ _ _ _ (told.1.2.trans hfirst)] at now
      cases now
  · rw [rest] at result
    rw [told.first (by rw [asked]; exact List.mem_cons_self)]
    exact .forwards asked writing result

theorem endpoint_of_cancel (fresh : σ.Fresh) (ms : List Move) (hx : x ∈ turns ms σ)
    (writes : x.Writes g packet attributes) (none : exchanged x.before.steps (turns ms σ) = []) :
    ((σ.after ms).act (.issue (.world (.cancel x.before.steps)))).1.endpoint =
      (σ.after ms).endpoint := by
  obtain ⟨rest, passes, leaves⟩ := stands_since fresh.numbered ms hx writes.begins
  rw [none] at passes
  cases passes
  simp only [Session.act, issue, Session.start, worldCommand, cancel, turn]
  cases hf : (σ.after ms).calls.find? (·.ticket == x.before.steps) with
  | none => rfl
  | some d =>
    obtain ⟨mem, ticket⟩ := mem_of_call hf
    have htask := leaves.task d mem ticket
    simp only [Call.drop, htask]
    rfl

/-- How a resolve of a gate is answered: the first one settles the gate, a later one nothing. -/
inductive Turn.Settles (g : GateId) (X : Writer) (y : Turn) : Option Writer → Prop
  | first (result : y.result = .answered (.outcome (.ok ())))
      (leads : y.after.endpoint.gate g = some X) : Settles g X y none
  | later {Y : Writer} (result : y.result = .answered (.outcome (.error .alreadyResolved)))
      (same : y.after = { y.before with steps := y.before.steps + 1 }) : Settles g X y (some Y)

theorem settles_of_resolves (h : LeadsFirst g xs σ) (resolves : Turn.Resolves g X ⟨σ, m⟩) :
    Turn.Settles g X ⟨σ, m⟩ (firstResolve g xs) := by
  have acted := act_resolving resolves
  have result : Turn.result ⟨σ, m⟩ = _ := congrArg Prod.snd acted
  have after : Turn.after ⟨σ, m⟩ = _ := congrArg Prod.fst acted
  rw [resolveOutcome, h.2] at result
  rw [resolve, h.2] at after
  cases hfirst : firstResolve g xs with
  | none =>
    rw [hfirst] at result after
    refine .first result ?_
    rw [after]
    exact Table.entry_set_self _ _ _
  | some Y =>
    rw [hfirst] at result after
    exact .later result after

/-- A gate with a name is settled by the first resolve, and later ones change nothing. Calls that
ask for its writer are told that of the first resolve, and not before it. A write through the gate
waits unseen until then; afterwards it is a single write of the same packet, with the same
attributes, to that writer, and ends as that does. A write that is cancelled gets no further than it
has come, and if it was still waiting at the gate, nothing has noticed it. -/
theorem gate_forwards_once (fresh : σ.Fresh) (ms : List Move) (g : GateId) :
    let τ := σ.after ms
    let xs := turns ms σ
    (∀ m X, Turn.Resolves g X ⟨τ, m⟩ → Turn.Settles g X ⟨τ, m⟩ (firstResolve g xs)) ∧
    (τ.directory.HasGate g → ∀ m t X, ⟨.gate g, X⟩ ∈ Turn.exchangesOf t ⟨τ, m⟩ →
      firstResolve g xs = some X) ∧
    (∀ m x packet attributes, x ∈ xs ++ [⟨τ, m⟩] → x.Writes g packet attributes →
      Turn.Serves ⟨τ, m⟩ x → Turn.Forwards g packet attributes ⟨τ, m⟩
        (exchanged x.before.steps (xs ++ [⟨τ, m⟩])) (firstResolve g xs)) ∧
    ∀ x ∈ xs, ∀ packet attributes, x.Writes g packet attributes →
      let cancel := Move.issue (.world (.cancel x.before.steps))
      (∀ ms', exchanged x.before.steps (turns (ms ++ cancel :: ms') σ) =
        exchanged x.before.steps xs) ∧
      (exchanged x.before.steps xs = [] → (τ.act cancel).1.endpoint = τ.endpoint) := by
  intro τ xs
  have leads := gatesLead_after fresh ms
  refine ⟨fun m X resolves => ?_, fun named m t X hX => ?_, fun m x packet attributes => ?_, ?_⟩
  · exact settles_of_resolves (leads.named g (hasGate_of_resolving resolves)) resolves
  · rw [← (leads.named g named).2]
    exact gate_of_turn hX
  · exact forwards_of_serves fresh ms
  · intro x hx packet attributes writes cancel
    refine ⟨fun ms' => ?_, endpoint_of_cancel fresh ms hx writes⟩
    obtain ⟨_, _, leaves⟩ := stands_since fresh.numbered ms hx writes.begins
    have quiet : Turn.exchangesOf x.before.steps ⟨τ, cancel⟩ = [] :=
      exchangesOf_of_ne fun d hd => absurd hd (by rw [not_polled_cancel]; exact nofun)
    have gone := exchanged_of_gone (gone_of_cancel leaves.old) ms'
    rw [turns_append, exchanged, List.flatMap_append]
    change exchanged x.before.steps xs ++ (Turn.exchangesOf _ _ ++ exchanged _ _) = _
    rw [quiet, gone]
    exact List.append_nil _

def crowdedGate : List Move :=
  [.issue (.gate "g" .create), .issue (.gate "g" (.write { payload := [1] } [(1, 2)])),
    .issue (.gate "g" (.write { payload := [2, 3] } [])),
    .issue (.gate "g" (.resolveSink "first" none))]

/-- One of them is polled and goes out to the first writer, the other one is cancelled. -/
theorem crowded_gate_forwards_once :
    let τ := emptySession.after crowdedGate
    let again := Move.issue (.gate "g" (.resolveSink "second" none))
    emptySession.Fresh ∧
      Turn.Settles 0 (.sink "second" none) ⟨τ, again⟩ (some (.sink "first" none)) ∧
      Turn.Forwards 0 { payload := [1] } [(1, 2)] ⟨τ, .poll 1⟩
        (exchanged 1 (turns crowdedGate emptySession ++ [⟨τ, .poll 1⟩]))
        (some (.sink "first" none)) ∧
      Turn.result ⟨τ, .poll 1⟩ = .answered (.count (.ok 1)) ∧
      ∀ ms', exchanged 2 (turns (crowdedGate ++ .issue (.world (.cancel 2)) :: ms') emptySession) =
        [] := by
  have fresh : emptySession.Fresh := ⟨rfl, rfl, rfl, rfl, rfl, rfl, rfl, rfl⟩
  obtain ⟨settles, -, forwards, cancelled⟩ := gate_forwards_once fresh crowdedGate 0
  refine ⟨fresh, settles _ _ rfl, ?_, rfl, ?_⟩
  · exact forwards (.poll 1)
      ⟨emptySession.after (crowdedGate.take 1),
        .issue (.gate "g" (.write { payload := [1] } [(1, 2)]))⟩ _ _
      (List.mem_of_getElem? (i := 1) rfl) ⟨"g", rfl, rfl⟩ (.inr ⟨_, rfl, rfl⟩)
  · exact (cancelled
      ⟨emptySession.after (crowdedGate.take 2),
        .issue (.gate "g" (.write { payload := [2, 3] } []))⟩
      (List.mem_of_getElem? (i := 2) rfl) _ _ ⟨"g", rfl, rfl⟩).1

end Session

end MediaSender
