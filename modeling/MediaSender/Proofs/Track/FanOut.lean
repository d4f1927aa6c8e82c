import MediaSender.Proofs.Run.Fair
import MediaSender.Proofs.Track.Gates
import MediaSender.Proofs.Track.Histories
import Mathlib.Algebra.GroupWithZero.Nat
/-!
Writes to a track of a fixed format. A write goes to the bindings that the track has when it begins:
to those that have a gate, one after the other, each under its own SSRC and payload type. A binding
that fails holds none of the others up; it is named in the failure that the write ends with.
-/

namespace MediaSender

open Endpoint

/-- What has been exchanged for a binding, and what is left of its write: its gate was asked for the
writer that it leads to, and the writer was given the packet under the SSRC and the payload type of
the binding. -/
inductive Binding.Sends (w : Endpoint) (packet : Packet) (attributes : Attributes)
    (b : Binding) : List Exchange → Task (Outcome Nat) → Prop
  | writes {g : GateId} {X : Writer} {log : List Exchange} {rest : Task (Outcome Nat)}
      (gate : b.gate = some g) (leads : Resolved g X w)
      (passes : (X.write ({ packet with ssrc := b.ssrc, payloadType := b.payloadType },
        attributes)).Passes log rest) : Sends w packet attributes b (⟨.gate g, X⟩ :: log) rest

structure Forwarding where
  binding : Binding
  log : List Exchange
  result : Outcome Nat

namespace Forwarding

def line? (f : Forwarding) : Option String :=
  match f.result with
  | .ok _ => none
  | .error e => some (f.binding.id ++ ": " ++ e.message)

def written (f : Forwarding) : Nat :=
  match f.result with
  | .ok n => n
  | .error _ => 0

def report (fs : List Forwarding) : Outcome Nat :=
  match fs.filterMap line? with
  | [] => .ok (fs.map written).sum
  | lines => .error (.other ("\n".intercalate lines))

/-- The bindings, as far as they have a gate and are written to in this order. -/
def Serve (w : Endpoint) (packet : Packet) (attributes : Attributes)
    (fs : List Forwarding) : Prop :=
  ∀ f ∈ fs, f.binding.Sends w packet attributes f.log (.done f.result)

end Forwarding

def reached (bs : List Binding) : List Binding := bs.filter (·.gate.isSome)

section

variable {b : Binding} {bs : List Binding} {g : GateId}

theorem reached_cons_of_gate (h : b.gate = some g) : reached (b :: bs) = b :: reached bs :=
  List.filter_cons_of_pos (by rw [h]; rfl)

theorem reached_cons_of_none (h : b.gate = none) : reached (b :: bs) = reached bs :=
  List.filter_cons_of_neg (by rw [h]; exact Bool.false_ne_true)

end

namespace Tally

def addAll (fs : List Forwarding) (t : Tally) : Tally :=
  fs.foldl (fun t f => t.add f.binding.id f.result) t

theorem written_addAll (fs : List Forwarding) (t : Tally) :
    (t.addAll fs).written = t.written + (fs.map (·.written)).sum := by
  induction fs generalizing t with
  | nil => rfl
  | cons f fs ih =>
    rw [addAll, List.foldl_cons, ← addAll, ih, List.map_cons, List.sum_cons, ← Nat.add_assoc]
    refine congrArg (· + _) ?_
    cases h : f.result <;> simp [add, Forwarding.written, h]

theorem lines_addAll (fs : List Forwarding) (t : Tally) :
    (t.addAll fs).failures.map (·.message) =
      t.failures.map (·.message) ++ fs.filterMap (·.line?) := by
  induction fs generalizing t with
  | nil => exact (List.append_nil _).symm
  | cons f fs ih =>
    rw [addAll, List.foldl_cons, ← addAll, ih]
    cases h : f.result with
    | ok n =>
      have line : f.line? = none := by rw [Forwarding.line?, h]
      rw [List.filterMap_cons_none line]
      rfl
    | error e =>
      have line : f.line? = some (f.binding.id ++ ": " ++ e.message) := by rw [Forwarding.line?, h]
      rw [List.filterMap_cons_some line, add, List.map_append, List.append_assoc]
      rfl

theorem outcome_addAll (fs : List Forwarding) :
    (addAll fs {}).outcome = Forwarding.report fs := by
  have written := written_addAll fs {}
  have lines : (addAll fs {}).failures.map (·.message) = fs.filterMap (·.line?) :=
    lines_addAll fs {}
  rw [outcome, Forwarding.report, ← lines, written]
  cases (addAll fs {}).failures with
  | nil => exact congrArg Except.ok (Nat.zero_add _)
  | cons e es => rfl

end Tally

inductive Distributes (w : Endpoint) (packet : Packet) (attributes : Attributes)
    (bs : List Binding) (t : Tally) : List Exchange → Task (Outcome Nat) → Prop
  | ends (fs : List Forwarding) (serve : Forwarding.Serve w packet attributes fs)
      (bindings : fs.map (·.binding) = reached bs) :
      Distributes w packet attributes bs t (fs.flatMap (·.log)) (.done (t.addAll fs).outcome)
  | waits (fs : List Forwarding) {g : GateId} {X : Writer} {next : Writer → Task (Outcome Nat)}
      (leads : Resolved g X w) :
      Distributes w packet attributes bs t (fs.flatMap (·.log)) (.ask (.gate g) next)
  | writes (fs : List Forwarding) (serve : Forwarding.Serve w packet attributes fs)
      {b : Binding} {later : List Binding} {log : List Exchange} {r : Request}
      {next next' : r.Answer → Task (Outcome Nat)}
      (bindings : reached bs = fs.map (·.binding) ++ b :: later)
      (sends : b.Sends w packet attributes log (.ask r next)) :
      Distributes w packet attributes bs t (fs.flatMap (·.log) ++ log) (.ask r next')

section

variable {w : Endpoint} {packet : Packet} {attributes : Attributes} {b : Binding}
  {bs : List Binding} {t : Tally} {log : List Exchange} {rest : Task (Outcome Nat)} {g : GateId}

theorem Distributes.skip (none : b.gate = none)
    (h : Distributes w packet attributes bs t log rest) :
    Distributes w packet attributes (b :: bs) t log rest := by
  have same : reached (b :: bs) = reached bs := reached_cons_of_none none
  cases h with
  | ends fs serve bindings => exact .ends fs serve (bindings.trans same.symm)
  | waits fs leads => exact .waits fs leads
  | writes fs serve bindings sends => exact .writes fs serve (same.trans bindings) sends

theorem Distributes.cons {result : Outcome Nat} {log' : List Exchange} (gate : b.gate = some g)
    (sends : b.Sends w packet attributes log' (.done result))
    (h : Distributes w packet attributes bs (t.add b.id result) log rest) :
    Distributes w packet attributes (b :: bs) t (log' ++ log) rest := by
  let f : Forwarding := ⟨b, log', result⟩
  have more : reached (b :: bs) = b :: reached bs := reached_cons_of_gate gate
  have serve' : ∀ {fs}, Forwarding.Serve w packet attributes fs →
      Forwarding.Serve w packet attributes (f :: fs) :=
    fun serve => List.forall_mem_cons.mpr ⟨sends, serve⟩
  cases h with
  | ends fs serve bindings =>
    exact .ends (f :: fs) (serve' serve) ((congrArg (b :: ·) bindings).trans more.symm)
  | waits fs leads => exact .waits (f :: fs) leads
  | @writes fs serve c later log r next next' bindings sends =>
    rw [← List.append_assoc]
    exact .writes (f :: fs) (serve' serve) (more.trans (congrArg (b :: ·) bindings)) sends

theorem sends_of_writeGate {v : Task (Outcome Nat)} (gate : b.gate = some g) {X : Writer}
    (leads : Resolved g X w) (told : ∀ Y, ⟨.gate g, Y⟩ ∈ log → Y = X)
    (h : (writeGate g (packet.readdress b.ssrc b.payloadType) attributes).Passes log v) :
    (log = [] ∧ v = writeGate g (packet.readdress b.ssrc b.payloadType) attributes) ∨
      b.Sends w packet attributes log v := by
  cases h with
  | refl => exact .inl ⟨rfl, rfl⟩
  | @ask r next Y log u passes =>
    obtain rfl : Y = X := told Y List.mem_cons_self
    exact .inr (.writes gate leads passes)

theorem distributes_of_passes
    (resolved : ∀ b ∈ bs, ∀ g, b.gate = some g → ∃ X, Resolved g X w)
    (told : ∀ g X Y, Resolved g X w → ⟨.gate g, Y⟩ ∈ log → Y = X)
    (h : (writeBindings packet attributes bs t).Passes log rest) :
    Distributes w packet attributes bs t log rest := by
  induction bs generalizing t log with
  | nil =>
    obtain ⟨rfl, rfl⟩ := h.of_done
    exact .ends [] (List.forall_mem_nil _) rfl
  | cons b bs ih =>
    obtain ⟨first, others⟩ := List.forall_mem_cons.mp resolved
    rw [writeBindings] at h
    cases gate : b.gate with
    | none =>
      rw [gate] at h
      exact (ih others told h).skip gate
    | some g =>
      rw [gate] at h
      obtain ⟨X, leads⟩ := first g gate
      have on {log₁ log₂ : List Exchange} {r : Outcome Nat} (hlog : log = log₁ ++ log₂)
          (one : (writeGate g (packet.readdress b.ssrc b.payloadType) attributes).Passes log₁
            (.done r))
          (rest' : (writeBindings packet attributes bs (t.add b.id r)).Passes log₂ rest) :
          Distributes w packet attributes (b :: bs) t log rest := by
        subst hlog
        rcases sends_of_writeGate gate leads
          (fun Y hY => told g X Y leads (List.mem_append_left _ hY)) one with ⟨-, absurd⟩ | sent
        · cases absurd
        · exact (ih others (fun g X Y hX hY => told g X Y hX (List.mem_append_right _ hY))
            rest').cons gate sent
      rcases h.of_bind with ⟨v, one, hrest⟩ | ⟨r, log₁, log₂, hlog, one, rest'⟩
      · cases v with
        | done r =>
          subst hrest
          exact on (List.append_nil log).symm one (.refl _)
        | ask r next =>
          rcases sends_of_writeGate gate leads (fun Y => told g X Y leads) one with ⟨rfl, hv⟩ | sent
          · rw [hv] at hrest
            subst hrest
            exact .waits [] leads
          · subst hrest
            exact .writes [] (List.forall_mem_nil _) (reached_cons_of_gate gate) sent
      · exact on hlog one rest'

end

namespace Session

variable {σ : Session} {m : Move} {t : Track} {packet : Packet} {attributes : Attributes}
  {w : Endpoint} {x y : Turn} {xs : List Turn} {k : Ticket} {g : GateId} {X Y : Writer}

def Turn.WritesTrack (t : Track) (packet : Packet) (attributes : Attributes) (x : Turn) : Prop :=
  ∃ name index, x.before.directory.tracks.lookup name = some t ∧
    x.move = .issue (.track name (.write packet attributes index))

def trackTask (t : Track) (packet : Packet) (attributes : Attributes) : Task Reply :=
  (t.write packet attributes).map .count

theorem Turn.WritesTrack.begins (fixed : t.isFixed) (h : x.WritesTrack t packet attributes) :
    x.Begins (trackTask t packet attributes) := by
  obtain ⟨name, index, named, hm⟩ := h
  refine ⟨_, hm, ?_⟩
  simp only [Session.start, trackCommand, withNamed, named, toTrack, writeTrack, if_pos fixed]
  rfl

/-- Gates that lead somewhere keep leading there, and that is what a call was told. -/
structure Follows (w : Endpoint) (k : Ticket) (xs : List Turn) (τ : Session) : Prop where
  leads : ∀ g X, Resolved g X w → Resolved g X τ.endpoint
  told : ∀ g X Y, Resolved g X w → ⟨.gate g, Y⟩ ∈ exchanged k xs → Y = X

theorem resolved_act (h : Resolved g X σ.endpoint) (m : Move) :
    Resolved g X (σ.act m).1.endpoint := by
  have assigned := assigned_act m σ
  refine ⟨Nat.lt_of_lt_of_le h.1 assigned.gatesSize, ?_⟩
  rw [assigned.gates g h.1, h.2, Option.some_or]

theorem Follows.told_act (h : Follows w k xs σ) (hX : Resolved g X w)
    (hY : ⟨.gate g, Y⟩ ∈ exchanged k (xs ++ [⟨σ, m⟩])) : Y = X := by
  rw [exchanged_snoc] at hY
  rcases List.mem_append.mp hY with hY | hY
  · exact h.told g X Y hX hY
  · exact Option.some.inj ((gate_of_turn hY).symm.trans (h.leads g X hX).2)

theorem Follows.act (h : Follows w k xs σ) (m : Move) :
    Follows w k (xs ++ [⟨σ, m⟩]) (σ.act m).1 where
  leads g X hX := resolved_act (h.leads g X hX) m
  told _ _ _ hX := h.told_act hX

theorem follows_before (h : σ.WellNumbered) (ms : List Move) :
    Follows (σ.after ms).endpoint (σ.after ms).steps (turns ms σ) (σ.after ms) := by
  refine ⟨fun _ _ => id, fun g X Y _ hY => ?_⟩
  rw [exchanged_of_unborn h ms (Nat.le_refl _)] at hY
  cases hY

theorem follows_of_serves (h : σ.WellNumbered) (ms : List Move)
    (hx : x ∈ turns ms σ ++ [⟨σ.after ms, m⟩]) :
    Follows x.before.endpoint x.before.steps (turns ms σ) (σ.after ms) := by
  refine until_served (P := Follows x.before.endpoint x.before.steps) ms hx ?_
    fun before m follows => follows.act m
  rintro before m rfl
  exact follows_before h before

/-- The call of the turn has asked for the bindings first, and was told those of that moment. -/
def Opens (t : Track) (x : Turn) (xs : List Turn) : Prop :=
  ∃ log, exchanged x.before.steps xs =
    ⟨.bindings t, (x.before.endpoint.track t).bindings⟩ :: log

theorem Opens.snoc (h : Opens t x xs) (y : Turn) : Opens t x (xs ++ [y]) := by
  obtain ⟨log, opens⟩ := h
  exact ⟨log ++ y.exchangesOf _, by rw [exchanged_snoc, opens]; rfl⟩

theorem opens_made (h : σ.WellNumbered) (ms : List Move) (fixed : t.isFixed)
    (writes : Turn.WritesTrack t packet attributes ⟨σ.after ms, m⟩) :
    Opens t ⟨σ.after ms, m⟩ (turns ms σ ++ [⟨σ.after ms, m⟩]) := by
  obtain ⟨c, hm, hc⟩ := writes.begins fixed
  obtain rfl : m = .issue c := hm
  rw [Opens, exchanged_snoc, exchanged_of_unborn h ms (Nat.le_refl _), List.nil_append,
    exchangesOf_polled (polled_of_start hc) rfl]
  exact ⟨_, rfl⟩

theorem opens_of_serves (h : σ.WellNumbered) (ms : List Move) (fixed : t.isFixed)
    (hx : x ∈ turns ms σ ++ [⟨σ.after ms, m⟩]) (writes : x.WritesTrack t packet attributes) :
    Opens t x (turns ms σ ++ [⟨σ.after ms, m⟩]) := by
  rw [← turns_snoc] at hx ⊢
  refine since_turn (P := fun xs _ => Opens t x xs) (ms ++ [m]) hx ?_ fun before m opens =>
    opens.snoc _
  rintro before m rfl
  exact opens_made h before fixed writes

/-- How far a turn has brought a write to bindings. It has written to all of them and reports what
came of it, or it is still with one of them, in the writer that its gate leads to. -/
inductive Turn.FansOut (w : Endpoint) (packet : Packet) (attributes : Attributes)
    (bs : List Binding) (y : Turn) (log : List Exchange) : Prop
  | ends (fs : List Forwarding) (serve : Forwarding.Serve w packet attributes fs)
      (bindings : fs.map (·.binding) = reached bs) (asked : log = fs.flatMap (·.log))
      (result : y.result = .answered (.count (Forwarding.report fs)))
  | writes (fs : List Forwarding) (serve : Forwarding.Serve w packet attributes fs)
      {b : Binding} {later : List Binding} {last : List Exchange} {r : Request}
      {next : r.Answer → Task (Outcome Nat)}
      (bindings : reached bs = fs.map (·.binding) ++ b :: later)
      (sends : b.Sends w packet attributes last (.ask r next))
      (asked : log = fs.flatMap (·.log) ++ last) (result : y.result = .pending)

theorem fansOut_of_serves (h : σ.WellNumbered) (ms : List Move) (fixed : t.isFixed)
    (hx : x ∈ turns ms σ ++ [⟨σ.after ms, m⟩]) (writes : x.WritesTrack t packet attributes)
    (resolved : ∀ b ∈ (x.before.endpoint.track t).bindings, ∀ g, b.gate = some g →
      ∃ X, Resolved g X x.before.endpoint)
    (serves : Turn.Serves ⟨σ.after ms, m⟩ x) :
    ∃ log, exchanged x.before.steps (turns ms σ ++ [⟨σ.after ms, m⟩]) =
        ⟨.bindings t, (x.before.endpoint.track t).bindings⟩ :: log ∧
      Turn.FansOut x.before.endpoint packet attributes (x.before.endpoint.track t).bindings
        ⟨σ.after ms, m⟩ log := by
  have follows := follows_of_serves h ms hx
  obtain ⟨log, opens⟩ := opens_of_serves h ms fixed hx writes
  obtain ⟨d, hd, passes, result⟩ := serves_passes h ms hx (writes.begins fixed) serves
  refine ⟨log, opens, ?_⟩
  have told : ∀ g X Y, Resolved g X x.before.endpoint → ⟨.gate g, Y⟩ ∈ log → Y = X :=
    fun g X Y hX hY => follows.told_act (m := m) hX (by rw [opens]; exact List.mem_cons_of_mem _ hY)
  rw [opens] at passes
  generalize hrest : ((σ.after ms).pollOf d).rest = rest at passes result
  cases passes with
  | ask onward =>
    obtain ⟨v, writing, rfl⟩ := Task.Passes.of_map onward
    cases distributes_of_passes resolved told writing with
    | ends fs serve bindings =>
      rw [Tally.outcome_addAll] at result
      exact .ends fs serve bindings rfl result
    | writes fs serve bindings sends => exact .writes fs serve bindings sends rfl result
    | @waits fs g X next leads =>
      -- The gate leads somewhere, so the poll would have gone on.
      obtain ⟨p, w', p', w'', gates, blocked⟩ := Task.blocked_of_rest _ _ _ hrest
      have gate : w'.gate g = some X := by
        rw [gate, gates]
        exact (follows.leads g X leads).2
      simp only [Request.attempt, gate, Endpoint.await] at blocked
      cases blocked

/-- A track of a fixed format has the bindings of the binds that have succeeded, less the oldest
that was left for each unbind that has. A bind fails exactly if no codec has the media type, an
unbind if no binding with the label is left, and then nothing changes. A write that begins after
such calls, when the gates of the bindings lead somewhere, goes to each binding with a gate, in
their order and once, with the SSRC and the payload type of the binding and all else as it was
given. It ends with the sum of what was written, or with a line for each binding that has failed. -/
theorem fixed_track_fans_out {format : CodecFormat} (fixed : t.source = .fixed format)
    (calls : List TrackCall) :
    let s := t.after calls
    (s.bindings = withdrawAll (t.unbinds calls) (t.binds calls) ∧
      Covers (t.binds calls) (t.unbinds calls)) ∧
    (∀ c f, (t.bindResult c s = .error f ↔
        f = .unsupportedCodec ∧
          ∀ codec ∈ c.parameters.codecs, ¬ codec.hasType format.mimeType) ∧
      (t.bindResult c s = .error f → t.call s (.bind c) = s)) ∧
    (∀ c f, (t.unbindResult c s = .error f ↔
        f = .unbindFailed ∧ ∀ b ∈ s.bindings, b.label ≠ c.label) ∧
      (t.unbindResult c s = .error f → t.call s (.unbind c) = s)) ∧
    ∀ {σ : Session}, σ.WellNumbered → ∀ ms m x packet attributes,
      let y : Turn := ⟨σ.after ms, m⟩
      x ∈ turns ms σ ++ [y] → x.WritesTrack t packet attributes →
      x.before.endpoint.track t = s →
      (∀ b ∈ s.bindings, ∀ g, b.gate = some g → ∃ X, Resolved g X x.before.endpoint) →
      y.Serves x →
        ∃ log, exchanged x.before.steps (turns ms σ ++ [y]) = ⟨.bindings t, s.bindings⟩ :: log ∧
          y.FansOut x.before.endpoint packet attributes s.bindings log := by
  intro s
  obtain ⟨covers, bindings⟩ := Track.covered_after fixed calls
  refine ⟨⟨bindings, covers⟩, fun c f => ?_, fun c f => ?_, ?_⟩
  · exact ⟨Track.bindResult_eq_error_iff fixed, Track.call_of_failed_bind fixed⟩
  · exact ⟨Track.unbindResult_eq_error_iff fixed, Track.call_of_failed_unbind fixed⟩
  · intro σ h ms m x packet attributes y hx writes state resolved serves
    have kept : t.isFixed := by rw [Track.isFixed, fixed]
    rw [← state] at resolved ⊢
    exact fansOut_of_serves h ms kept hx writes resolved serves

def brokenContext : Context :=
  { id := "broken", ssrc := 1, parameters := { codecs := [⟨{ mimeType := "VIDEO/vp8" }, 96⟩] }
    gate := some 0 }

def workingContext : Context :=
  { id := "working", ssrc := 2, parameters := { codecs := [⟨{ mimeType := Mime.vp8 }, 100⟩] }
    gate := some 1 }

def brokenCalls : List TrackCall :=
  [.bind brokenContext, .bind workingContext, .bind workingContext, .unbind workingContext]

def brokenMoves : List Move :=
  [.issue (.gate "g" .create), .issue (.gate "g" (.resolveSink "first" (some .closedPipe))),
    .issue (.gate "h" .create), .issue (.gate "h" (.resolveSink "second" none)),
    .issue (.context "b" (.create "broken" 1 brokenContext.parameters.codecs [] (some "g"))),
    .issue (.context "w" (.create "working" 2 workingContext.parameters.codecs [] (some "h"))),
    .issue (.track "a" (.bind "b")), .issue (.track "a" (.bind "w")),
    .issue (.track "a" (.bind "w")), .issue (.track "a" (.unbind "w"))]

/-- The packet reaches the second sink, and the failure names the first binding. -/
theorem broken_track_fans_out :
    let t := typeTrack 0 Mime.vp8
    let τ := typeSession.after brokenMoves
    let y : Turn := ⟨τ, .issue (.track "a" (.write { ssrc := 7, payload := [1, 2] } [(3, 4)] 0))⟩
    let sent : Packet := { ssrc := 2, payloadType := 100, payload := [1, 2] }
    typeSession.WellNumbered ∧ τ.endpoint.track t = t.after brokenCalls ∧
      t.unbindResult { id := "working", ssrc := 1 } (t.after brokenCalls) =
        .error .unbindFailed ∧
      (∃ log, exchanged τ.steps (turns brokenMoves typeSession ++ [y]) =
          ⟨.bindings t, [brokenContext.binding 96, workingContext.binding 100]⟩ :: log ∧
        ⟨.report (.sinkWrite "second" sent [(3, 4)]), ()⟩ ∈ log ∧
        y.FansOut τ.endpoint { ssrc := 7, payload := [1, 2] } [(3, 4)]
          [brokenContext.binding 96, workingContext.binding 100] log) ∧
      y.result =
        .answered (.count (.error (.other "broken: io: read/write on closed pipe"))) := by
  intro t τ y sent
  have numbered : typeSession.WellNumbered :=
    Fresh.numbered ⟨rfl, rfl, rfl, rfl, rfl, rfl, rfl, rfl⟩
  have state : τ.endpoint.track t = t.after brokenCalls := rfl
  have bindings : (t.after brokenCalls).bindings =
      [brokenContext.binding 96, workingContext.binding 100] := rfl
  have reached : (exchanged τ.steps (turns brokenMoves typeSession ++ [y]))[4]? =
      some ⟨.report (.sinkWrite "second" sent [(3, 4)]), ()⟩ := rfl
  obtain ⟨-, -, unbind, write⟩ := fixed_track_fans_out (t := t) rfl brokenCalls
  obtain ⟨log, asked, fans⟩ := write numbered brokenMoves y.move y _ _
    (List.mem_append_right _ (List.mem_singleton_self _)) ⟨"a", 0, rfl, rfl⟩ state
    (by
      rw [bindings]
      refine List.forall_mem_cons.mpr ⟨?_, List.forall_mem_singleton.mpr ?_⟩
      · rintro g ⟨⟩
        exact ⟨_, by decide, rfl⟩
      · rintro g ⟨⟩
        exact ⟨_, by decide, rfl⟩)
    (.inl rfl)
  refine ⟨numbered, state, (unbind _ _).1.mpr ⟨rfl, by rw [bindings]; decide⟩,
    ⟨log, asked, ?_, fans⟩, rfl⟩
  rw [asked] at reached
  exact List.mem_of_getElem? (i := 3) reached

end Session

end MediaSender
