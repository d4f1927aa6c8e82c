import MediaSender.Proofs.Run.Effects
/-!
A stream is opened once, and what was opened is closed once. The trace of a stream is tied to its
flags: an open is in the trace if the stream is open, a close if it is shut, and it is shut exactly
if it is open and closed. Calls may be polled in any order, may be dropped, and may run out of time.
-/

namespace MediaSender

namespace Event

def opens (s : StreamId) : Event → Bool
  | opened s' _ => s' == s
  | _ => false

def closes (s : StreamId) : Event → Bool
  | closed s' _ => s' == s
  | _ => false

def traffic? : Event → Option (StreamId × Ssrc)
  | sent s c _ => some (s, c)
  | received s c _ => some (s, c)
  | _ => none

def concerns (s : StreamId) : Event → Bool
  | opened s' _ | closed s' _ | sent s' _ _ | received s' _ _ => s' == s
  | _ => false

theorem opens_of_concerns {s : StreamId} {e : Event} (h : e.opens s) : e.concerns s := by
  cases e with
  | opened s' c => exact h
  | _ => cases h

theorem closes_of_concerns {s : StreamId} {e : Event} (h : e.closes s) : e.concerns s := by
  cases e with
  | closed s' c => exact h
  | _ => cases h

theorem concerns_of_traffic {s : StreamId} {c : Ssrc} {e : Event} (h : e.traffic? = some (s, c)) :
    e.concerns s := by
  cases e with
  | sent s' c' packet =>
    cases h
    exact beq_self_eq_true s
  | received s' c' data =>
    cases h
    exact beq_self_eq_true s
  | _ => cases h

theorem concerns_of_isNote {s : StreamId} {e : Event} (h : e.isNote) : e.concerns s = false := by
  cases e with
  | opened s' c => cases h
  | closed s' c => cases h
  | sent s' c packet => cases h
  | received s' c data => cases h
  | _ => rfl

end Event

namespace Endpoint

def openings (s : StreamId) (w : Endpoint) : Nat := w.trace.countP (Event.opens s)

def closings (s : StreamId) (w : Endpoint) : Nat := w.trace.countP (Event.closes s)

/-- Packets pass a stream only after it was opened, and with its SSRC. -/
def Follows (s : StreamId) (trace : List Event) : Prop :=
  ∀ before e after c, trace = before ++ e :: after → e.traffic? = some (s, c) →
    .opened s c ∈ before

theorem Follows.append {s : StreamId} {trace es : List Event} (h : Follows s trace)
    (hes : ∀ e ∈ es, ∀ c, e.traffic? = some (s, c) → .opened s c ∈ trace) :
    Follows s (trace ++ es) := by
  intro before e after c heq he
  rcases List.append_eq_append_iff.mp heq with ⟨mid, rfl, hmid⟩ | ⟨mid, rfl, hmid⟩
  · have hm : e ∈ es := hmid ▸ List.mem_append_right _ List.mem_cons_self
    exact List.mem_append_left _ (hes e hm c he)
  · cases mid with
    | nil =>
      have hm : e ∈ es := by
        rw [← List.nil_append es, ← hmid]
        exact List.mem_cons_self
      exact List.append_nil before ▸ hes e hm c he
    | cons e' mid =>
      obtain ⟨rfl, -⟩ := List.cons.inj hmid
      exact h before e mid c rfl he

/-- The trace tells of a stream what its flags tell. -/
structure Counted (s : StreamId) (w : Endpoint) : Prop where
  openings : w.openings s = if (w.stream s).opened then 1 else 0
  closings : w.closings s = if (w.stream s).shut then 1 else 0
  ssrc : ∀ c, .opened s c ∈ w.trace ↔ (w.stream s).opened ∧ c = w.ssrcOf s
  follows : Follows s w.trace

theorem Counted.opened_of {s : StreamId} {w : Endpoint} (h : w.Counted s)
    (hpos : 0 < w.openings s) : (w.stream s).opened := by
  rw [h.openings] at hpos
  split at hpos
  · assumption
  · cases hpos

theorem Counted.shut_of {s : StreamId} {w : Endpoint} (h : w.Counted s)
    (hpos : 0 < w.closings s) : (w.stream s).shut := by
  rw [h.closings] at hpos
  split at hpos
  · assumption
  · cases hpos

/-- A stream is shut exactly if it is open and closed, and nothing has happened to one that does
not exist. -/
structure Settled (s : StreamId) (w : Endpoint) : Prop where
  shut : (w.stream s).shut = ((w.stream s).opened && (w.stream s).closed)
  unknown : ¬ w.Known s → (w.stream s).opened = false ∧ (w.stream s).closed = false

variable {s : StreamId} {w w' : Endpoint}

theorem Counted.apart (h : w.Counted s) {es : List Event} (ht : w'.trace = w.trace ++ es)
    (hes : ∀ e ∈ es, e.concerns s = false) (opened : (w'.stream s).opened = (w.stream s).opened)
    (shut : (w'.stream s).shut = (w.stream s).shut)
    (ssrc : (w.stream s).opened → w'.ssrcOf s = w.ssrcOf s) : w'.Counted s where
  openings := by
    have hz : es.countP (Event.opens s) = 0 := List.countP_eq_zero.mpr fun e he ho =>
      Bool.false_ne_true ((hes e he).symm.trans (Event.opens_of_concerns ho))
    rw [Endpoint.openings, ht, List.countP_append, hz, opened]
    exact h.openings
  closings := by
    have hz : es.countP (Event.closes s) = 0 := List.countP_eq_zero.mpr fun e he hc =>
      Bool.false_ne_true ((hes e he).symm.trans (Event.closes_of_concerns hc))
    rw [Endpoint.closings, ht, List.countP_append, hz, shut]
    exact h.closings
  ssrc c := by
    have hz : .opened s c ∉ es := fun he =>
      Bool.false_ne_true ((hes _ he).symm.trans (beq_self_eq_true s))
    rw [ht, List.mem_append, or_iff_left hz, h.ssrc c, opened]
    exact and_congr_right fun ho => by rw [ssrc ho]
  follows := by
    rw [ht]
    refine h.follows.append fun e he c hc => ?_
    exact absurd (Event.concerns_of_traffic hc) (by simp [hes e he])

theorem Counted.quiet (h : w.Counted s) {es : List Event} (ht : w'.trace = w.trace ++ es)
    (hes : ∀ e ∈ es, e.concerns s = false) (hs : w'.stream s = w.stream s) : w'.Counted s :=
  h.apart ht hes (congrArg _ hs) (congrArg _ hs) fun _ => congrArg LazyStream.ssrc hs

theorem Counted.log (h : w.Counted s) (level : LogLevel) (text : String) :
    (w.log level text).Counted s := h.quiet rfl (by simp [Event.concerns]) rfl

theorem Counted.update (h : w.Counted s) (s₀ : StreamId) {f : LazyStream → LazyStream}
    (opened : ∀ st, (f st).opened = st.opened) (shut : ∀ st, (f st).shut = st.shut)
    (ssrc : ∀ st, (f st).ssrc = st.ssrc) : (w.updateStream s₀ f).Counted s := by
  have ht : (w.updateStream s₀ f).trace = w.trace ++ [] := (List.append_nil _).symm
  by_cases hs : s = s₀
  · subst hs
    have hf := stream_updateStream_self s f w
    refine h.apart ht (List.forall_mem_nil _) ?_ ?_ fun _ => ?_
    · rw [hf, opened]
    · rw [hf, shut]
    · rw [ssrcOf, hf, ssrc]
      rfl
  · exact h.quiet ht (List.forall_mem_nil _) (stream_updateStream_ne f w hs)

theorem Counted.markOpen (h : w.Counted s) {s₀ : StreamId} (ho : (w.stream s₀).opened = false) :
    (w.markOpen s₀).Counted s := by
  have ht : (w.markOpen s₀).trace = w.trace ++ [.opened s₀ (w.ssrcOf s₀)] := rfl
  by_cases hs : s = s₀
  · subst hs
    have hm : (w.markOpen s).stream s = (w.stream s).markOpened := by
      rw [stream_markOpen, if_pos rfl]
    constructor
    · have hn : w.openings s = 0 := by rw [h.openings, ho, if_neg Bool.false_ne_true]
      rw [Endpoint.openings, ht, List.countP_append, ← Endpoint.openings, hn, hm]
      simp [Event.opens, LazyStream.markOpened]
    · rw [Endpoint.closings, ht, List.countP_append, ← Endpoint.closings, h.closings, hm]
      rfl
    · intro c
      rw [ht, List.mem_append, h.ssrc, ho, ssrcOf, ssrcOf, hm]
      simp [LazyStream.markOpened]
    · rw [ht]
      refine h.follows.append fun e he c hc => ?_
      cases List.mem_singleton.mp he
      cases hc
  · refine h.quiet ht (by simp [Event.concerns, Ne.symm hs]) ?_
    rw [stream_markOpen, if_neg hs]

theorem Counted.shut (h : w.Counted s) (s₀ : StreamId) : (w.shut s₀).Counted s := by
  by_cases hsh : (w.stream s₀).shut
  · rwa [Endpoint.shut, if_pos hsh]
  · have ht : (w.shut s₀).trace = w.trace ++ [.closed s₀ (w.ssrcOf s₀)] := by
      rw [trace_shut, if_neg hsh]
    by_cases hs : s = s₀
    · subst hs
      have hm : (w.shut s).stream s = (w.stream s).markShut := by rw [stream_shut, if_pos rfl]
      constructor
      · rw [Endpoint.openings, ht, List.countP_append, ← Endpoint.openings, h.openings, hm]
        rfl
      · have hn : w.closings s = 0 := by rw [h.closings, if_neg hsh]
        rw [Endpoint.closings, ht, List.countP_append, ← Endpoint.closings, hn, hm]
        simp [Event.closes, LazyStream.markShut]
      · intro c
        rw [ht, List.mem_append, h.ssrc, ssrcOf, ssrcOf, hm]
        simp [LazyStream.markShut]
      · rw [ht]
        refine h.follows.append fun e he c hc => ?_
        cases List.mem_singleton.mp he
        cases hc
    · refine h.quiet ht (by simp [Event.concerns, Ne.symm hs]) ?_
      rw [stream_shut, if_neg hs]

theorem Counted.finishOpen (h : w.Counted s) {s₀ : StreamId}
    (ho : (w.stream s₀).opened = false) : (w.finishOpen s₀).Counted s := by
  simp only [Endpoint.finishOpen]
  split
  · exact (h.markOpen ho).shut s₀
  · exact h.markOpen ho

theorem Counted.closeStream (h : w.Counted s) (s₀ : StreamId) : (w.closeStream s₀).Counted s := by
  have hc : (w.updateStream s₀ .close).Counted s :=
    h.update s₀ (fun _ => rfl) (fun _ => rfl) fun _ => rfl
  simp only [Endpoint.closeStream]
  split
  · exact h
  · split
    · exact hc.shut s₀
    · exact hc

theorem Counted.pass (h : w.Counted s) {s₀ : StreamId} {e : Event} (ho : (w.stream s₀).opened)
    (he : e.traffic? = some (s₀, w.ssrcOf s₀)) (ht : w'.trace = w.trace ++ [e])
    (hs : w'.stream = w.stream) : w'.Counted s := by
  have hno : e.opens s = false := by cases e <;> first | rfl | cases he
  have hnc : e.closes s = false := by cases e <;> first | rfl | cases he
  constructor
  · rw [Endpoint.openings, ht, List.countP_append, ← Endpoint.openings, h.openings, hs]
    simp [hno]
  · rw [Endpoint.closings, ht, List.countP_append, ← Endpoint.closings, h.closings, hs]
    simp [hnc]
  · intro c
    have hne : .opened s c ≠ e := by
      rintro rfl
      cases he
    rw [ht, List.mem_append, List.mem_singleton, or_iff_left hne, h.ssrc, ssrcOf, ssrcOf, hs]
  · rw [ht]
    refine h.follows.append fun e' he' c hc => ?_
    cases List.mem_singleton.mp he'
    rw [he] at hc
    cases hc
    exact (h.ssrc _).mpr ⟨ho, rfl⟩

section

variable {free closes : StreamId → Prop}

theorem Change.counted (h : Change free closes w w') (hc : w.Counted s) : w'.Counted s := by
  cases h with
  | surroundings streams gates tracks trace =>
    refine hc.quiet (trace.trans (List.append_nil _).symm) (List.forall_mem_nil _) ?_
    rw [Endpoint.stream, Endpoint.stream, streams]
  | notes notes => exact hc.quiet rfl (fun e he => Event.concerns_of_isNote (notes e he)) rfl
  | bindTrack => exact hc.quiet rfl (by simp [Event.concerns]) rfl
  | unbindTrack => exact hc.quiet rfl (by simp [Event.concerns]) rfl
  | addGate => exact hc.quiet (List.append_nil _).symm (List.forall_mem_nil _) rfl
  | resolve g =>
    simp only [Endpoint.resolve]
    split
    · exact hc
    · exact hc.quiet (List.append_nil _).symm (List.forall_mem_nil _) rfl
  | tend s₀ opened closed shut ssrc => exact hc.update s₀ opened shut ssrc
  | finishOpen known opened => exact hc.finishOpen opened
  | shut => exact hc.shut _
  | transmit packet opened => exact hc.pass opened rfl rfl rfl
  | take size opened => exact hc.pass opened rfl rfl rfl
  | close => exact hc.closeStream _

theorem settled_closing {a : LazyStream} (h : a.shut = (a.opened && a.closed)) :
    (closing a).shut = ((closing a).opened && (closing a).closed) := by
  simp only [closing]
  split
  · exact h
  · rename_i hc
    split
    · rename_i ho
      simp [LazyStream.close, LazyStream.markShut, ho]
    · rename_i ho
      simp [LazyStream.close, h, ho]

theorem Settled.of_stream (h : w.Settled s) (hk : w.Known s → w'.Known s)
    (opened : (w'.stream s).opened = (w.stream s).opened)
    (closed : (w'.stream s).closed = (w.stream s).closed)
    (shut : (w'.stream s).shut = (w.stream s).shut) : w'.Settled s where
  shut := by rw [shut, opened, closed, h.shut]
  unknown hn := by
    rw [opened, closed]
    exact h.unknown fun hs => hn (hk hs)

theorem StreamChange.settled {Known May : Prop} {a b : LazyStream}
    (h : StreamChange Known May a b) (ha : a.shut = (a.opened && a.closed)) :
    b.shut = (b.opened && b.closed) := by
  cases h with
  | tended opened closed shut ssrc => rw [shut, opened, closed, ha]
  | finished _ opened =>
    have notShut : a.shut = false := by rw [ha, opened, Bool.false_and]
    split
    · rename_i hc
      simp [LazyStream.markOpened, LazyStream.markShut, hc]
    · rename_i hc
      simp [LazyStream.markOpened, notShut, hc]
  | shut opened closed => simp [LazyStream.markShut, opened, closed]
  | closed => exact settled_closing ha

theorem StreamChange.of_unknown {Known May : Prop} {a b : LazyStream}
    (h : StreamChange Known May a b) (unknown : ¬ Known) :
    b.opened = a.opened ∧ b.closed = a.closed := by
  cases h with
  | tended opened closed shut ssrc => exact ⟨opened, closed⟩
  | finished known => exact absurd known unknown
  | shut => exact ⟨rfl, rfl⟩
  | closed known => exact absurd known unknown

theorem Change.settled (h : Change free closes w w') (hc : w.Settled s) : w'.Settled s where
  shut := (h.stream s).settled hc.shut
  unknown hn := by
    have unknown : ¬ w.Known s := mt h.extends.known hn
    obtain ⟨opened, closed⟩ := (h.stream s).of_unknown unknown
    rw [opened, closed]
    exact hc.unknown unknown

end

structure Lawful (s : StreamId) (w : Endpoint) : Prop where
  counted : w.Counted s
  settled : w.Settled s

theorem Lawful.addStream (h : w.Lawful s) (ssrc : Ssrc) (deadline : Option Instant) :
    (w.addStream ssrc deadline).Lawful s := by
  have ht : (w.addStream ssrc deadline).trace = w.trace ++ [] := (List.append_nil _).symm
  by_cases hs : s = w.nextStream
  · subst hs
    obtain ⟨ho, -⟩ := h.settled.unknown (Nat.lt_irrefl _)
    have hsh : (w.stream w.nextStream).shut = false := by rw [h.settled.shut, ho, Bool.false_and]
    have hn := stream_addStream_self ssrc deadline w
    refine ⟨h.counted.apart ht (List.forall_mem_nil _) ?_ ?_ ?_, ⟨?_, ?_⟩⟩
    · rw [hn, ho]
    · rw [hn, hsh]
    · rw [ho]
      exact fun hf => absurd hf Bool.false_ne_true
    · rw [hn]
      rfl
    · exact fun hk => absurd (known_addStream ssrc deadline w) hk
  · have hn := stream_addStream_ne ssrc deadline w hs
    refine ⟨h.counted.quiet ht (List.forall_mem_nil _) hn, ?_⟩
    exact h.settled.of_stream Nat.lt_succ_of_lt (congrArg _ hn) (congrArg _ hn) (congrArg _ hn)

theorem Lawful.quiet (h : w.Lawful s) {e : Event} (he : e.concerns s = false) :
    (w.emit e).Lawful s := by
  have hes : ∀ e' ∈ [e], e'.concerns s = false := by simpa using he
  exact ⟨h.counted.quiet rfl hes rfl, h.settled.of_stream id rfl rfl rfl⟩

theorem Handover.lawful (h : Handover w w') (hw : w.Lawful s) : w'.Lawful s := by
  cases h with
  | own ssrc deadline => exact (hw.addStream ssrc deadline).quiet rfl
  | hand d => exact hw.quiet rfl
  | release d => exact hw.quiet rfl

theorem Builds.lawful {free closes : StreamId → Prop} (h : Builds free closes w w')
    (hw : w.Lawful s) : w'.Lawful s := by
  induction h with
  | refl => exact hw
  | tail _ h ih =>
    rcases h with h | h
    · exact ⟨h.counted ih.counted, h.settled ih.settled⟩
    · exact h.lawful ih

theorem Around.lawful (h : Around w w') (hw : w.Lawful s) : w'.Lawful s := by
  have hs : w'.stream s = w.stream s := by rw [Endpoint.stream, Endpoint.stream, h.streams]
  have hk : w.Known s → w'.Known s := by
    rw [Known, Known, h.streams]
    exact id
  exact ⟨hw.counted.quiet (h.trace.trans (List.append_nil _).symm) (List.forall_mem_nil _) hs,
    hw.settled.of_stream hk (congrArg _ hs) (congrArg _ hs) (congrArg _ hs)⟩

theorem StreamChange.closed_of {Known May : Prop} {a b : LazyStream}
    (h : StreamChange Known May a b) (hc : b.closed) : a.closed ∨ May := by
  cases h with
  | tended opened closed => exact .inl (closed ▸ hc)
  | finished =>
    split at hc <;> exact .inl hc
  | shut => exact .inl hc
  | closed known may => exact .inr may

theorem Change.closed_of {free closes : StreamId → Prop} (h : Change free closes w w')
    (hc : (w'.stream s).closed) : (w.stream s).closed ∨ closes s := (h.stream s).closed_of hc

theorem closed_addStream {ssrc : Ssrc} {deadline : Option Instant}
    (h : ((w.addStream ssrc deadline).stream s).closed) : (w.stream s).closed := by
  by_cases hs : s = w.nextStream
  · rw [hs, stream_addStream_self] at h
    cases h
  · rwa [stream_addStream_ne ssrc deadline w hs] at h

theorem Builds.closed_of {free closes : StreamId → Prop} (h : Builds free closes w w')
    (hc : (w'.stream s).closed) : (w.stream s).closed ∨ closes s := by
  induction h with
  | refl => exact .inl hc
  | tail _ h ih =>
    rcases h with h | h
    · exact (h.closed_of hc).elim ih .inr
    · cases h with
      | own ssrc deadline => exact ih (closed_addStream hc)
      | hand => exact ih hc
      | release => exact ih hc

end Endpoint

namespace Session

open Endpoint

variable {σ : Session} {s : StreamId}

structure CallsClose (σ : Session) (m : Move) (s : StreamId) : Prop where
  call : σ.Closes m s
  before : (σ.endpoint.stream s).closed = false
  after : ((σ.act m).1.endpoint.stream s).closed

theorem Effect.lawful {m : Move} {σ' : Session} (h : σ.Sound) (he : Effect m σ σ')
    (hw : σ.endpoint.Lawful s) : σ'.endpoint.Lawful s := by
  rcases he.endpoint h with hb | ha | ⟨ssrc, hs⟩
  · exact hb.lawful hw
  · exact ha.lawful hw
  · exact hs ▸ hw.addStream ssrc none

theorem Fresh.lawful (h : σ.Fresh) (s : StreamId) : σ.endpoint.Lawful s := by
  have hs : σ.endpoint.stream s = {} := by
    rw [Endpoint.stream, h.streams]
    rfl
  refine ⟨⟨?_, ?_, fun c => ?_, ?_⟩, ⟨?_, fun _ => ?_⟩⟩
  · rw [openings, h.trace, hs]
    rfl
  · rw [closings, h.trace, hs]
    rfl
  · rw [h.trace, hs]
    simp
  · intro before e after c heq
    rw [h.trace] at heq
    cases before <;> cases heq
  · rw [hs]
    rfl
  · rw [hs]
    exact ⟨rfl, rfl⟩

theorem lawful_after (h : σ.Sound) (hw : σ.endpoint.Lawful s) (ms : List Move) :
    (σ.after ms).endpoint.Lawful s := by
  induction ms generalizing σ with
  | nil => exact hw
  | cons m ms ih => exact ih (h.act m) ((effect h m).lawful h hw)

theorem Effect.closed_of {m : Move} {σ' : Session} (h : σ.Sound) (he : Effect m σ σ')
    (hc : (σ'.endpoint.stream s).closed) : (σ.endpoint.stream s).closed ∨ σ.Closes m s := by
  rcases he.endpoint h with hb | ha | ⟨ssrc, hs⟩
  · exact hb.closed_of hc
  · rw [Endpoint.stream, ha.streams] at hc
    exact .inl hc
  · rw [hs] at hc
    exact .inl (closed_addStream hc)

theorem callsClose_of_closed (h : σ.Sound) (ms : List Move)
    (h₀ : (σ.endpoint.stream s).closed = false) (hc : ((σ.after ms).endpoint.stream s).closed) :
    ∃ before m after, ms = before ++ m :: after ∧ (σ.after before).CallsClose m s := by
  induction ms generalizing σ with
  | nil => exact absurd (h₀.symm.trans hc) Bool.false_ne_true
  | cons m ms ih =>
    by_cases hm : ((σ.act m).1.endpoint.stream s).closed
    · have hcall := ((effect h m).closed_of h hm).resolve_left (by simp [h₀])
      exact ⟨[], m, ms, rfl, hcall, h₀, hm⟩
    · obtain ⟨before, m', after, rfl, hcall⟩ := ih (h.act m) (eq_false_of_ne_true hm) hc
      exact ⟨m :: before, m', after, rfl, hcall⟩

/-- Whatever the calls on a stream do, and in whatever order they are polled: the stream is opened
at most once, and packets pass it only from then on; what was opened is closed at most once, and
only if the stream was closed; and a stream that is open and closed has closed what was opened. -/
theorem stream_opens_and_closes_once (h : σ.Fresh) (ms : List Move) (s : StreamId) :
    let τ := σ.after ms
    (τ.endpoint.openings s ≤ 1 ∧ Follows s τ.endpoint.trace ∧
      ∀ c ∈ τ.calls, ∀ d, c.progress = .receiving d → c.task.stream? = some s →
        .opened s (τ.endpoint.ssrcOf s) ∈ τ.endpoint.trace) ∧
    (τ.endpoint.closings s ≤ 1 ∧ (0 < τ.endpoint.closings s →
      ∃ before m after, ms = before ++ m :: after ∧ (σ.after before).CallsClose m s)) ∧
    ((τ.endpoint.stream s).closed → 0 < τ.endpoint.openings s → 0 < τ.endpoint.closings s) := by
  intro τ
  have hs : τ.Sound := h.sound.after ms
  obtain ⟨hc, hf⟩ : τ.endpoint.Lawful s := lawful_after h.sound (h.lawful s) ms
  have h₀ : (σ.endpoint.stream s).closed = false := ((h.lawful s).settled.unknown (by
    rw [Known, h.streams]
    exact Nat.not_lt_zero s)).2
  refine ⟨⟨?_, hc.follows, fun c hm d hp ht => ?_⟩, ⟨?_, fun hpos => ?_⟩, fun hcl hpos => ?_⟩
  · rw [hc.openings]
    split <;> decide
  · exact (hc.ssrc _).mpr ⟨(hs.calls c hm).waits d s hp ht, rfl⟩
  · rw [hc.closings]
    split <;> decide
  · have hsh := hc.shut_of hpos
    rw [hf.shut, Bool.and_eq_true] at hsh
    exact callsClose_of_closed h.sound ms h₀ hsh.2
  · rw [hc.closings, hf.shut, hc.opened_of hpos, hcl]
    decide

def unready : Session := { endpoint := { transport := { ready := false } } }

/-- A write waits for the transport; the stream is closed, and then the transport gets ready. -/
def closeWhileOpening : List Move :=
  [.issue (.stream "s" (.create 7)), .issue (.stream "s" (.write {} [])),
    .issue (.stream "s" .close), .issue (.world (.ready true)), .poll 1]

theorem closeWhileOpening_closes_what_it_opened :
    unready.Fresh ∧ (unready.after closeWhileOpening).endpoint.openings 0 = 1 ∧
      (unready.after closeWhileOpening).endpoint.closings 0 = 1 ∧
      ∃ before m after, closeWhileOpening = before ++ m :: after ∧
        (unready.after before).CallsClose m 0 := by
  have h : unready.Fresh := fresh_of_tracks rfl _
  obtain ⟨-, ⟨-, hclose⟩, -⟩ := stream_opens_and_closes_once h closeWhileOpening 0
  exact ⟨h, by decide, by decide, hclose (by decide)⟩

end Session

end MediaSender
