import MediaSender.Proofs.Sender.PayloadTypes
import Mathlib.Data.List.Forall2
/-!
What the SSRC of a companion stands for. It is reserved when the encoding is added, before it is
known whether there will be a stream for it. Once a start has bound a stream, it is the SSRC of that
stream; until then, and for good if the negotiated codec has no use for the companion or the
companion is not asked for, it is the one that was reserved.
-/

namespace MediaSender

open Endpoint

/-- A stream that the layers were handed under an SSRC. -/
structure BoundStream.Carries (b : BoundStream) (id : Ssrc) (w : Endpoint) : Prop where
  known : w.Known b.stream
  ssrc : w.ssrcOf b.stream = id
  described : b.description.ssrc = id
  handed : (b.stream, b.description) ∈ w.handed

/-- An SSRC that is kept of a companion: that of its stream, or the one that was reserved. -/
structure StandsFor (reserved id : Ssrc) (bound : Option BoundStream) (w : Endpoint) : Prop where
  carried : ∀ b ∈ bound, id ≠ 0 ∧ b.Carries id w
  kept : bound = none → id = reserved

structure Encoding.Stands (e₀ e : Encoding) (w : Endpoint) : Prop where
  rtx : StandsFor e₀.rtx.ssrc e.rtx.ssrc e.rtx.bound w
  fec : StandsFor e₀.fec.ssrc e.fec.ssrc e.fec.bound w

namespace Sender

variable {a : Sender} {w w' : Endpoint} {e₀ e e' : Encoding} {es₀ es es' : List Encoding}
  {c : Coding} {cs : List Coding} {l : Launch}

theorem carries_next {b : BoundStream} {ssrc : Ssrc} (h : b.Carries ssrc w) (hw : Extends w w') :
    b.Carries ssrc w' where
  known := hw.known h.known
  ssrc := (hw.grows _ h.known).ssrc.trans h.ssrc
  described := h.described
  handed := (hw.trace.filterMap Event.handed?).subset h.handed

theorem stands_next {reserved ssrc : Ssrc} {bound : Option BoundStream}
    (h : StandsFor reserved ssrc bound w) (hw : Extends w w') :
    StandsFor reserved ssrc bound w' :=
  ⟨fun b hb => (h.carried b hb).imp_right (carries_next · hw), h.kept⟩

theorem Encoding.Stands.next (h : e₀.Stands e w) (hb : e'.bare = e.bare) (hw : Extends w w') :
    e₀.Stands e' w' := by
  have hrtx : e'.rtx = e.rtx := congrArg (·.rtx) hb
  have hfec : e'.fec = e.fec := congrArg (·.fec) hb
  exact ⟨hrtx ▸ stands_next h.rtx hw, hfec ▸ stands_next h.fec hw⟩

theorem stands_newEncoding (t : Track) (w w' : Endpoint) :
    (newEncoding t w).Stands (newEncoding t w) w' := by
  obtain ⟨-, hrtx, hfec⟩ := untouched_newEncoding t w
  constructor
  · exact ⟨fun b hb => (nomatch hrtx.symm.trans hb), fun _ => rfl⟩
  · exact ⟨fun b hb => (nomatch hfec.symm.trans hb), fun _ => rfl⟩

theorem forall₂_of_bare (h : List.Forall₂ (·.Stands · w) es₀ es)
    (hb : es'.map (·.bare) = es.map (·.bare)) (hw : Extends w w') :
    List.Forall₂ (·.Stands · w') es₀ es' := by
  have hbare : ∀ es : List Encoding, List.Forall₂ (fun e₀ e => e₀.Stands e.bare w') es₀ es ↔
      List.Forall₂ (·.Stands · w') es₀ (es.map (·.bare)) := fun es => by
    rw [List.forall₂_map_right_iff]
  have hes : List.Forall₂ (fun e₀ e => e₀.Stands e.bare w') es₀ es :=
    h.imp fun _ e h => Encoding.Stands.next h (show e.bare.bare = e.bare from rfl) hw
  rw [hbare, ← hb, ← hbare] at hes
  exact hes.imp fun _ e h => Encoding.Stands.next h (show e.bare = e.bare.bare from rfl) (.refl w')

theorem stands_getElem? {i : Nat} (h : List.Forall₂ (·.Stands · w) es₀ es) (he : es[i]? = some e) :
    ∃ e₀, es₀[i]? = some e₀ ∧ e₀.Stands e w := by
  obtain ⟨hi, rfl⟩ := List.getElem?_eq_some_iff.mp he
  exact ⟨_, List.getElem?_eq_getElem (h.length_eq ▸ hi), h.get _ hi⟩

theorem stands_companionOf (l : Launch) (suffix : String) (ssrc : Ssrc) (codec : Option Codec)
    (primary : Primary) {reserved : Ssrc} {old : Companion}
    (h : StandsFor reserved old.ssrc old.bound w) :
    let plan := planCompanion l suffix ssrc codec primary
    StandsFor reserved (companionOf plan old w).ssrc (companionOf plan old w).bound
      (bindCompanion plan w) := by
  intro plan
  cases hplan : plan with
  | none => exact h
  | some p =>
    have hp : p.ssrc ≠ 0 ∧ p.description.ssrc = p.ssrc := by
      simp only [plan, planCompanion] at hplan
      split at hplan
      · cases hplan
      · obtain ⟨codec, -, rfl⟩ := Option.map_eq_some_iff.mp hplan
        exact ⟨‹_›, rfl⟩
    refine ⟨fun b hb => ⟨hp.1, ?_⟩, nofun⟩
    cases hb
    constructor
    · exact known_addStream p.ssrc none w
    · exact congrArg LazyStream.ssrc (stream_addStream_self p.ssrc none w)
    · exact hp.2
    · refine List.mem_filterMap.mpr ⟨.writerBound w.nextStream p.description, ?_, rfl⟩
      exact List.mem_append_left _ (List.mem_append_right _ (List.mem_singleton_self _))

theorem stands_bindStreams (l : Launch) (t : Track) (context : Context) {s : StreamId} (g : GateId)
    (codec : Codec) (c : Coding) (h : e₀.Stands e w) (ho : w.Owned s) :
    e₀.Stands (bindStreams l t context s g codec c e w).encoding
      (bindStreams l t context s g codec c e w).endpoint := by
  have hp := (makes_bindPrimary g (l.describe c.ssrc codec) ho).extends
  have hb : ∀ plan w, Extends w (bindCompanion plan w) := fun plan w =>
    (makes_bindCompanion plan w).extends
  have hl := fun w => (makes_log .trace (boundText l.id t c codec) w).extends
  constructor
  · exact stands_next (stands_companionOf _ _ _ _ _ (stands_next h.rtx hp)) ((hb _ _).trans (hl _))
  · exact stands_next (stands_companionOf _ _ _ _ _ (stands_next h.fec (hp.trans (hb _ _)))) (hl _)

theorem stands_startEncoding (l : Launch) (c : Coding) (known : e.Known w) (h : e₀.Stands e w) :
    e₀.Stands (startEncoding l e c w).encoding (startEncoding l e c w).endpoint := by
  have hextends := (startEncoding_makes l c known).1.extends
  have hs := encodingStarted l e c w
  generalize startEncoding l e c w = r at hextends hs
  cases hs with
  | missing => exact h
  | failed => exact Encoding.Stands.next h rfl hextends
  | bound t codec =>
    let w₁ := (openPrimary e c w).bindTrack t (contextOf l.id t c w)
    have hbind : Extends w w₁ := ((makes_openPrimary e c w).trans
      (Change.bindTrack _ t (known_contextOf (known_openPrimary e c w))).makes).extends
    have howned : w₁.Owned w.nextStream := List.mem_append_left _ (owned_openPrimary e c w)
    exact stands_bindStreams l t _ _ codec c (Encoding.Stands.next h rfl hbind) howned

theorem stands_startAll (l : Launch) (cs : List Coding) (known : ∀ e ∈ es, e.Known w)
    (h : List.Forall₂ (·.Stands · w) es₀ es) :
    List.Forall₂ (·.Stands · (startAll l es cs w).endpoint) es₀ (startAll l es cs w).encodings := by
  induction es generalizing es₀ cs w with
  | nil => exact h
  | cons e es ih =>
    cases h with
    | cons first rest =>
      cases cs with
      | nil => exact .cons first rest
      | cons c cs =>
        obtain ⟨hknown, hknowns⟩ := List.forall_mem_cons.mp known
        have hmakes := (startEncoding_makes l c hknown).1
        have hfirst := stands_startEncoding l c hknown first
        have hrest := rest.imp fun _ _ h => Encoding.Stands.next h rfl hmakes.extends
        cases ho : (startEncoding l e c w).outcome with
        | error f =>
          rw [startAll_error ho]
          exact .cons hfirst hrest
        | ok payloadType =>
          have hknowns' : ∀ e' ∈ es, e'.Known (startEncoding l e c w).endpoint := fun e' he' =>
            (hknowns e' he').extends hmakes.extends
          have hextends := (startAll_makes l es cs hknowns').1.extends
          rw [startAll_ok ho]
          exact .cons (Encoding.Stands.next hfirst rfl hextends) (ih cs hknowns' hrest)

theorem stands_act (x : Action) (known : a.Known w) (hw : Extends w (a.act x w).endpoint)
    (h : List.Forall₂ (·.Stands · w) es₀ a.encodings) :
    List.Forall₂ (·.Stands · (a.act x w).endpoint) es₀ (a.act x w).sender.encodings ∨
      ∃ t, (a.act x w).sender.encodings = a.encodings ++ [newEncoding t w] ∧
        List.Forall₂ (·.Stands · (a.act x w).endpoint) (es₀ ++ [newEncoding t w])
          (a.act x w).sender.encodings := by
  cases x with
  | extend track =>
    have hr : Extended track a w (a.act (.extend track) w) := extended track a w
    generalize a.act (.extend track) w = r at hr hw
    cases hr with
    | refused => exact .inl h
    | added t =>
      refine .inr ⟨t, rfl, List.rel_append ?_ (.cons (stands_newEncoding t w _) .nil)⟩
      exact h.imp fun _ _ h => Encoding.Stands.next h rfl hw
  | swapTrack track => exact .inl (forall₂_of_bare h (bare_swapTrack track a w) hw)
  | start p =>
    have hr : Launched p a w (a.act (.start p) w) := launched p a w
    generalize a.act (.start p) w = r at hr
    cases hr with
    | refused => exact .inl h
    | failed f r check all => exact .inl (all ▸ stands_startAll _ _ known h)
    | sent payloadType r check all => exact .inl (all ▸ stands_startAll _ _ known h)
  | stop => exact .inl (forall₂_of_bare h (bare_stop a w) hw)

end Sender

namespace Session

open Sender

variable {σ : Session} {k : SenderKey} {i : Nat}

/-- A turn that adds encoding number `i` to a sender, for a track: the sender is made, or it had `i`
encodings before. `w` is the endpoint that the SSRCs are drawn from. -/
structure Turn.Adds (x : Turn) (k : SenderKey) (i : Nat) (t : Track) (w : Endpoint) : Prop where
  source : w = x.before.endpoint ∨ w = x.before.endpoint.drawId
  before : x.before.roster.senders.size = k ∨ (x.before.sender k).encodings.length = i
  added : (x.after.sender k).encodings[i]? = some (newEncoding t w)

def Added (xs : List Turn) (k : SenderKey) (kind : MediaKind) (es₀ : List Encoding) : Prop :=
  ∀ (i : Nat) e₀, es₀[i]? = some e₀ →
    ∃ x ∈ xs, ∃ t w, x.Adds k i t w ∧ t.kind = kind ∧ e₀ = newEncoding t w

theorem Added.append {xs : List Turn} {kind : MediaKind} {es₀ : List Encoding}
    (h : Added xs k kind es₀) (x : Turn) : Added (xs ++ [x]) k kind es₀ := fun i e₀ he => by
  obtain ⟨y, hy, ht⟩ := h i e₀ he
  exact ⟨y, List.mem_append_left _ hy, ht⟩

theorem Added.snoc {xs : List Turn} {kind : MediaKind} {es₀ : List Encoding}
    (h : Added xs k kind es₀) {x : Turn} {t : Track} {w : Endpoint}
    (adds : x.Adds k es₀.length t w) (fits : t.kind = kind) :
    Added (xs ++ [x]) k kind (es₀ ++ [newEncoding t w]) := by
  intro i e₀ he
  rcases Nat.lt_trichotomy i es₀.length with hi | rfl | hi
  · rw [List.getElem?_append_left hi] at he
    exact h.append x i e₀ he
  · rw [List.getElem?_concat_length] at he
    cases he
    exact ⟨x, List.mem_append_right _ (List.mem_singleton_self x), t, w, adds, fits, rfl⟩
  · rw [List.getElem?_eq_none (by rw [List.length_append]; exact hi)] at he
    cases he

theorem Added.single {x : Turn} (xs : List Turn) {t : Track} {w : Endpoint}
    (adds : x.Adds k 0 t w) : Added (xs ++ [x]) k t.kind [newEncoding t w] := by
  intro i e₀ he
  cases i with
  | zero =>
    cases he
    exact ⟨x, List.mem_append_right _ (List.mem_singleton_self x), t, w, adds, rfl, rfl⟩
  | succ i => cases he

/-- The encodings of a sender stand as the turns `xs` added them. -/
def StandAsAdded (k : SenderKey) (xs : List Turn) (σ : Session) : Prop :=
  ∃ es₀, Added xs k (σ.sender k).kind es₀ ∧
    List.Forall₂ (·.Stands · σ.endpoint) es₀ (σ.sender k).encodings

theorem StandAsAdded.act (sound : σ.Sound) (enveloped : σ.Enveloped) (m : Move) {xs : List Turn}
    (h : StandAsAdded k xs σ) : StandAsAdded k (xs ++ [⟨σ, m⟩]) (σ.act m).1 := by
  obtain ⟨es₀, hadded, hstands⟩ := h
  have hextends := extends_act sound m
  let x : Turn := ⟨σ, m⟩
  cases (course m σ).becomes k with
  | acted y action sender endpoint =>
    have born := action_lt sound action
    have born' := Nat.lt_of_lt_of_le born (course m σ).size_le
    have same := (reshapes_act y (encodings_ne_nil (enveloped k born)) σ.endpoint).1
    have hw : Extends σ.endpoint ((σ.sender k).act y σ.endpoint).endpoint := endpoint ▸ hextends
    have hkind := (enveloped.act sound m k born').kind
    rw [sender] at hkind
    rw [StandAsAdded, sender, endpoint, same]
    rcases stands_act y (sound.senders k) hw hstands with hstands' | ⟨t, hes, hstands'⟩
    · exact ⟨es₀, hadded.append x, hstands'⟩
    · have hlen : es₀.length = (σ.sender k).encodings.length := hstands.length_eq
      refine ⟨_, hadded.snoc ⟨.inl rfl, .inr hlen.symm, ?_⟩ ?_, hstands'⟩
      · rw [show x.after.sender k = _ from sender, hes, hlen]
        exact List.getElem?_concat_length
      · refine (hkind t ?_).trans same
        rw [Sender.tracks, hes, List.map_append]
        exact List.mem_append_right _ (List.mem_singleton_self _)
  | stayed action sender =>
    obtain ⟨n, t, sender⟩ := sender
    rw [StandAsAdded, sender]
    exact ⟨es₀, hadded.append x, hstands.imp fun _ _ h => Encoding.Stands.next h rfl hextends⟩
  | made t action number sender =>
    have hadds : x.Adds k 0 t σ.endpoint.drawId :=
      ⟨.inr rfl, .inl number.symm, by rw [show x.after.sender k = _ from sender]; rfl⟩
    rw [StandAsAdded, sender]
    exact ⟨_, .single xs hadds, .cons (stands_newEncoding t _ _) .nil⟩

theorem stands_after (fresh : σ.Fresh) (ms : List Move) (k : SenderKey) :
    StandAsAdded k (turns ms σ) (σ.after ms) := by
  induction ms using List.reverseRecOn with
  | nil =>
    refine ⟨[], fun i e₀ he => (by cases he), ?_⟩
    rw [after, fresh.sender_eq k]
    exact .nil
  | append_singleton ms m ih =>
    rw [turns_snoc, after_snoc]
    exact ih.act (fresh.sound.after ms) (fresh.enveloped.after fresh.sound ms) m

/-- What is reported of a companion of an encoding is the SSRC of the stream that is bound for it.
If there is none, it is what was reserved when the encoding was added. -/
theorem reported_companion_stands (fresh : σ.Fresh) (ms : List Move) {e : Encoding}
    (he : ((σ.after ms).sender k).encodings[i]? = some e) :
    let τ := σ.after ms
    ∃ c, ((τ.sender k).parameters τ.endpoint).codings[i]? = some c ∧
      ∃ x ∈ turns ms σ, ∃ t w, x.Adds k i t w ∧
        StandsFor (newEncoding t w).rtx.ssrc c.rtx e.rtx.bound τ.endpoint ∧
        StandsFor (newEncoding t w).fec.ssrc c.fec e.fec.bound τ.endpoint := by
  intro τ
  obtain ⟨es₀, hadded, hstands⟩ := stands_after fresh ms k
  obtain ⟨e₀, hadd, h⟩ := stands_getElem? hstands he
  obtain ⟨x, hx, t, w, adds, -, rfl⟩ := hadded i e₀ hadd
  exact ⟨(τ.sender k).coding e, getElem?_codings _ _ he, x, hx, t, w, adds, h.rtx, h.fec⟩

def repairSession : Session where
  endpoint :=
    { settings :=
        { retransmission := true, flexFec := true
          ssrcs := some (SsrcSource.cycle [1000, 1001, 1002]) }
      capabilities :=
        { video := [⟨{ mimeType := Mime.vp8 }, 96⟩, ⟨{ mimeType := Mime.vp9 }, 98⟩,
            ⟨{ mimeType := Mime.rtx, parameters := "apt=98" }, 99⟩,
            ⟨{ mimeType := Mime.flexFec }, 118⟩] } }
  directory := { tracks := [("a", typeTrack 0 Mime.vp8), ("b", typeTrack 1 Mime.vp9)] }

def sendMoves (name : String) : List Move :=
  [.issue (.sender "s" (.create (some name) true)), launchMove]

theorem bound_companion_is_reported :
    let τ := repairSession.after (sendMoves "b")
    (τ.sender 0).lifecycle = .sending ∧ ∃ e c b, (τ.sender 0).encodings[0]? = some e ∧
      ((τ.sender 0).parameters τ.endpoint).codings[0]? = some c ∧ e.rtx.bound = some b ∧
      b.Carries c.rtx τ.endpoint := by
  intro τ
  have fresh : repairSession.Fresh := ⟨rfl, rfl, rfl, rfl, rfl, rfl, rfl, rfl⟩
  have he : (τ.sender 0).encodings[0]? = some _ := rfl
  obtain ⟨c, hc, _, _, _, _, _, hrtx, _⟩ := reported_companion_stands fresh (sendMoves "b") he
  exact ⟨by decide +kernel, _, c, _, he, hc, rfl, (hrtx.carried _ rfl).2⟩

/-- The negotiated codec has nothing that protects it, and the SSRC that was reserved for a
retransmission stream is still reported. -/
theorem spare_ssrc_is_reported :
    let τ := repairSession.after (sendMoves "a")
    repairSession.Fresh ∧ (τ.sender 0).lifecycle = .sending ∧
      ∃ e c, (τ.sender 0).encodings[0]? = some e ∧
        ((τ.sender 0).parameters τ.endpoint).codings[0]? = some c ∧
        e.rtx.bound = none ∧ c.rtx = 1001 :=
  ⟨⟨rfl, rfl, rfl, rfl, rfl, rfl, rfl, rfl⟩, by decide +kernel, _, _, rfl, rfl, rfl, rfl⟩

end Session

end MediaSender
