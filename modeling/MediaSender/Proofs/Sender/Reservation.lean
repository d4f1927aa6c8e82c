import MediaSender.Proofs.Codec.Retransmission
import MediaSender.Proofs.Sender.Companions
import MediaSender.Proofs.Sender.Identifiers
/-!
What is reserved and what is sent. Whether SSRCs are reserved for the companions of an encoding is
decided when it is added, by a search over all codecs of the kind; whether a companion is bound is
decided when its sender starts, by a search for the codec that was negotiated. A codec that the
second search finds is one that the first search has found, too, so that no companion misses its
SSRC.
-/

namespace MediaSender

namespace Endpoint

variable {w w' : Endpoint}

def ssrcSource (w : Endpoint) : SsrcSource :=
  w.settings.ssrcs.getD fun n => UInt32.ofNat (w.numbers n)

theorem ssrcSource_of_setup (h : SameSetup w w') : w'.ssrcSource = w.ssrcSource := by
  rw [ssrcSource, ssrcSource, h.settings, h.numbers]

theorem nextSsrc_ne_zero (h : ∀ n, w.ssrcSource n ≠ 0) : w.nextSsrc ≠ 0 := by
  simp only [ssrcSource] at h
  simp only [nextSsrc]
  split <;> simp_all

end Endpoint

open Endpoint

/-- A companion stream is bound if it is enabled and some codec of the table fits; it then has the
first codec that fits, and the SSRC that was reserved. -/
structure Provides (enabled : Bool) (fits : Codec → Bool) (table : List Codec) (id : String)
    (reserved : Ssrc) (extensions : List HeaderExtension) (protects : Primary)
    (bound : Option BoundStream) (w : Endpoint) : Prop where
  isSome_iff : bound.isSome ↔ enabled ∧ ∃ c ∈ table, fits c
  uses : ∀ b ∈ bound, b.Carries reserved w ∧ ∃ c, table.find? fits = some c ∧
    b.description.Describes id reserved c extensions (some protects)

namespace Sender

variable {w w' : Endpoint} {t : Track} {kind : MediaKind}

theorem reserved_ne_zero (wanted : Bool) (source : ∀ n, w.ssrcSource n ≠ 0) :
    (reserved wanted w).ssrc ≠ 0 ↔ wanted := by
  cases wanted with
  | false => exact ⟨fun h => absurd rfl h, nofun⟩
  | true => exact ⟨fun _ => rfl, fun _ => nextSsrc_ne_zero source⟩

theorem source_of_setup (h : SameSetup w w') (source : ∀ n, w.ssrcSource n ≠ 0) :
    ∀ n, w'.ssrcSource n ≠ 0 := ssrcSource_of_setup h ▸ source

theorem reservesRtx_of_setup (h : SameSetup w w') (kind : MediaKind) :
    reservesRtx w' kind = reservesRtx w kind := by
  simp only [reservesRtx, h.capabilities, h.settings]

theorem reservesFec_of_setup (h : SameSetup w w') (kind : MediaKind) :
    reservesFec w' kind = reservesFec w kind := by
  simp only [reservesFec, h.capabilities, h.settings]

/-- The SSRCs that an encoding has for its companions are those that are worth a reservation. -/
structure ReservesCompanions (e : Encoding) (kind : MediaKind) (w : Endpoint) : Prop where
  rtx : e.rtx.ssrc ≠ 0 ↔ reservesRtx w kind
  fec : e.fec.ssrc ≠ 0 ↔ reservesFec w kind

theorem reservesCompanions_newEncoding (t : Track) (source : ∀ n, w.ssrcSource n ≠ 0) :
    ReservesCompanions (newEncoding t w) t.kind w where
  rtx := reserved_ne_zero _ (source_of_setup (untied_prepared w).toSameSetup source)
  fec :=
    have drawn := (untied_prepared w).trans (untied_reserve (reservesRtx w t.kind) _)
    reserved_ne_zero _ (source_of_setup drawn.toSameSetup source)

theorem ReservesCompanions.next {e e' : Encoding} (h : ReservesCompanions e kind w)
    (hw : SameSetup w w') (rtx : e'.rtx.ssrc = e.rtx.ssrc) (fec : e'.fec.ssrc = e.fec.ssrc) :
    ReservesCompanions e' kind w' where
  rtx := by rw [rtx, reservesRtx_of_setup hw, h.rtx]
  fec := by rw [fec, reservesFec_of_setup hw, h.fec]

theorem reservesRtx_iff {codec c : Codec} (mem : codec ∈ w.capabilities.codecs kind)
    (hc : c ∈ w.capabilities.codecs kind) (fits : c.protected? == some codec.payloadType) :
    reservesRtx w kind ↔ w.settings.retransmission := by
  have protects : c.Protects codec.payloadType :=
    Codec.protected?_eq_some_iff.mp (beq_iff_eq.mp fits)
  obtain ⟨p, hp, found⟩ := Codec.exists_retransmission_iff.mpr ⟨c, hc, codec, mem, protects⟩
  have hany : (w.capabilities.codecs kind).any
      (fun c => !(Codec.retransmission c (w.capabilities.codecs kind)).isNone) :=
    List.any_eq_true.mpr ⟨p, hp, by rwa [Bool.not_eq_true', ← Bool.not_eq_true,
      CodecMatch.isNone_iff]⟩
  simp only [reservesRtx, hany, Bool.and_true]

theorem reservesFec_iff {c : Codec} (hc : c ∈ w.capabilities.codecs kind)
    (fits : c.hasType Mime.flexFec) : reservesFec w kind ↔ w.settings.flexFec := by
  have hmem : c ∈ Codec.ofType Mime.flexFec (w.capabilities.codecs kind) :=
    List.mem_filter.mpr ⟨hc, fits⟩
  have hsome : (Codec.ofType Mime.flexFec (w.capabilities.codecs kind)).isEmpty = false :=
    List.isEmpty_eq_false_iff_exists_mem.mpr ⟨c, hmem⟩
  simp only [reservesFec, hsome, Bool.not_false, Bool.and_true]

theorem provides {l : Launch} {suffix : String} {reserved : Ssrc} {fits : Codec → Bool}
    {primary : Primary} {bound : Option BoundStream} {enabled : Bool}
    (h : Accompanies l w suffix reserved (l.codecs.find? fits) primary bound)
    (agree : ∀ c ∈ l.codecs, fits c → (reserved ≠ 0 ↔ enabled))
    (carries : ∀ b ∈ bound, b.Carries reserved w') :
    Provides enabled fits l.codecs (l.id ++ suffix) reserved l.extensions primary bound w' where
  isSome_iff := by
    rw [h.planned, List.find?_isSome]
    constructor
    · rintro ⟨hne, c, hc, hfits⟩
      exact ⟨(agree c hc hfits).mp hne, c, hc, hfits⟩
    · rintro ⟨henabled, c, hc, hfits⟩
      exact ⟨(agree c hc hfits).mpr henabled, c, hc, hfits⟩
  uses b hb := ⟨carries b hb, h.described b hb⟩

/-- An encoding after a start: `c` is what was reported of it before, and `codec` what was
negotiated for it. -/
structure Fulfils (a : Sender) (w : Endpoint) (c : Coding) (codec : Codec) (e : Encoding)
    (w' : Endpoint) : Prop where
  ssrc : e.ssrc = c.ssrc
  rtx : Provides w.settings.retransmission (·.protected? == some codec.payloadType)
    (w.capabilities.codecs a.kind) (a.id ++ "_rtx") c.rtx (a.parameters w).media.headerExtensions
    ⟨c.ssrc, codec.payloadType⟩ e.rtx.bound w'
  fec : Provides w.settings.flexFec (·.hasType Mime.flexFec) (w.capabilities.codecs a.kind)
    (a.id ++ "_fec") c.fec (a.parameters w).media.headerExtensions
    ⟨c.ssrc, codec.payloadType⟩ e.fec.bound w'

section

variable {a : Sender} {r : Result} {x : Startup} {i : Nat} {e₀ e e' : Encoding} {codec : Codec}
  (h : Starts (a.parameters w) a w r x) (ok : r.outcome = .ok ())

include h ok

theorem Starts.connection (he : r.sender.encodings[i]? = some e') :
    ∃ y ∈ x.connections, a.encodings[i]? = some y.encoding ∧ y.coding = a.coding y.encoding ∧
      e' = y.connected
        ⟨a.id, w.capabilities.codecs a.kind, (a.parameters w).media.headerExtensions⟩ w := by
  obtain ⟨hes, hes'⟩ := h.encodings_eq ok
  rw [hes', List.getElem?_map] at he
  obtain ⟨y, hy, rfl⟩ := Option.map_eq_some_iff.mp he
  have hmem := List.mem_of_getElem? hy
  exact ⟨y, hmem, by rw [hes, List.getElem?_map, hy]; rfl, h.own_codings _ (mem_calls hmem), rfl⟩

theorem Starts.fulfils (he : a.encodings[i]? = some e) (he' : r.sender.encodings[i]? = some e')
    (untouched : e.Untouched) (kept : e'.context.parameters.codecs = [codec])
    (stands : e₀.Stands e' r.endpoint) (reserves : ReservesCompanions e a.kind w)
    (mem : codec ∈ w.capabilities.codecs a.kind) :
    Fulfils a w (a.coding e) codec e' r.endpoint := by
  obtain ⟨y, hy, hye, own, rfl⟩ := h.connection ok he'
  cases he.symm.trans hye
  cases kept
  obtain ⟨-, hrtx, hfec⟩ := untouched
  let l : Launch := ⟨a.id, w.capabilities.codecs a.kind, (a.parameters w).media.headerExtensions⟩
  have hcoding : a.coding (y.connected l w) = a.coding y.encoding := coding_connected own a
  have hssrc : (y.connected l w).ssrc = y.encoding.ssrc := congrArg Coding.ssrc hcoding
  have hrtx' : (y.connected l w).rtx.bound = y.rtx := by
    simp only [Connection.connected]
    cases y.rtx with
    | none => exact hrtx
    | some b => rfl
  have hfec' : (y.connected l w).fec.bound = y.fec := by
    simp only [Connection.connected]
    cases y.fec with
    | none => exact hfec
    | some b => rfl
  obtain ⟨-, -, -, -, meetsRtx, meetsFec⟩ := h.connects.meets y hy
  rw [own] at meetsRtx meetsFec
  refine ⟨hssrc, ?_, ?_⟩
  · rw [hrtx']
    refine provides meetsRtx (fun c hc fits => reserves.rtx.trans (reservesRtx_iff mem hc fits))
      fun b hb => ?_
    rw [← hcoding]
    exact (stands.rtx.carried b (hrtx' ▸ hb)).2
  · rw [hfec']
    refine provides meetsFec (fun c hc fits => reserves.fec.trans (reservesFec_iff hc fits))
      fun b hb => ?_
    rw [← hcoding]
    exact (stands.fec.carried b (hfec' ▸ hb)).2

end

end Sender

namespace Session

open Sender

variable {σ : Session} {k : SenderKey} {m : Move}

theorem setup_turns (ms : List Move) (σ : Session) :
    ∀ x ∈ turns ms σ, SameSetup σ.endpoint x.before.endpoint := by
  induction ms generalizing σ with
  | nil => exact List.forall_mem_nil _
  | cons m ms ih =>
    exact List.forall_mem_cons.mpr ⟨.refl _, fun x hx => (setup_act σ m).trans (ih _ x hx)⟩

theorem Turn.Adds.setup {ms : List Move} {x : Turn} {i : Nat} {t : Track} {w : Endpoint}
    (h : x.Adds k i t w) (hx : x ∈ turns ms σ) : SameSetup σ.endpoint w := by
  have hbefore := setup_turns ms σ x hx
  rcases h.source with rfl | rfl
  · exact hbefore
  · exact hbefore.trans (setup_drawId _)

/-- The SSRCs of the companions of an encoding, as they were reserved when it was added. -/
def Reserved (xs : List Turn) (k : SenderKey) (i : Nat) (c : Coding) : Prop :=
  ∃ x ∈ xs, ∃ t w, x.Adds k i t w ∧
    c.rtx = (newEncoding t w).rtx.ssrc ∧ c.fec = (newEncoding t w).fec.ssrc

theorem reserved_of_untouched (fresh : σ.Fresh) (source : ∀ n, σ.endpoint.ssrcSource n ≠ 0)
    (ms : List Move) {i : Nat} {e : Encoding}
    (he : ((σ.after ms).sender k).encodings[i]? = some e) (untouched : e.Untouched) :
    let τ := σ.after ms
    Reserved (turns ms σ) k i ((τ.sender k).coding e) ∧
      ReservesCompanions e (τ.sender k).kind τ.endpoint := by
  intro τ
  obtain ⟨es₀, added, stands⟩ := stands_after fresh ms k
  obtain ⟨e₀, hadd, stands⟩ := stands_getElem? stands he
  obtain ⟨x, hx, t, w, adds, kind, rfl⟩ := added i e₀ hadd
  have rtx : e.rtx.ssrc = (newEncoding t w).rtx.ssrc := stands.rtx.kept untouched.2.1
  have fec : e.fec.ssrc = (newEncoding t w).fec.ssrc := stands.fec.kept untouched.2.2
  have reserves := reservesCompanions_newEncoding t (source_of_setup (adds.setup hx) source)
  have setup : SameSetup w τ.endpoint := (adds.setup hx).symm.trans (setup_after σ ms)
  rw [kind] at reserves
  exact ⟨⟨x, hx, t, w, adds, rtx, fec⟩, reserves.next setup rtx fec⟩

/-- A sender that has not tried to start yet starts with the parameters that it reports. Each of its
encodings then has the companions that are enabled and that some codec fits, with the SSRCs that
were reserved for them, and no others. -/
theorem companions_bound_as_reserved (fresh : σ.Fresh) (source : ∀ n, σ.endpoint.ssrcSource n ≠ 0)
    (ms : List Move) (built : ∀ x ∈ turns ms σ, x.NoLaunch k)
    (fixed : ∀ t, some t ∈ ((σ.after ms).sender k).tracks → t.isFixed)
    (action : (σ.after ms).action? m =
      some (k, .start (((σ.after ms).sender k).parameters (σ.after ms).endpoint)))
    (ok : ((σ.after ms).act m).2 = .answered (.outcome (.ok ()))) :
    let τ := σ.after ms
    let τ' := (τ.act m).1
    (τ'.sender k).encodings.length = (τ.sender k).encodings.length ∧
      ∀ (i : Nat) e, (τ'.sender k).encodings[i]? = some e → ∃ c t codec,
        ((τ.sender k).parameters τ.endpoint).codings[i]? = some c ∧
        Reserved (turns ms σ) k i c ∧ Agreed τ.endpoint τ'.endpoint e t codec ∧
        Fulfils (τ.sender k) τ.endpoint c codec e τ'.endpoint := by
  intro τ τ'
  let a := τ.sender k
  let p := a.parameters τ.endpoint
  have henvelope := fresh.enveloped.after fresh.sound ms k (action_lt (fresh.sound.after ms) action)
  obtain ⟨hok, x, hx⟩ := starts_of_answer fresh ms action ok
  have huntouched : ∀ e ∈ a.encodings, e.Untouched :=
    untouched_after (by rw [fresh.sender_eq k]; exact List.forall_mem_nil _) built
  obtain ⟨es₁, -, hstands⟩ := stands_after fresh (ms ++ [m]) k
  have hsender : τ'.sender k = (a.start p τ.endpoint).sender := sender_act action
  have hendpoint : τ'.endpoint = (a.start p τ.endpoint).endpoint := endpoint_act action
  rw [after_snoc] at hstands
  change List.Forall₂ (·.Stands · τ'.endpoint) es₁ (τ'.sender k).encodings at hstands
  rw [hsender, hendpoint] at hstands ⊢
  refine ⟨?_, fun i e' he' => ?_⟩
  · obtain ⟨hes, hes'⟩ := hx.encodings_eq hok
    rw [hes', hes, List.length_map, List.length_map]
  · obtain ⟨y, -, he, -, -⟩ := hx.connection hok he'
    obtain ⟨t, codec, -, agreed, choice⟩ :=
      hx.agreed hok fixed henvelope.kind (List.mem_of_getElem? he')
    obtain ⟨e₁, -, stands⟩ := stands_getElem? hstands he'
    have untouched := huntouched _ (List.mem_of_getElem? he)
    obtain ⟨reserved, reserves⟩ := reserved_of_untouched fresh source ms he untouched
    exact ⟨a.coding y.encoding, t, codec, getElem?_codings a _ he, reserved, agreed,
      hx.fulfils hok he he' untouched agreed.kept stands reserves (Track.mem_of_choice choice)⟩

theorem source_repairSession : ∀ n, repairSession.endpoint.ssrcSource n ≠ 0 := by
  intro n
  have hcycle : ∀ i : Fin 3, [(1000 : Ssrc), 1001, 1002].getD i 0 ≠ 0 := by decide
  exact hcycle ⟨n % 3, Nat.mod_lt n (by decide)⟩

theorem companions_of_vp9_bound :
    let τ := repairSession.after ((sendMoves "b").take 1)
    let τ' := (τ.act launchMove).1
    (τ.act launchMove).2 = .answered (.outcome (.ok ())) ∧
      ∃ e c t codec, (τ'.sender 0).encodings[0]? = some e ∧
        Agreed τ.endpoint τ'.endpoint e t codec ∧
        Fulfils (τ.sender 0) τ.endpoint c codec e τ'.endpoint ∧ e.rtx.bound.isSome := by
  intro τ τ'
  have fresh : repairSession.Fresh := ⟨rfl, rfl, rfl, rfl, rfl, rfl, rfl, rfl⟩
  have hfixed : ∀ t, some t ∈ (τ.sender 0).tracks → t = typeTrack 1 Mime.vp9 := fun t ht =>
    Option.some.inj (List.mem_singleton.mp ht)
  have ok : (τ.act launchMove).2 = .answered (.outcome (.ok ())) := rfl
  have built : ∀ x ∈ turns ((sendMoves "b").take 1) repairSession, x.NoLaunch 0 :=
    List.forall_mem_singleton.mpr rfl
  have he : (τ'.sender 0).encodings[0]? = some _ := rfl
  obtain ⟨c, t, codec, -, -, agreed, fulfils⟩ :=
    (companions_bound_as_reserved fresh source_repairSession ((sendMoves "b").take 1) built
      (fun t ht => hfixed t ht ▸ rfl) (m := launchMove) rfl ok).2 0 _ he
  exact ⟨ok, _, c, t, codec, he, agreed, fulfils, rfl⟩

end Session

end MediaSender
