import MediaSender.Proofs.Codec.Searches
import MediaSender.Proofs.Sender.Holdings
/-!
The codecs that tracks settle on. A track of a fixed format chooses among the codecs it is offered,
and chooses the same codec again when it is offered that one alone. So a sender, which offers a
track either all codecs of its kind or the one that the track has chosen, binds it with one payload
type only, whatever becomes of its streams.
-/

namespace MediaSender

/-- The codec that a track of a fixed format settles on. -/
def Track.choice (t : Track) (codecs : List Codec) : Option Codec :=
  match t.source with
  | .fixed format => (Codec.matching format codecs).codec?
  | .custom .. => none

namespace Track

variable {t : Track} {codecs : List Codec} {codec : Codec} {c : Context}

theorem choice_singleton (h : t.choice codecs = some codec) : t.choice [codec] = some codec := by
  unfold choice at h ⊢
  split at h
  · exact CodecMatch.first_singleton h
  · cases h

theorem choice_of_bindResult (fixed : t.isFixed) {s : TrackState}
    (h : t.bindResult c s = .ok codec) : t.choice c.parameters.codecs = some codec := by
  unfold bindResult at h
  unfold choice
  cases hs : t.source with
  | fixed format =>
    rw [hs] at h
    dsimp only at h ⊢
    split at h
    · rename_i hcodec
      cases h
      exact hcodec
    · cases h
  | custom => rw [isFixed, hs] at fixed; cases fixed

end Track

namespace Endpoint

variable {w w' w₁ w₂ w₃ : Endpoint} {t : Track} {c : Context} {key : TrackKey} {b : Binding}

def payloadTypeOf (t : Track) (w : Endpoint) : Option PayloadType :=
  (t.choice (w.capabilities.codecs t.kind)).map (·.payloadType)

theorem mem_bindings_bindTrack (hb : b ∈ (w.bindTrack t c).bindings key) :
    b ∈ w.bindings key ∨ t.key = key ∧ t.isFixed ∧ ∃ codec, w.bindResult t c = .ok codec ∧
      b = ⟨c.id, c.ssrc, codec.payloadType, c.gate⟩ := by
  by_cases hk : t.key = key
  · subst hk
    cases hr : w.bindResult t c with
    | error f => exact .inl (bindings_of_failed_bind hr ▸ hb)
    | ok codec =>
      by_cases fixed : t.isFixed
      · rw [(bindTrack_fixed fixed hr).1, List.mem_append, List.mem_singleton] at hb
        exact hb.imp_right fun hb => ⟨rfl, fixed, codec, rfl, hb⟩
      · exact .inl (bindings_bindTrack_of_custom fixed c w ▸ hb)
  · exact .inl (bindings_bindTrack_ne hk c w ▸ hb)

theorem mem_bindings_unbindTrack (hb : b ∈ (w.unbindTrack t c).bindings key) :
    b ∈ w.bindings key := by
  by_cases hk : t.key = key
  · subst hk
    change b ∈ ((w.unbindTrack t c).track t).bindings at hb
    rw [track_unbindTrack, Track.afterUnbind] at hb
    split at hb
    · exact List.mem_of_mem_eraseP hb
    · exact hb
  · exact bindings_unbindTrack_ne hk c w ▸ hb

theorem gate_resolve_ne {g g' : GateId} (h : g' ≠ g) (x : Writer) (w : Endpoint) :
    (w.resolve g x).gate g' = w.gate g' := by
  simp only [resolve]
  split
  · rfl
  · exact Table.entry_set_ne _ _ h

theorem size_gates_resolve (g : GateId) (x : Writer) (w : Endpoint) :
    (w.resolve g x).gates.size = w.gates.size := by
  simp only [resolve]
  split <;> rfl

end Endpoint

open Endpoint

/-- Tracks of fixed formats, each with a key of its own. -/
structure Formats (given : Track → Prop) : Prop where
  fixed : ∀ t, given t → t.isFixed
  keyed : ∀ t t', given t → given t' → t.key = t'.key → t = t'

namespace Endpoint

variable {given : Track → Prop} {w w' w₁ w₂ w₃ : Endpoint} {t : Track} {c : Context}

structure Tunes (given : Track → Prop) (w w' : Endpoint) : Prop where
  size : w.gates.size ≤ w'.gates.size
  gates : ∀ g, g < w.gates.size → w'.gate g = w.gate g
  capabilities : w'.capabilities = w.capabilities
  bindings : ∀ t, given t → ∀ b ∈ w'.bindings t.key,
    b ∈ w.bindings t.key ∨ w.payloadTypeOf t = some b.payloadType

theorem payloadTypeOf_of_capabilities (h : w'.capabilities = w.capabilities) (t : Track) :
    w'.payloadTypeOf t = w.payloadTypeOf t := by
  rw [payloadTypeOf, h, ← payloadTypeOf]

theorem Tunes.refl (w : Endpoint) : Tunes given w w :=
  ⟨Nat.le_refl _, fun _ _ => rfl, rfl, fun _ _ _ => .inl⟩

theorem Tunes.trans (h : Tunes given w₁ w₂) (h' : Tunes given w₂ w₃) : Tunes given w₁ w₃ where
  size := Nat.le_trans h.size h'.size
  gates g hg := (h'.gates g (Nat.lt_of_lt_of_le hg h.size)).trans (h.gates g hg)
  capabilities := h'.capabilities.trans h.capabilities
  bindings t ht b hb := by
    rcases h'.bindings t ht b hb with hb | hb
    · exact h.bindings t ht b hb
    · exact .inr (payloadTypeOf_of_capabilities h.capabilities t ▸ hb)

theorem Tunes.untied (h : Tunes given w₁ w₂) (hu : Untied w₂ w₃)
    (size : w₂.gates.size ≤ w₃.gates.size)
    (gates : ∀ g, g < w₁.gates.size → w₃.gate g = w₂.gate g) : Tunes given w₁ w₃ where
  size := Nat.le_trans h.size size
  gates g hg := (gates g hg).trans (h.gates g hg)
  capabilities := hu.capabilities.trans h.capabilities
  bindings t ht b hb :=
    h.bindings t ht b (by rwa [Endpoint.bindings, hu.tracks, ← Endpoint.bindings] at hb)

theorem Untied.tunes (h : Untied w w') (gates : w'.gates = w.gates) : Tunes given w w' :=
  (Tunes.refl w).untied h (Nat.le_of_eq (by rw [gates])) fun g _ => by rw [gate, gate, gates]

theorem tunes_bindTrack (formats : Formats given) (ht : given t)
    (offer : t.choice c.parameters.codecs = t.choice (w.capabilities.codecs t.kind)) :
    Tunes given w (w.bindTrack t c) := by
  refine ⟨Nat.le_refl _, fun _ _ => rfl, rfl, fun t' ht' b hb => ?_⟩
  rcases mem_bindings_bindTrack hb with hb | ⟨hk, fixed, codec, hr, rfl⟩
  · exact .inl hb
  · obtain rfl := formats.keyed t t' ht ht' hk
    rw [payloadTypeOf, ← offer, Track.choice_of_bindResult fixed hr]
    exact .inr rfl

theorem tunes_unbindTrack (t : Track) (c : Context) (w : Endpoint) :
    Tunes given w (w.unbindTrack t c) :=
  ⟨Nat.le_refl _, fun _ _ => rfl, rfl, fun _ _ _ hb => .inl (mem_bindings_unbindTrack hb)⟩

end Endpoint

structure Encoding.Tuned (given : Track → Prop) (k : Capabilities) (e : Encoding) : Prop where
  given : ∀ t, e.track = some t → given t
  offer : e.bound → ∀ t, e.track = some t →
    t.choice e.context.parameters.codecs = t.choice (k.codecs t.kind)

theorem Encoding.tuned_of_not_bound {given : Track → Prop} {k : Capabilities} {e : Encoding}
    (hb : e.bound = false) (h : ∀ t, e.track = some t → given t) : e.Tuned given k :=
  ⟨h, fun bound => absurd (hb.symm.trans bound) Bool.false_ne_true⟩

namespace Sender

variable {given : Track → Prop} {a : Sender} {w : Endpoint} {e : Encoding} {es : List Encoding}
  {track : Option Track} {t : Track}

def Tuned (given : Track → Prop) (w : Endpoint) (es : List Encoding) : Prop :=
  ∀ e ∈ es, e.Tuned given w.capabilities

theorem Tuned.next {w' : Endpoint} (h : Tuned given w es) (hw : Tunes given w w') :
    Tuned given w' es := by
  rwa [Tuned, hw.capabilities]

def Action.track? : Action → Option Track
  | .extend track | .swapTrack track => track
  | _ => none

theorem tunes_detach (e : Encoding) (w : Endpoint) : Tunes given w (e.detach w) := by
  simp only [Encoding.detach]
  split
  · exact tunes_unbindTrack _ _ w
  · exact .refl w

theorem tuned_retrack {k : Capabilities} (h : e.Tuned given k)
    (ht : ∀ t, track = some t → given t) :
    (e.retrack track).Tuned given k := by
  by_cases hb : e.bound
  · cases track with
    | none => exact ⟨by simp [Encoding.retrack], by simp [Encoding.retrack]⟩
    | some t =>
      rw [Encoding.retrack, hb]
      exact h
  · have hr : e.retrack track = { e with track } := by simp [Encoding.retrack, hb]
    rw [hr]
    exact Encoding.tuned_of_not_bound (eq_false_of_ne_true hb) ht

theorem tunes_detachAll (track : Option Track) (es : List Encoding) (w : Endpoint) :
    Tunes given w (detachAll track es w).endpoint := by
  induction es generalizing w with
  | nil => exact .refl w
  | cons e es ih =>
    dsimp only [detachAll]
    split
    · exact tunes_detach e w
    · exact (tunes_detach e w).trans (ih _)

theorem tuned_detachAll {k : Capabilities} (h : ∀ e ∈ es, e.Tuned given k)
    (ht : ∀ t, track = some t → given t) (w : Endpoint) :
    ∀ e ∈ (detachAll track es w).encodings, e.Tuned given k := by
  induction es generalizing w with
  | nil => exact h
  | cons e es ih =>
    obtain ⟨he, hes⟩ := List.forall_mem_cons.mp h
    dsimp only [detachAll]
    split
    · exact h
    · exact List.forall_mem_cons.mpr ⟨tuned_retrack he ht, ih hes _⟩

theorem gates_release (id : String) (b : BoundStream) (w : Endpoint) :
    (release id b w).endpoint.gates = w.gates := by
  have hclose := (sameRest_closeStream b.stream (w.releaseStream b.description)).gates
  dsimp only [release]
  split <;> exact hclose

theorem tunes_releaseAll (id : String) (bs : List BoundStream) (w : Endpoint) :
    Tunes given w (releaseAll id bs w).endpoint := by
  have hgates : ∀ bs w, (releaseAll id bs w).endpoint.gates = w.gates := fun bs => by
    induction bs with
    | nil => exact fun _ => rfl
    | cons b bs ih => exact fun w => (ih _).trans (gates_release id b w)
  exact (untied_releaseAll id bs w).tunes (hgates bs w)

theorem tunes_stop (h : Tuned given w a.encodings) :
    Tunes given w (a.stop w).endpoint ∧ Tuned given w (a.stop w).sender.encodings := by
  by_cases hs : a.lifecycle.canStop
  · have hlog : Tunes given w (w.log .trace ("sender " ++ a.id ++ " stopped")) :=
      (untied_log _ _ w).tunes rfl
    by_cases hb : ∃ e ∈ a.encodings, e.bound
    · have hd := hlog.trans (tunes_detachAll none a.encodings _)
      have hnone : ∀ t, none = some t → given t := nofun
      rw [stop_eq w hs hb, teardown_eq]
      refine ⟨?_, tuned_detachAll h hnone _⟩
      dsimp only
      split
      · exact hd.trans (tunes_releaseAll _ _ _)
      · exact hd
    · rw [stop_of_not_bound w hs hb]
      exact ⟨hlog, h⟩
  · rw [stop, if_neg hs]
    exact ⟨.refl w, h⟩

theorem gates_withEncoding (id : String) (t : Track) (w : Endpoint) :
    (withEncoding id t w).gates = w.gates := by
  have hdraw : ∀ w : Endpoint, w.drawSsrc.gates = w.gates := fun w => by
    simp only [drawSsrc]
    split <;> rfl
  have hreserve : ∀ wanted w, (reserve wanted w).gates = w.gates := fun wanted w => by
    simp only [reserve]
    split
    · exact hdraw w
    · rfl
  exact (hreserve _ _).trans ((hreserve _ _).trans (hdraw w))

theorem tunes_append (a : Sender) (t : Track) (w : Endpoint) : Tunes given w (a.append t w).2 :=
  (untied_withEncoding a.id t w).tunes (gates_withEncoding a.id t w)

theorem tuned_newEncoding {k : Capabilities} (ht : given t) (w : Endpoint) :
    (newEncoding t w).Tuned given k :=
  Encoding.tuned_of_not_bound rfl fun t' ht' => by cases ht'; exact ht

theorem tunes_extend (h : Tuned given w a.encodings) (ht : ∀ t, track = some t → given t) :
    Tunes given w (a.extend track w).endpoint ∧
      Tuned given w (a.extend track w).sender.encodings := by
  have hr := extended track a w
  generalize a.extend track w = r at hr
  cases hr with
  | refused => exact ⟨.refl w, h⟩
  | added t track =>
    exact ⟨tunes_append a t w, List.forall_mem_append.mpr
      ⟨h, List.forall_mem_singleton.mpr (tuned_newEncoding (ht t track) w)⟩⟩

theorem gates_bindCompanion (plan : Option CompanionPlan) (w : Endpoint) :
    (bindCompanion plan w).gates = w.gates := by
  cases plan <;> rfl

theorem gates_bindStreams (l : Launch) (t : Track) (context : Context) (s : StreamId) (g : GateId)
    (codec : Codec) (c : Coding) (e : Encoding) (w : Endpoint) :
    (bindStreams l t context s g codec c e w).endpoint.gates.size = w.gates.size ∧
      ∀ g', g' ≠ g → (bindStreams l t context s g codec c e w).endpoint.gate g' = w.gate g' := by
  have hgates : (bindStreams l t context s g codec c e w).endpoint.gates =
      (bindPrimary s g (l.describe c.ssrc codec) w).gates :=
    Eq.trans (gates_bindCompanion _ _) (gates_bindCompanion _ _)
  constructor
  · rw [hgates]
    exact size_gates_resolve g _ _
  · intro g' hg
    rw [gate, hgates]
    exact gate_resolve_ne hg _ _

section

variable (formats : Formats given)

include formats

theorem tunes_restore (id : String) (h : e.Tuned given w.capabilities) (hb : e.bound) :
    Tunes given w (restore id e w) := by
  simp only [restore]
  split
  · exact .refl w
  · rename_i t ht
    have hbind : Tunes given w (w.bindTrack t e.context) :=
      tunes_bindTrack formats (h.given t ht) (h.offer hb t ht)
    split
    · exact hbind
    · exact hbind.trans ((untied_log _ _ _).tunes rfl)

theorem tunes_attach (a : Sender) (ht : given t) (h : e.Tuned given w.capabilities) (hb : e.bound) :
    Tunes given w (attach a t e w).endpoint ∧
      (attach a t e w).encoding.Tuned given w.capabilities := by
  have hbind : Tunes given w (w.bindTrack t (e.contextFor t w)) := tunes_bindTrack formats ht rfl
  dsimp only [attach]
  split
  · exact ⟨hbind.trans (tunes_restore formats a.id h hb), h⟩
  · rename_i codec hr
    refine ⟨hbind.trans ((untied_log _ _ _).tunes rfl), ?_, fun _ t' ht' => ?_⟩
    · rintro t' ⟨⟩
      exact ht
    · cases ht'
      have hchoice : t.choice (w.capabilities.codecs t.kind) = some codec :=
        Track.choice_of_bindResult (formats.fixed t ht) hr
      -- The context settles on the codec, unless its payload type is the one in use.
      simp only [Encoding.withTrack, Context.settle]
      split
      · exact (Track.choice_singleton hchoice).trans hchoice.symm
      · rfl

theorem tunes_attachBase (a : Sender) {d : Detached} (h : Tuned given d.endpoint d.encodings)
    (ht : ∀ t, track = some t → given t) :
    Tunes given d.endpoint (a.attachBase track d).endpoint ∧
      Tuned given d.endpoint (a.attachBase track d).sender.encodings := by
  obtain ⟨es, w, failure⟩ := d
  cases track with
  | none => exact ⟨.refl w, h⟩
  | some t =>
    cases es with
    | nil => exact ⟨.refl w, h⟩
    | cons e es =>
      obtain ⟨he, hes⟩ := List.forall_mem_cons.mp h
      dsimp only [attachBase]
      split
      · rename_i hb
        obtain ⟨hw, hattached⟩ := tunes_attach formats a (ht t rfl) he hb
        exact ⟨hw, List.forall_mem_cons.mpr ⟨hattached, hes⟩⟩
      · exact ⟨.refl w, h⟩

theorem tunes_exchange (h : Tuned given w a.encodings) (ht : ∀ t, track = some t → given t) :
    Tunes given w (a.exchange track w).endpoint ∧
      Tuned given w (a.exchange track w).sender.encodings := by
  have hd : Tunes given w (detachAll track a.encodings w).endpoint := tunes_detachAll _ _ _
  have hes := tuned_detachAll h ht w
  dsimp only [exchange]
  split
  · exact ⟨.refl w, h⟩
  · split
    · exact ⟨hd, hes⟩
    · obtain ⟨hw, hattached⟩ := tunes_attachBase formats a (Tuned.next hes hd) ht
      rw [Tuned, hd.capabilities] at hattached
      exact ⟨hd.trans hw, hattached⟩

theorem tunes_swapTrack (h : Tuned given w a.encodings) (ht : ∀ t, track = some t → given t) :
    Tunes given w (a.swapTrack track w).endpoint ∧
      Tuned given w (a.swapTrack track w).sender.encodings := by
  rw [swapTrack]
  split
  · exact ⟨.refl w, h⟩
  · exact tunes_exchange formats h ht

theorem tunes_startEncoding (l : Launch) (c : Coding) (h : e.Tuned given w.capabilities) :
    Tunes given w (startEncoding l e c w).endpoint ∧
      (startEncoding l e c w).encoding.Tuned given w.capabilities := by
  have hs := encodingStarted l e c w
  generalize startEncoding l e c w = r at hs
  have hopen := untied_openPrimary e c w
  have hadded : (openPrimary e c w).gates = w.gates.push none := rfl
  have hopened : Tunes given w (openPrimary e c w) :=
    (Tunes.refl w).untied hopen (by rw [hadded]; exact Nat.le_succ _) fun g hg =>
      Table.entry_push_ne _ _ (Nat.ne_of_lt hg)
  have hbound : ∀ t, e.track = some t →
      Tunes given w ((openPrimary e c w).bindTrack t (contextOf l.id t c w)) := fun t ht =>
    hopened.trans (tunes_bindTrack formats (h.given t ht) (by rw [hopen.capabilities]; rfl))
  cases hs with
  | missing => exact ⟨.refl w, h⟩
  | failed t f track =>
    refine ⟨hbound t track, h.given, fun _ t' ht' => ?_⟩
    cases track.symm.trans ht'
    rfl
  | bound t codec track bind =>
    let w₁ := (openPrimary e c w).bindTrack t (contextOf l.id t c w)
    obtain ⟨hsize, hgates⟩ :=
      gates_bindStreams l t (contextOf l.id t c w) w.nextStream w.nextGate codec c e w₁
    refine ⟨(hbound t track).untied (untied_bindStreams l t _ _ _ codec c e w₁)
      (Nat.le_of_eq hsize.symm) (fun g hg => ?_), h.given, fun _ t' ht' => ?_⟩
    · -- The gate that is resolved is the one that was added.
      exact hgates g (Nat.ne_of_lt hg)
    · cases track.symm.trans ht'
      have hchoice := Track.choice_of_bindResult (formats.fixed t (h.given t track)) bind
      exact (Track.choice_singleton hchoice).trans hchoice.symm

theorem tunes_startAll (l : Launch) (cs : List Coding) (h : Tuned given w es) :
    Tunes given w (startAll l es cs w).endpoint ∧ Tuned given w (startAll l es cs w).encodings := by
  induction es generalizing cs w with
  | nil => exact ⟨.refl w, h⟩
  | cons e es ih =>
    cases cs with
    | nil => exact ⟨.refl w, h⟩
    | cons c cs =>
      obtain ⟨he, hes⟩ := List.forall_mem_cons.mp h
      obtain ⟨hw, htuned⟩ := tunes_startEncoding formats l c he
      cases ho : (startEncoding l e c w).outcome with
      | error f =>
        rw [startAll_error ho]
        exact ⟨hw, List.forall_mem_cons.mpr ⟨htuned, hes⟩⟩
      | ok payloadType =>
        rw [startAll_ok ho]
        obtain ⟨hrest, hrests⟩ := ih cs (Tuned.next hes hw)
        rw [Tuned, hw.capabilities] at hrests
        exact ⟨hw.trans hrest, List.forall_mem_cons.mpr ⟨htuned, hrests⟩⟩

theorem tunes_start (p : SendParameters) (h : Tuned given w a.encodings) :
    Tunes given w (a.start p w).endpoint ∧ Tuned given w (a.start p w).sender.encodings := by
  have hr := launched p a w
  generalize a.start p w = r at hr
  have hall := tunes_startAll formats (a.launch p w) p.codings h
  cases hr with
  | refused => exact ⟨.refl w, h⟩
  | failed f r check all => exact all ▸ hall
  | sent payloadType r check all => exact all ▸ hall

theorem tunes_act (x : Action) (h : Tuned given w a.encodings)
    (ht : ∀ t, x.track? = some t → given t) :
    Tunes given w (a.act x w).endpoint ∧ Tuned given w (a.act x w).sender.encodings := by
  cases x with
  | extend track => exact tunes_extend h ht
  | swapTrack track => exact tunes_swapTrack formats h ht
  | start p => exact tunes_start formats p h
  | stop => exact tunes_stop h

end

theorem payloadType_startEncoding {l : Launch} {c : Coding} {payloadType : PayloadType}
    (track : e.track = some t) (fixed : t.isFixed)
    (ok : (startEncoding l e c w).outcome = .ok payloadType) :
    w.payloadTypeOf t = some payloadType := by
  obtain ⟨t', codec, track', rfl, bind, -⟩ := startEncoding_of_ok ok
  cases track.symm.trans track'
  have hchoice : t.choice (w.capabilities.codecs t.kind) = some codec :=
    Track.choice_of_bindResult fixed bind
  rw [payloadTypeOf, hchoice]
  rfl

theorem payloadType_start {p : SendParameters} (base : a.baseTrack = some t) (fixed : t.isFixed)
    (ok : (a.start p w).outcome = .ok ()) :
    w.payloadTypeOf t = some (a.start p w).sender.payloadType := by
  obtain ⟨check, payloadType, outcome, started⟩ := start_of_ok ok
  obtain ⟨e, he, track⟩ := Option.bind_eq_some_iff.mp base
  obtain ⟨es, hes⟩ := List.head?_eq_some_iff.mp he
  have hlen := (of_startFailure check).2.2
  rw [hes] at outcome hlen
  obtain ⟨c, cs, hcs⟩ : ∃ c cs, p.codings = c :: cs :=
    List.exists_cons_of_length_pos (Nat.lt_of_lt_of_le (Nat.zero_lt_succ _) hlen)
  rw [hcs] at outcome
  obtain ⟨first, rest, hfirst, -, rfl⟩ := startAll_cons_of_ok outcome
  rw [started]
  exact payloadType_startEncoding track fixed hfirst

theorem payloadType_act (h : a.lifecycle.hasSent) (x : Action) (w : Endpoint) :
    (a.act x w).sender.payloadType = a.payloadType := by
  cases x with
  | extend track =>
    have hr := extended track a w
    change (a.extend track w).sender.payloadType = a.payloadType
    generalize a.extend track w = r at hr
    cases hr <;> rfl
  | swapTrack track =>
    change (a.swapTrack track w).sender.payloadType = a.payloadType
    rw [sender_swapTrack]
  | start p =>
    have hr := launched p a w
    change (a.start p w).sender.payloadType = a.payloadType
    generalize a.start p w = r at hr
    cases hr with
    | refused => rfl
    | failed => rfl
    | sent payloadType r check =>
      rw [(of_startFailure check).1] at h
      cases h
  | stop =>
    change (a.stop w).sender.payloadType = a.payloadType
    rw [sender_stop]

end Sender

end MediaSender
