import MediaSender.Proofs.Sender.Bindings
import MediaSender.Proofs.Sender.Envelope
import MediaSender.Proofs.Stream.Delivery
import MediaSender.Proofs.Stream.OpenOnce
/-!
Each layer has a stream of its own. A start gives every encoding a stream that nobody else has, a
gate that leads there, and a binding of its track at that gate; and a track that takes the place of
another one is bound at the same gate. So what is written to the track of an encoding goes to the
stream of that encoding, whichever tracks it had before.
-/

namespace MediaSender

open Endpoint

def Encoding.streams (e : Encoding) : List StreamId :=
  e.primary.stream :: (e.rtx.bound.toList ++ e.fec.bound.toList).map (·.stream)

structure Ascends (lo hi : Nat) (ss : List Nat) : Prop where
  le : lo ≤ hi
  sorted : ss.Pairwise (· < ·)
  within : ∀ s ∈ ss, lo ≤ s ∧ s < hi

theorem Ascends.append {lo mid hi : Nat} {ss ss' : List Nat} (h : Ascends lo mid ss)
    (h' : Ascends mid hi ss') : Ascends lo hi (ss ++ ss') where
  le := Nat.le_trans h.le h'.le
  sorted := List.pairwise_append.mpr ⟨h.sorted, h'.sorted, fun s hs s' hs' =>
    Nat.lt_of_lt_of_le (h.within s hs).2 (h'.within s' hs').1⟩
  within s hs := by
    have hle := h.le
    have hle' := h'.le
    rcases List.mem_append.mp hs with hs | hs
    · have hw := h.within s hs
      omega
    · have hw := h'.within s hs
      omega

def Encoding.Untouched (e : Encoding) : Prop :=
  e.bound = false ∧ e.rtx.bound = none ∧ e.fec.bound = none

namespace Sender

variable {a : Sender} {w w' : Endpoint} {e : Encoding} {es es' : List Encoding} {c : Coding}
  {cs : List Coding} {l : Launch} {g : GateId}

def streamsOf (es : List Encoding) : List StreamId := es.flatMap (·.streams)

theorem streams_cons (e : Encoding) (es : List Encoding) :
    streamsOf (e :: es) = e.streams ++ streamsOf es := List.flatMap_cons

theorem streams_of_bare (h : es'.map (·.bare) = es.map (·.bare)) :
    streamsOf es' = streamsOf es := by
  have hb : ∀ es : List Encoding, streamsOf (es.map (·.bare)) = streamsOf es := fun es => by
    rw [streamsOf, List.flatMap_map]
    rfl
  rw [← hb es', h, hb]

theorem nextStream_bindPrimary (s : StreamId) (g : GateId) (d : StreamDescription) (e : Encoding)
    (c : Coding) (t : Track) (context : Context) (w : Endpoint) :
    (bindPrimary s g d ((openPrimary e c w).bindTrack t context)).nextStream = w.nextStream + 1 :=
  congrArg Table.size (streams_resolve _ _ _)

theorem nextStream_bindCompanion {n : StreamId} (plan : Option CompanionPlan) {w : Endpoint}
    (h : n ≤ w.nextStream) : n ≤ (bindCompanion plan w).nextStream :=
  Nat.le_trans h (makes_bindCompanion plan w).extends.size

theorem streams_startEncoding (l : Launch) (e : Encoding) (c : Coding) (w : Endpoint) :
    ∀ s ∈ (startEncoding l e c w).encoding.streams, s ∈ e.streams ∨ w.nextStream ≤ s := by
  have hs := encodingStarted l e c w
  generalize startEncoding l e c w = r at hs
  have hcompanion : ∀ plan (old : Companion) (w' : Endpoint), w.nextStream ≤ w'.nextStream →
      ∀ s ∈ (companionOf plan old w').bound.toList.map (·.stream),
        s ∈ old.bound.toList.map (·.stream) ∨ w.nextStream ≤ s := by
    intro plan old w' hle s hs
    cases plan with
    | none => exact .inl hs
    | some p => exact .inr (List.mem_singleton.mp hs ▸ hle)
  cases hs with
  | missing => exact fun s => .inl
  | failed => exact fun s => .inl
  | bound t codec =>
    let w₁ := bindPrimary w.nextStream w.nextGate (l.describe c.ssrc codec)
      ((openPrimary e c w).bindTrack t (contextOf l.id t c w))
    have hn : w.nextStream ≤ w₁.nextStream := nextStream_bindPrimary .. ▸ Nat.le_succ _
    intro s hs
    rcases List.mem_cons.mp hs with rfl | hs
    · exact .inr (Nat.le_refl _)
    · rw [List.map_append, List.mem_append] at hs
      rw [Encoding.streams, List.mem_cons, List.map_append, List.mem_append]
      rcases hs with hs | hs
      · exact (hcompanion _ e.rtx w₁ hn s hs).imp_left fun h => .inr (.inl h)
      · have hfec := hcompanion _ e.fec _ (nextStream_bindCompanion _ hn) s hs
        exact hfec.imp_left fun h => .inr (.inr h)

theorem streams_startAll (l : Launch) (cs : List Coding) (known : ∀ e ∈ es, e.Known w) :
    ∀ s ∈ streamsOf (startAll l es cs w).encodings, s ∈ streamsOf es ∨ w.nextStream ≤ s := by
  induction es generalizing cs w with
  | nil => exact fun s => .inl
  | cons e es ih =>
    cases cs with
    | nil => exact fun s => .inl
    | cons c cs =>
      have hfirst := streams_startEncoding l e c w
      have hm := startEncoding_makes l c (known e List.mem_cons_self)
      intro s hs
      cases ho : (startEncoding l e c w).outcome with
      | error f =>
        rw [startAll_error ho, streams_cons, List.mem_append] at hs
        rw [streams_cons, List.mem_append]
        rcases hs with hs | hs
        · exact (hfirst s hs).imp_left .inl
        · exact .inl (.inr hs)
      | ok payloadType =>
        rw [startAll_ok ho, streams_cons, List.mem_append] at hs
        rw [streams_cons, List.mem_append]
        rcases hs with hs | hs
        · exact (hfirst s hs).imp_left .inl
        · have hrest := ih cs (fun e' he' =>
            (known e' (List.mem_cons_of_mem _ he')).extends hm.1.extends) s hs
          exact hrest.imp .inr fun hle => Nat.le_trans hm.1.extends.size hle

theorem untouched_newEncoding (t : Track) (w : Endpoint) : (newEncoding t w).Untouched :=
  ⟨rfl, bound_reserved _ _, bound_reserved _ _⟩

theorem streams_newEncoding (t : Track) (w : Endpoint) :
    (newEncoding t w).streams = [w.nextStream] := by
  obtain ⟨-, hrtx, hfec⟩ := untouched_newEncoding t w
  rw [Encoding.streams, hrtx, hfec]
  rfl

theorem streams_act (x : Action) (known : a.Known w) :
    ∀ s ∈ streamsOf (a.act x w).sender.encodings, s ∈ streamsOf a.encodings ∨ w.nextStream ≤ s := by
  have same : ∀ {es' : List Encoding}, es'.map (·.bare) = a.encodings.map (·.bare) →
      ∀ s ∈ streamsOf es', s ∈ streamsOf a.encodings ∨ w.nextStream ≤ s := fun h s hs =>
    .inl (streams_of_bare h ▸ hs)
  cases x with
  | extend track =>
    have h := extended track a w
    change ∀ s ∈ streamsOf (a.extend track w).sender.encodings, _
    generalize a.extend track w = r at h
    cases h with
    | refused => exact fun s => .inl
    | added t =>
      intro s hs
      change s ∈ streamsOf (a.encodings ++ [newEncoding t w]) at hs
      rw [streamsOf, List.flatMap_append, List.mem_append, List.flatMap_singleton,
        streams_newEncoding] at hs
      exact hs.imp_right fun hs => Nat.le_of_eq (List.mem_singleton.mp hs).symm
  | swapTrack track => exact same (bare_swapTrack track a w)
  | start p =>
    have h := launched p a w
    change ∀ s ∈ streamsOf (a.start p w).sender.encodings, _
    generalize a.start p w = r at h
    cases h with
    | refused => exact fun s => .inl
    | failed f r check all => exact all ▸ streams_startAll _ _ known
    | sent payloadType r check all => exact all ▸ streams_startAll _ _ known
  | stop => exact same (bare_stop a w)

structure Plugged (id : String) (ssrc : Ssrc) (gate : Option GateId) (t : Track) (w : Endpoint) :
    Prop where
  fixed : t.isFixed
  binding : ∃ payloadType, w.negotiated t.key = some payloadType ∧
    w.bindings t.key = [⟨id, ssrc, payloadType, gate⟩]

/-- An encoding that is bound: its stream has the SSRC that was asked for, its gate leads to the
stream, and its track, if it has one, writes to the gate. -/
structure Wire (id : String) (e : Encoding) (c : Coding) (w : Endpoint) : Prop where
  bound : e.bound
  owned : w.Owned e.primary.stream
  known : w.Known e.primary.stream
  idle : Idle e.primary.stream w
  alive : (w.stream e.primary.stream).closed = false
  ssrc : w.ssrcOf e.primary.stream = c.ssrc
  label : e.context.id = id ∧ e.context.ssrc = c.ssrc
  gate : ∃ g x, e.context.gate = some g ∧ Resolved g x w ∧ x.Reaches e.primary.stream
  plugged : ∀ t, e.track = some t → Plugged id c.ssrc e.context.gate t w

variable {id : String}

theorem Plugged.next {ssrc : Ssrc} {g : Option GateId} {t : Track} (h : Plugged id ssrc g t w)
    (hs : SameTies t.key w w') : Plugged id ssrc g t w' := by
  obtain ⟨payloadType, hn, hb⟩ := h.binding
  exact ⟨h.fixed, payloadType, hs.negotiated.trans hn, hs.bindings.trans hb⟩

theorem Wire.next (h : Wire id e c w) (fair : Fair w) (smooth : Smooth w w')
    (extends_ : Extends w w') (alive : (w'.stream e.primary.stream).closed = false)
    (ties : ∀ t, e.track = some t → SameTies t.key w w') : Wire id e c w' where
  bound := h.bound
  owned := extends_.owned h.owned
  known := extends_.known h.known
  idle := smooth.idle fair _ h.idle
  alive := alive
  ssrc := (extends_.grows _ h.known).ssrc.trans h.ssrc
  label := h.label
  gate := by
    obtain ⟨g, x, hg, hx, hr⟩ := h.gate
    exact ⟨g, x, hg, smooth.gates g x hx, hr⟩
  plugged t ht := (h.plugged t ht).next (ties t ht)

theorem Wire.unplug (h : Wire id e c w) : Wire id { e with track := none } c w :=
  { h with plugged := nofun }

theorem alive_of_makes (h : Makes w w') {s : StreamId} (hs : (w.stream s).closed = false) :
    (w'.stream s).closed = false := by
  refine eq_false_of_ne_true fun hc => ?_
  rcases Builds.closed_of h hc with hc | hc
  · exact absurd (hs.symm.trans hc) Bool.false_ne_true
  · exact hc

theorem sameTies_startEncoding {key : TrackKey} (h : ∀ t, e.track = some t → t.key ≠ key)
    (l : Launch) (c : Coding) (w : Endpoint) :
    SameTies key w (startEncoding l e c w).endpoint := by
  have hs := encodingStarted l e c w
  generalize startEncoding l e c w = r at hs
  have ho := (untied_openPrimary e c w).sameTies key
  cases hs with
  | missing => exact .refl key w
  | failed t f track => exact ho.trans (sameTies_bindTrack_ne (h t track) _ _)
  | bound t codec track =>
    exact (ho.trans (sameTies_bindTrack_ne (h t track) _ _)).trans
      ((untied_bindStreams l t _ _ _ codec c e _).sameTies key)

theorem chain_startEncoding (l : Launch) (e : Encoding) (c : Coding) (w : Endpoint) :
    (startEncoding l e c w).endpoint.chain = w.chain := by
  have hs := encodingStarted l e c w
  generalize startEncoding l e c w = r at hs
  have ho := (untied_openPrimary e c w).chain
  cases hs with
  | missing => rfl
  | failed => exact ho
  | bound t codec => exact (untied_bindStreams l t _ _ _ codec c e _).chain.trans ho

section

variable {s : StreamId} {g : GateId} {t : Track} {context : Context} {codec : Codec}
  {deadline : Option Instant}

end

def Wired (id : String) (es : List Encoding) (cs : List Coding) (w : Endpoint) : Prop :=
  ∀ (i : Nat) e, es[i]? = some e → ∃ c, cs[i]? = some c ∧ Wire id e c w

def Unplugged (es : List Encoding) (w : Endpoint) : Prop :=
  ∀ e ∈ es, ∀ t, e.track = some t → t.isFixed ∧ w.bindings t.key = []

def keys (es : List Encoding) : List TrackKey := (es.filterMap (·.track)).map (·.key)

theorem mem_keys {t : Track} (he : e ∈ es) (ht : e.track = some t) : t.key ∈ keys es :=
  List.mem_map_of_mem (List.mem_filterMap.mpr ⟨e, he, ht⟩)

theorem keys_cons {t : Track} (ht : e.track = some t) : keys (e :: es) = t.key :: keys es := by
  rw [keys, List.filterMap_cons_some ht, List.map_cons, ← keys]

theorem key_ne_of_nodup (h : (keys (e :: es)).Nodup) {t : Track} (ht : e.track = some t) :
    ∀ e' ∈ es, ∀ t', e'.track = some t' → t'.key ≠ t.key := by
  intro e' he' t' ht' hk
  rw [keys_cons ht, List.nodup_cons] at h
  exact h.1 (hk ▸ mem_keys he' ht')

theorem Unplugged.tail (h : Unplugged (e :: es) w) (distinct : (keys (e :: es)).Nodup) (l : Launch)
    (c : Coding) : Unplugged es (startEncoding l e c w).endpoint := by
  intro e' he' t' ht'
  obtain ⟨fixed, hb⟩ := h e' (List.mem_cons_of_mem _ he') t' ht'
  have hne : ∀ t, e.track = some t → t.key ≠ t'.key := fun t ht =>
    (key_ne_of_nodup distinct ht e' he' t' ht').symm
  exact ⟨fixed, (sameTies_startEncoding hne l c w).bindings.trans hb⟩

theorem encodings_detachAll (h : (detachAll none es w).failure = none) :
    (detachAll none es w).encodings = es.map fun e => { e with track := none } := by
  induction es generalizing w with
  | nil => rfl
  | cons e es ih =>
    dsimp only [detachAll] at h ⊢
    split at h
    · cases h
    · have hr : e.retrack none = { e with track := none } := by simp [Encoding.retrack]
      exact congr (congrArg List.cons hr) (ih h)

theorem bindings_detach {t : Track} (h : Wire id e c w)
    (free : w.bindings t.key = [] ∨ e.track = some t) : (e.detach w).bindings t.key = [] := by
  cases ht : e.track with
  | none =>
    have hw : e.detach w = w := by simp [Encoding.detach, ht]
    rw [hw]
    exact free.resolve_right fun h => Option.some_ne_none t (h.symm.trans ht)
  | some t' =>
    obtain ⟨fixed, payloadType, -, hb⟩ := h.plugged t' ht
    have hw : e.detach w = w.unbindTrack t' e.context := by simp [Encoding.detach, ht, h.bound]
    rw [hw]
    by_cases hk : t'.key = t.key
    · -- It is the same track, and its only binding has just gone.
      rw [← hk, unbindTrack_fixed fixed, hb]
      simp [Binding.isFor, h.label]
    · rw [bindings_unbindTrack_ne hk]
      refine free.resolve_right fun h => hk ?_
      cases ht.symm.trans h
      rfl

theorem attach_ok {t : Track} (ok : (attach a t e w).outcome = .ok ()) :
    ∃ codec parameters text, w.bindResult t (e.contextFor t w) = .ok codec ∧
      attach a t e w = ⟨e.withTrack t { e.contextFor t w with parameters := parameters },
        (w.bindTrack t (e.contextFor t w)).log .trace text, .ok ()⟩ := by
  dsimp only [attach] at ok ⊢
  split at ok
  · cases ok
  · rename_i codec hbind
    obtain ⟨parameters, hsettle⟩ := settle_eq a.payloadType codec (e.contextFor t w)
    rw [hbind, hsettle]
    exact ⟨codec, parameters, _, rfl, rfl⟩

theorem wire_attach {t : Track} (h : Wire id e c w) (fair : Fair w) (fixed : t.isFixed)
    (free : w.bindings t.key = [] ∨ e.track = some t) (known : e.Known w)
    (ok : (attach a t e (e.detach w)).outcome = .ok ()) :
    Wire id (attach a t e (e.detach w)).encoding c (attach a t e (e.detach w)).endpoint := by
  have hdetach := rebinds_detach e w
  have hrebinds := hdetach.trans (attach_rebinds a t (known.extends hdetach.extends)).1
  have hsmooth := (steady_smooth.detach e w).trans (steady_smooth.attach a t e (e.detach w))
  have hwire := h.unplug.next fair hsmooth hrebinds.extends
    (alive_of_makes hrebinds.makes h.alive) nofun
  obtain ⟨codec, parameters, text, hbind, heq⟩ := attach_ok ok
  rw [heq] at hwire ⊢
  obtain ⟨hbindings, hnegotiated⟩ := bindTrack_fixed fixed hbind
  have hlog := (untied_log .trace text
    ((e.detach w).bindTrack t (e.contextFor t (e.detach w)))).sameTies t.key
  refine { hwire with plugged := fun t' ht' => ?_ }
  cases ht'
  refine ⟨fixed, codec.payloadType, hlog.negotiated.trans hnegotiated, ?_⟩
  rw [hlog.bindings, hbindings, bindings_detach h free, ← h.label.1, ← h.label.2]
  rfl

theorem wired_detachAll (h : Wired id es cs w) (fair : Fair w) (known : ∀ e ∈ es, e.Known w)
    (ok : (detachAll none es w).failure = none) :
    Wired id (detachAll none es w).encodings cs (detachAll none es w).endpoint := by
  have hr := (detachAll_rebinds none es known).1
  rw [encodings_detachAll ok]
  intro i e' he'
  rw [List.getElem?_map] at he'
  obtain ⟨e, he, rfl⟩ := Option.map_eq_some_iff.mp he'
  obtain ⟨c, hc, hwire⟩ := h i e he
  refine ⟨c, hc, hwire.unplug.next fair (steady_smooth.detachAll none es w) hr.extends
    (alive_of_makes hr.makes hwire.alive) fun t ht => ?_⟩
  cases ht

theorem wired_replaced {t : Track} (h : Wired a.id [e] cs w) (he : a.encodings = [e])
    (fair : Fair w) (known : e.Known w) (fixed : t.isFixed)
    (free : w.bindings t.key = [] ∨ e.track = some t)
    (ok : (a.exchange (some t) w).outcome = .ok ()) :
    Wired a.id (a.exchange (some t) w).sender.encodings cs (a.exchange (some t) w).endpoint := by
  obtain ⟨c, hc, hwire⟩ := h 0 e rfl
  have hr := replaced t he w
  generalize a.exchange (some t) w = r at ok hr
  cases hr with
  | refused => cases ok
  | stuck => cases ok
  | put fits unbound => exact absurd (unbound.symm.trans hwire.bound) Bool.false_ne_true
  | attached =>
    intro i e' he'
    cases i with
    | zero =>
      cases he'
      exact ⟨c, hc, wire_attach hwire fair fixed free known ok⟩
    | succ i => cases he'

theorem wired_swapTrack {track : Option Track} (h : Wired a.id a.encodings cs w) (fair : Fair w)
    (known : a.Known w) (hn : a.encodings ≠ []) (running : a.lifecycle.hasStopped = false)
    (given : ∀ t, track = some t →
      t.isFixed ∧ (w.bindings t.key = [] ∨ some t ∈ a.tracks))
    (ok : (a.swapTrack track w).outcome = .ok ()) :
    Wired a.id (a.swapTrack track w).sender.encodings cs (a.swapTrack track w).endpoint := by
  have hx : a.swapTrack track w = a.exchange track w := by
    rw [swapTrack, running, if_neg Bool.false_ne_true]
  rw [hx] at ok ⊢
  cases track with
  | none =>
    rw [exchange_none] at ok ⊢
    cases hf : (detachAll none a.encodings w).failure with
    | some f =>
      rw [hf] at ok
      cases ok
    | none => exact wired_detachAll h fair known hf
  | some t =>
    cases hcheck : a.swapFailure (some t) with
    | some f =>
      rw [exchange, hcheck] at ok
      cases ok
    | none =>
      obtain ⟨e, he⟩ := singleton_of_swapFailure hn hcheck
      obtain ⟨fixed, hfree⟩ := given t rfl
      rw [tracks, he] at hfree
      exact wired_replaced (he ▸ h) he fair (known e (he ▸ List.mem_cons_self)) fixed
        (hfree.imp_right fun ht => (List.mem_singleton.mp ht).symm) ok

theorem act_of_sending (h : a.lifecycle = .sending) {x : Action} (hstop : x ≠ .stop)
    (hswap : ∀ track, x ≠ .swapTrack track) (w : Endpoint) :
    (a.act x w).sender = a ∧ (a.act x w).endpoint = w := by
  have hstopped : a.lifecycle.hasStopped = false := by rw [h]; rfl
  have hsent : a.lifecycle.hasSent := by rw [h]; rfl
  cases x with
  | extend track =>
    have hr := extended track a w
    change (a.extend track w).sender = a ∧ (a.extend track w).endpoint = w
    generalize a.extend track w = r at hr
    cases hr with
    | refused => exact ⟨rfl, rfl⟩
    | added t given check =>
      simp only [extendFailure, hstopped, hsent] at check
      split at check <;> cases check
  | swapTrack track => exact absurd rfl (hswap track)
  | start p =>
    have hf : a.startFailure p = some .alreadySent := by simp [startFailure, hstopped, hsent]
    change (a.start p w).sender = a ∧ (a.start p w).endpoint = w
    rw [start, hf]
    exact ⟨rfl, rfl⟩
  | stop => exact absurd rfl hstop

theorem untouched_act (h : ∀ e ∈ a.encodings, e.Untouched) {x : Action}
    (hx : x.launches a = false) (w : Endpoint) :
    ∀ e ∈ (a.act x w).sender.encodings, e.Untouched := by
  cases x with
  | extend track =>
    have hr := extended track a w
    change ∀ e ∈ (a.extend track w).sender.encodings, e.Untouched
    generalize a.extend track w = r at hr
    cases hr with
    | refused => exact h
    | added t =>
      exact List.forall_mem_append.mpr
        ⟨h, List.forall_mem_singleton.mpr (untouched_newEncoding t w)⟩
  | swapTrack track =>
    exact (forall_of_bare (bare_swapTrack track a w) fun _ => Iff.rfl).mpr h
  | start p =>
    obtain ⟨f, hf⟩ := Option.isSome_iff_exists.mp (show (a.startFailure p).isSome by
      simpa [Action.launches, Option.isNone_eq_false_iff] using hx)
    change ∀ e ∈ (a.start p w).sender.encodings, e.Untouched
    rw [start, hf]
    exact h
  | stop => exact (forall_of_bare (bare_stop a w) fun _ => Iff.rfl).mpr h

theorem known_streams (h : a.Known w) : ∀ s ∈ streamsOf a.encodings, s < w.nextStream := by
  intro s hs
  obtain ⟨e, he, hs⟩ := List.mem_flatMap.mp hs
  have hk := h e he
  rcases List.mem_cons.mp hs with rfl | hs
  · exact hk.primary.stream
  · obtain ⟨b, hb, rfl⟩ := List.mem_map.mp hs
    rcases List.mem_append.mp hb with hb | hb
    · exact (hk.rtx b (Option.mem_toList.mp hb)).stream
    · exact (hk.fec b (Option.mem_toList.mp hb)).stream

theorem mem_streams_of_held {b : BoundStream} (hb : b ∈ a.held) :
    b.stream ∈ streamsOf a.encodings := by
  obtain ⟨e, he, hb⟩ := List.mem_flatMap.mp hb
  refine List.mem_flatMap.mpr ⟨e, he, ?_⟩
  rw [Encoding.boundStreams] at hb
  split at hb
  · exact List.mem_map_of_mem (f := BoundStream.stream) hb
  · cases hb

theorem mem_streams {i : Nat} (he : a.encodings[i]? = some e) :
    e.primary.stream ∈ streamsOf a.encodings :=
  List.mem_flatMap.mpr ⟨e, List.mem_of_getElem? he, List.mem_cons_self⟩

end Sender

end MediaSender
