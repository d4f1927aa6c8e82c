import MediaSender.Proofs.Sender.Ledger
/-!
What the actions of a sender come to: each action is refused by a check and changes nothing, or it
changes the encodings, and then a start or a stop may move the lifecycle.
-/

namespace MediaSender.Sender

open Endpoint

inductive Extended (track : Option Track) (a : Sender) (w : Endpoint) : Result → Prop
  | refused (f : Failure) (check : ∀ t, track = some t → a.extendFailure t = some f) :
      Extended track a w ⟨a, w, .error f⟩
  | added (t : Track) (given : track = some t) (check : a.extendFailure t = none) :
      Extended track a w ⟨(a.append t w).1, (a.append t w).2, .ok ()⟩

theorem extended (track : Option Track) (a : Sender) (w : Endpoint) :
    Extended track a w (a.extend track w) := by
  simp only [extend]
  split
  · exact .refused _ (by simp)
  · split
    · rename_i t f hf
      exact .refused f (by simp [hf])
    · exact .added _ rfl ‹_›

inductive Launched (p : SendParameters) (a : Sender) (w : Endpoint) : Result → Prop
  | refused (f : Failure) (check : a.startFailure p = some f) : Launched p a w ⟨a, w, .error f⟩
  | failed (f : Failure) (r : AllStarted) (check : a.startFailure p = none)
      (all : startAll (a.launch p w) a.encodings p.codings w = r) (outcome : r.outcome = .error f) :
      Launched p a w ⟨{ a with encodings := r.encodings }, r.endpoint, .error f⟩
  | sent (payloadType : Option PayloadType) (r : AllStarted) (check : a.startFailure p = none)
      (all : startAll (a.launch p w) a.encodings p.codings w = r)
      (outcome : r.outcome = .ok payloadType) :
      Launched p a w ⟨{ a with
          encodings := r.encodings
          payloadType := payloadType.getD a.payloadType
          lifecycle := .sending }, r.endpoint, .ok ()⟩

theorem of_startFailure {a : Sender} {p : SendParameters} (h : a.startFailure p = none) :
    a.lifecycle = .idle ∧ a.baseTrack.isSome ∧ a.encodings.length ≤ p.codings.length := by
  simp only [startFailure] at h
  split at h
  · cases h
  · rename_i hstopped
    split at h
    · cases h
    · rename_i hsent
      split at h
      · cases h
      · rename_i hbase
        split at h
        · cases h
        · rename_i hlen
          refine ⟨?_, ?_, Nat.le_of_not_lt hlen⟩
          · generalize a.lifecycle = l at hstopped hsent
            cases l with
            | idle => rfl
            | sending => exact absurd rfl hsent
            | stopped sent => exact absurd rfl hstopped
          · simpa [Option.isSome_iff_ne_none] using hbase

theorem launched (p : SendParameters) (a : Sender) (w : Endpoint) :
    Launched p a w (a.start p w) := by
  dsimp only [start]
  split
  · exact .refused _ ‹_›
  · rename_i check
    have hl : a.lifecycle.start = .sending := by rw [(of_startFailure check).1]; rfl
    split
    · exact .failed _ _ check rfl ‹_›
    · rw [hl]
      exact .sent _ _ check rfl ‹_›

inductive EncodingStarted (l : Launch) (e : Encoding) (c : Coding) (w : Endpoint) : Started → Prop
  | missing (track : e.track = none) : EncodingStarted l e c w ⟨e, w, .error .trackRemoved⟩
  | failed (t : Track) (f : Failure) (track : e.track = some t)
      (bind : (openPrimary e c w).bindResult t (contextOf l.id t c w) = .error f) :
      EncodingStarted l e c w ⟨{ e with ssrc := c.ssrc, context := contextOf l.id t c w },
        (openPrimary e c w).bindTrack t (contextOf l.id t c w), .error f⟩
  | bound (t : Track) (codec : Codec) (track : e.track = some t)
      (bind : (openPrimary e c w).bindResult t (contextOf l.id t c w) = .ok codec) :
      EncodingStarted l e c w
        (bindStreams l t (contextOf l.id t c w) w.nextStream w.nextGate codec c e
        ((openPrimary e c w).bindTrack t (contextOf l.id t c w)))

theorem encodingStarted (l : Launch) (e : Encoding) (c : Coding) (w : Endpoint) :
    EncodingStarted l e c w (startEncoding l e c w) := by
  simp only [startEncoding]
  split
  · exact .missing ‹_›
  · rename_i t ht
    split
    · exact .failed t _ ht ‹_›
    · exact .bound t _ ht ‹_›

section

variable {l : Launch} {e : Encoding} {es : List Encoding} {c : Coding} {cs : List Coding}
  {w : Endpoint} {f : Failure}

theorem startAll_error (h : (startEncoding l e c w).outcome = .error f) :
    startAll l (e :: es) (c :: cs) w =
      ⟨(startEncoding l e c w).encoding :: es, (startEncoding l e c w).endpoint, .error f⟩ := by
  simp only [startAll, h]

theorem startAll_ok {payloadType : PayloadType}
    (h : (startEncoding l e c w).outcome = .ok payloadType) :
    startAll l (e :: es) (c :: cs) w =
      ⟨(startEncoding l e c w).encoding ::
          (startAll l es cs (startEncoding l e c w).endpoint).encodings,
        (startAll l es cs (startEncoding l e c w).endpoint).endpoint,
        (startAll l es cs (startEncoding l e c w).endpoint).outcome.map
          fun _ => some payloadType⟩ := by
  simp only [startAll, h]

theorem startEncoding_of_ok {payloadType : PayloadType}
    (ok : (startEncoding l e c w).outcome = .ok payloadType) :
    ∃ t codec, e.track = some t ∧ codec.payloadType = payloadType ∧
      (openPrimary e c w).bindResult t (contextOf l.id t c w) = .ok codec ∧
      startEncoding l e c w =
        bindStreams l t (contextOf l.id t c w) w.nextStream w.nextGate codec c e
          ((openPrimary e c w).bindTrack t (contextOf l.id t c w)) := by
  have hs := encodingStarted l e c w
  generalize startEncoding l e c w = r at ok hs
  cases hs with
  | missing => cases ok
  | failed => cases ok
  | bound t codec track bind => exact ⟨t, codec, track, Except.ok.inj ok, bind, rfl⟩

theorem startAll_cons_of_ok {r : Option PayloadType}
    (ok : (startAll l (e :: es) (c :: cs) w).outcome = .ok r) :
    ∃ payloadType rest, (startEncoding l e c w).outcome = .ok payloadType ∧
      (startAll l es cs (startEncoding l e c w).endpoint).outcome = .ok rest ∧
      r = some payloadType := by
  cases first : (startEncoding l e c w).outcome with
  | error f =>
    rw [startAll_error first] at ok
    cases ok
  | ok payloadType =>
    rw [startAll_ok first] at ok
    cases rest : (startAll l es cs (startEncoding l e c w).endpoint).outcome with
    | error f =>
      rw [rest] at ok
      cases ok
    | ok last =>
      rw [rest] at ok
      cases ok
      exact ⟨payloadType, last, rfl, rfl, rfl⟩

end

theorem start_of_ok {p : SendParameters} {a : Sender} {w : Endpoint}
    (ok : (a.start p w).outcome = .ok ()) :
    let r := startAll (a.launch p w) a.encodings p.codings w
    a.startFailure p = none ∧ ∃ payloadType, r.outcome = .ok payloadType ∧
      a.start p w = ⟨{ a with
        encodings := r.encodings
        payloadType := payloadType.getD a.payloadType
        lifecycle := .sending }, r.endpoint, .ok ()⟩ := by
  have hr := launched p a w
  generalize a.start p w = x at ok hr
  cases hr with
  | refused => cases ok
  | failed => cases ok
  | sent payloadType r check all outcome =>
    subst all
    exact ⟨check, payloadType, outcome, rfl⟩

theorem settle_eq (payloadType : PayloadType) (codec : Codec) (c : Context) :
    ∃ parameters, c.settle payloadType codec = { c with parameters := parameters } := by
  simp only [Context.settle]
  split <;> exact ⟨_, rfl⟩

inductive Replaced (t : Track) (a : Sender) (e : Encoding) (w : Endpoint) : Result → Prop
  | refused (f : Failure) (check : a.swapFailure (some t) = some f) :
      Replaced t a e w ⟨a, w, .error f⟩
  | stuck (f : Failure) (failure : e.detachFailure w = some f) :
      Replaced t a e w ⟨a, e.detach w, .error f⟩
  | put (fits : t.kind = a.kind) (free : e.bound = false) :
      Replaced t a e w ⟨{ a with encodings := [{ e with track := some t }] }, w, .ok ()⟩
  | attached (fits : t.kind = a.kind) (bound : e.bound) (detached : e.detachFailure w = none) :
      Replaced t a e w ⟨{ a with encodings := [(attach a t e (e.detach w)).encoding] },
        (attach a t e (e.detach w)).endpoint, (attach a t e (e.detach w)).outcome⟩

theorem kind_of_swapFailure {t : Track} {a : Sender} (h : a.swapFailure (some t) = none) :
    t.kind = a.kind ∧ a.encodings.length ≤ 1 := by
  simp only [swapFailure] at h
  split at h
  · cases h
  · rename_i hkind
    split at h
    · cases h
    · exact ⟨(Decidable.of_not_not hkind).symm, by omega⟩

theorem replaced (t : Track) {a : Sender} {e : Encoding} (he : a.encodings = [e]) (w : Endpoint) :
    Replaced t a e w (a.exchange (some t) w) := by
  have ha : { a with encodings := [e] } = a := by rw [← he]
  dsimp only [exchange]
  split
  · exact .refused _ ‹_›
  · rename_i check
    have fits := (kind_of_swapFailure check).1
    simp only [he, detachAll]
    cases hd : e.detachFailure w with
    | some f =>
      dsimp only
      rw [ha]
      exact .stuck f hd
    | none =>
      by_cases hb : e.bound
      · have hr : e.retrack (some t) = e := by simp [Encoding.retrack, hb]
        simp only [attachBase, hr, if_pos hb]
        exact .attached fits hb hd
      · have hr : e.retrack (some t) = { e with track := some t } := by
          simp [Encoding.retrack, hb]
        have hw : e.detach w = w := by simp [Encoding.detach, hb]
        simp only [attachBase, hr, hw, if_neg hb]
        exact .put fits (eq_false_of_ne_true hb)

theorem sender_exchange (track : Option Track) (a : Sender) (w : Endpoint) :
    (a.exchange track w).sender =
      { a with encodings := (a.exchange track w).sender.encodings } := by
  dsimp only [exchange]
  split
  · rfl
  · split
    · rfl
    · simp only [attachBase]
      split
      · split <;> rfl
      · rfl

theorem sender_swapTrack (track : Option Track) (a : Sender) (w : Endpoint) :
    (a.swapTrack track w).sender =
      { a with encodings := (a.swapTrack track w).sender.encodings } := by
  simp only [swapTrack]
  split
  · rfl
  · exact sender_exchange track a w

theorem sender_stop (a : Sender) (w : Endpoint) :
    (a.stop w).sender =
      { a with lifecycle := a.lifecycle.stop, encodings := (a.stop w).sender.encodings } := by
  by_cases hs : a.lifecycle.canStop
  · by_cases hb : ∃ e ∈ a.encodings, e.bound
    · rw [stop_eq w hs hb, teardown_eq]
    · rw [stop_of_not_bound w hs hb]
  · have hl : a.lifecycle.hasStopped := by simpa [Lifecycle.canStop] using hs
    rw [stop, if_neg hs, Lifecycle.stop, if_pos hl]

end MediaSender.Sender
