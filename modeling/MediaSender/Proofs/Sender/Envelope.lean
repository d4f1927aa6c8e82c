import MediaSender.Proofs.Run.Course
import MediaSender.Proofs.Sender.Outcomes
import Mathlib.Data.List.ReduceOption
/-!
The tracks of a sender fit together. Encodings are added at the end, and only for a track that
differs from the base track in its RID; tracks are taken away from the first encoding on, and a new
track is put only into a sender with a single encoding.
-/

namespace MediaSender

structure Simulcast (ts : List Track) : Prop where
  named : ∀ t ∈ ts, t.ridText ≠ ""
  distinct : (ts.map Track.ridText).Nodup
  id : ∀ t ∈ ts, ∀ t' ∈ ts, t.id = t'.id
  streamId : ∀ t ∈ ts, ∀ t' ∈ ts, t.streamId = t'.streamId

theorem Simulcast.sublist {ts ts' : List Track} (h : Simulcast ts) (hs : ts'.Sublist ts) :
    Simulcast ts' where
  named t ht := h.named t (hs.subset ht)
  distinct := h.distinct.sublist (hs.map _)
  id t ht t' ht' := h.id t (hs.subset ht) t' (hs.subset ht')
  streamId t ht t' ht' := h.streamId t (hs.subset ht) t' (hs.subset ht')

theorem simulcast_singleton {t : Track} (h : t.ridText ≠ "") : Simulcast [t] where
  named := List.forall_mem_singleton.mpr h
  distinct := List.pairwise_singleton _ _
  id := by simp
  streamId := by simp

theorem Simulcast.append {ts : List Track} {b t : Track} (h : Simulcast ts) (hb : b ∈ ts)
    (envelope : Sender.sameEnvelope b t) (rid : t.ridText ≠ "")
    (free : ∀ t' ∈ ts, t'.ridText ≠ t.ridText) : Simulcast (ts ++ [t]) := by
  simp only [Sender.sameEnvelope, Bool.and_eq_true, beq_iff_eq] at envelope
  obtain ⟨⟨hid, hstream⟩, -⟩ := envelope
  have id : ∀ t' ∈ ts ++ [t], t'.id = b.id := by
    intro t' ht'
    rcases List.mem_append.mp ht' with ht' | ht'
    · exact h.id t' ht' b hb
    · rw [List.mem_singleton.mp ht', hid]
  have streamId : ∀ t' ∈ ts ++ [t], t'.streamId = b.streamId := by
    intro t' ht'
    rcases List.mem_append.mp ht' with ht' | ht'
    · exact h.streamId t' ht' b hb
    · rw [List.mem_singleton.mp ht', hstream]
  constructor
  · exact List.forall_mem_append.mpr ⟨h.named, List.forall_mem_singleton.mpr rid⟩
  · rw [List.map_append, List.nodup_append]
    refine ⟨h.distinct, List.pairwise_singleton _ _, fun r hr r' hr' => ?_⟩
    obtain ⟨t', ht', rfl⟩ := List.mem_map.mp hr
    rw [List.mem_singleton.mp hr']
    exact free t' ht'
  · exact fun t₁ h₁ t₂ h₂ => (id t₁ h₁).trans (id t₂ h₂).symm
  · exact fun t₁ h₁ t₂ h₂ => (streamId t₁ h₁).trans (streamId t₂ h₂).symm

/-- What holds of the tracks of a sender's encodings; an encoding may have none. -/
structure Envelope (kind : MediaKind) (ts : List (Option Track)) : Prop where
  nonempty : ts ≠ []
  kind : ∀ t, some t ∈ ts → t.kind = kind
  simulcast : 2 ≤ ts.length → Simulcast ts.reduceOption
  complete : ∀ b, ts.head? = some (some b) → none ∉ ts

namespace Sender

open Endpoint

def tracks (a : Sender) : List (Option Track) := a.encodings.map (·.track)

inductive Retracks (kind : MediaKind) : List (Option Track) → List (Option Track) → Prop
  | same (ts : List (Option Track)) : Retracks kind ts ts
  | detach (ts : List (Option Track)) {n : Nat} (le : n ≤ ts.length) :
      Retracks kind ts (List.replicate n none ++ ts.drop n)
  | replace (x : Option Track) (t : Track) (fits : t.kind = kind) : Retracks kind [x] [some t]

variable {kind : MediaKind} {ts ts' : List (Option Track)} {a : Sender} {w : Endpoint}

theorem Retracks.length (h : Retracks kind ts ts') : ts'.length = ts.length := by
  cases h with
  | same => rfl
  | detach ts le => simp only [List.length_append, List.length_replicate, List.length_drop]; omega
  | replace => rfl

theorem Retracks.envelope (h : Retracks kind ts ts') (he : Envelope kind ts) :
    Envelope kind ts' := by
  have hlen := h.length
  cases h with
  | same => exact he
  | @detach _ n le =>
    constructor
    · intro hn
      rw [hn] at hlen
      exact he.nonempty (List.length_eq_zero_iff.mp hlen.symm)
    · intro t ht
      rcases List.mem_append.mp ht with ht | ht
      · exact absurd (List.eq_of_mem_replicate ht) (Option.some_ne_none t)
      · exact he.kind t (List.mem_of_mem_drop ht)
    · intro h2
      have hs : (List.replicate n none ++ ts.drop n).reduceOption.Sublist ts.reduceOption := by
        rw [List.reduceOption_append, List.reduceOption_replicate_none, List.nil_append]
        exact (List.drop_sublist n ts).filterMap _
      exact (he.simulcast (hlen ▸ h2)).sublist hs
    · intro b hb
      -- A base that still has its track is the sign that nothing was detached.
      cases n with
      | zero =>
        rw [List.replicate_zero, List.nil_append, List.drop_zero] at hb ⊢
        exact he.complete b hb
      | succ n => cases hb
  | replace x t fits => exact ⟨by simp, by simp [fits], by simp, by simp⟩

theorem base_of_extendFailure {t : Track} (h : a.extendFailure t = none) :
    ∃ b ts, a.tracks = some b :: ts ∧ b.ridText ≠ "" ∧ sameEnvelope b t ∧ t.ridText ≠ "" ∧
      ∀ t', some t' ∈ a.tracks → t'.ridText ≠ t.ridText := by
  simp only [extendFailure] at h
  split at h
  · cases h
  · rename_i hrid
    split at h
    · cases h
    · split at h
      · cases h
      · split at h
        · cases h
        · rename_i b hb
          split at h
          · cases h
          · rename_i henvelope
            split at h
            · cases h
            · rename_i hfree
              obtain ⟨hbase, hname⟩ := Option.filter_eq_some_iff.mp hb
              obtain ⟨e, he, htrack⟩ := Option.bind_eq_some_iff.mp hbase
              obtain ⟨es, hes⟩ := List.head?_eq_some_iff.mp he
              refine ⟨b, es.map (·.track), ?_, by simpa using hname, by simpa using henvelope, hrid,
                fun t' ht' hr => hfree ?_⟩
              · rw [tracks, hes, List.map_cons, htrack]
              · obtain ⟨e', he', ht'⟩ := List.mem_map.mp ht'
                refine List.any_eq_true.mpr ⟨e', he', ?_⟩
                simp [Encoding.carries, Encoding.rid, ht', hr]

theorem envelope_append {t : Track} (h : Envelope a.kind a.tracks)
    (check : a.extendFailure t = none) (w : Endpoint) :
    Envelope a.kind (a.append t w).1.tracks := by
  obtain ⟨b, ts, hts, hname, henvelope, hrid, hfree⟩ := base_of_extendFailure check
  have hnew : (a.append t w).1.tracks = a.tracks ++ [some t] := List.map_append
  have hkind : b.kind = t.kind := by
    simp only [sameEnvelope, Bool.and_eq_true, beq_iff_eq] at henvelope
    exact henvelope.2
  have hb : b ∈ a.tracks.reduceOption := List.reduceOption_mem_iff.mpr (by simp [hts])
  have hall : Simulcast a.tracks.reduceOption := by
    cases ts with
    | nil => simpa [hts] using simulcast_singleton hname
    | cons t' ts' => exact h.simulcast (by simp [hts])
  rw [hnew]
  constructor
  · simp
  · intro t' ht'
    rcases List.mem_append.mp ht' with ht' | ht'
    · exact h.kind t' ht'
    · cases List.mem_singleton.mp ht'
      rw [← hkind]
      exact h.kind b (by simp [hts])
  · intro _
    rw [List.reduceOption_append]
    exact hall.append hb henvelope hrid fun t' ht' =>
      hfree t' (List.reduceOption_mem_iff.mp ht')
  · intro b' _ hn
    rcases List.mem_append.mp hn with hn | hn
    · exact h.complete b (by simp [hts]) hn
    · cases List.mem_singleton.mp hn

theorem envelope_first (t : Track) (id : String) (w : Endpoint) :
    Envelope t.kind (append t { id, kind := t.kind } w).1.tracks where
  nonempty := List.cons_ne_nil _ _
  kind t' ht' := by
    cases List.mem_singleton.mp ht'
    rfl
  simulcast h := absurd h (Nat.not_succ_le_self 1)
  complete b _ hn := nomatch List.mem_singleton.mp hn

theorem track_startEncoding (l : Launch) (e : Encoding) (c : Coding) (w : Endpoint) :
    (startEncoding l e c w).encoding.track = e.track := by
  have h := encodingStarted l e c w
  generalize startEncoding l e c w = r at h
  cases h <;> rfl

theorem tracks_startAll (l : Launch) (es : List Encoding) (cs : List Coding) (w : Endpoint) :
    (startAll l es cs w).encodings.map (·.track) = es.map (·.track) := by
  induction es generalizing cs w with
  | nil => rfl
  | cons e es ih =>
    cases cs with
    | nil => rfl
    | cons c cs =>
      cases h : (startEncoding l e c w).outcome with
      | error f => rw [startAll_error h, List.map_cons, List.map_cons, track_startEncoding]
      | ok payloadType => rw [startAll_ok h, List.map_cons, List.map_cons, track_startEncoding, ih]

theorem tracks_start (p : SendParameters) (a : Sender) (w : Endpoint) :
    (a.start p w).sender.tracks = a.tracks ∧ (a.start p w).sender.kind = a.kind := by
  have h := launched p a w
  generalize a.start p w = r at h
  cases h with
  | refused => exact ⟨rfl, rfl⟩
  | failed f r check all =>
    rw [← all]
    exact ⟨tracks_startAll _ _ _ _, rfl⟩
  | sent payloadType r check all =>
    rw [← all]
    exact ⟨tracks_startAll _ _ _ _, rfl⟩

theorem track_retrack_none (e : Encoding) : (e.retrack none).track = none := by
  simp [Encoding.retrack]

theorem tracks_detachAll (es : List Encoding) (w : Endpoint) :
    ∃ n ≤ es.length, (detachAll none es w).encodings.map (·.track) =
      List.replicate n none ++ (es.map (·.track)).drop n := by
  induction es generalizing w with
  | nil => exact ⟨0, Nat.le_refl 0, rfl⟩
  | cons e es ih =>
    dsimp only [detachAll]
    split
    · exact ⟨0, Nat.zero_le _, rfl⟩
    · obtain ⟨n, hn, htracks⟩ := ih (e.detach w)
      refine ⟨n + 1, Nat.succ_le_succ hn, ?_⟩
      rw [List.map_cons, track_retrack_none, htracks]
      rfl

theorem retracks_detachAll (kind : MediaKind) (es : List Encoding) (w : Endpoint) :
    Retracks kind (es.map (·.track)) ((detachAll none es w).encodings.map (·.track)) := by
  obtain ⟨n, hn, htracks⟩ := tracks_detachAll es w
  rw [htracks]
  exact .detach _ (by rwa [List.length_map])

theorem track_attach (a : Sender) (t : Track) (e : Encoding) (w : Endpoint) :
    (attach a t e w).encoding.track = e.track ∨ (attach a t e w).encoding.track = some t := by
  simp only [attach]
  split
  · exact .inl rfl
  · exact .inr rfl

theorem singleton_of_swapFailure {t : Track} (hn : a.encodings ≠ [])
    (h : a.swapFailure (some t) = none) : ∃ e, a.encodings = [e] := by
  have hpos := List.length_pos_iff.mpr hn
  have hlen := (kind_of_swapFailure h).2
  exact List.length_eq_one_iff.mp (by omega)

theorem retracks_replaced {t : Track} {e : Encoding} {r : Result} (he : a.encodings = [e])
    (h : Replaced t a e w r) : Retracks a.kind a.tracks r.sender.tracks := by
  cases h with
  | refused => exact .same _
  | stuck => exact .same _
  | put fits =>
    simp only [tracks, he, List.map_cons, List.map_nil]
    exact .replace _ t fits
  | attached fits =>
    simp only [tracks, he, List.map_cons, List.map_nil]
    rcases track_attach a t e (e.detach w) with hx | hx
    · rw [hx]
      exact .same _
    · rw [hx]
      exact .replace _ t fits

theorem retracks_swapTrack (track : Option Track) (hn : a.encodings ≠ []) (w : Endpoint) :
    Retracks a.kind a.tracks (a.swapTrack track w).sender.tracks := by
  simp only [swapTrack]
  split
  · exact .same _
  · cases track with
    | none =>
      rw [exchange_none]
      exact retracks_detachAll a.kind _ w
    | some t =>
      cases hcheck : a.swapFailure (some t) with
      | some f =>
        rw [exchange, hcheck]
        exact .same _
      | none =>
        obtain ⟨e, he⟩ := singleton_of_swapFailure hn hcheck
        exact retracks_replaced he (replaced t he w)

theorem retracks_stop (a : Sender) (w : Endpoint) :
    Retracks a.kind a.tracks (a.stop w).sender.tracks := by
  by_cases hs : a.lifecycle.canStop
  · by_cases hb : ∃ e ∈ a.encodings, e.bound
    · rw [stop_eq w hs hb, teardown_eq]
      exact retracks_detachAll a.kind _ _
    · rw [stop_of_not_bound w hs hb]
      exact .same _
  · rw [stop, if_neg hs]
    exact .same _

inductive Reshapes (a : Sender) (w : Endpoint) (b : Sender) : Prop
  | retracked (tracks : Retracks a.kind a.tracks b.tracks)
  | added (t : Track) (check : a.extendFailure t = none) (sender : b = (a.append t w).1)

theorem reshapes_act (x : Action) (hn : a.encodings ≠ []) (w : Endpoint) :
    (a.act x w).sender.kind = a.kind ∧ Reshapes a w (a.act x w).sender := by
  cases x with
  | extend track =>
    have h : Extended track a w (a.act (.extend track) w) := extended track a w
    generalize a.act (.extend track) w = r at h
    cases h with
    | refused f check => exact ⟨rfl, .retracked (.same _)⟩
    | added t given check => exact ⟨rfl, .added t check rfl⟩
  | swapTrack track =>
    have hs : (a.act (.swapTrack track) w).sender = _ := sender_swapTrack track a w
    exact ⟨by rw [hs], .retracked (retracks_swapTrack track hn w)⟩
  | start p =>
    obtain ⟨ht, hk⟩ := tracks_start p a w
    refine ⟨hk, .retracked ?_⟩
    change Retracks a.kind a.tracks (a.start p w).sender.tracks
    rw [ht]
    exact .same _
  | stop =>
    have hs : (a.act .stop w).sender = _ := sender_stop a w
    exact ⟨by rw [hs], .retracked (retracks_stop a w)⟩

def GrowsAtEnd (es es' : List Encoding) : Prop :=
  es'.length = es.length ∨ ∃ e, es' = es ++ [e]

theorem Reshapes.envelope {b : Sender} (h : Reshapes a w b) (he : Envelope a.kind a.tracks) :
    Envelope a.kind b.tracks := by
  cases h with
  | retracked tracks => exact tracks.envelope he
  | added t check sender =>
    rw [sender]
    exact envelope_append he check w

theorem Reshapes.growsAtEnd {b : Sender} (h : Reshapes a w b) :
    GrowsAtEnd a.encodings b.encodings := by
  cases h with
  | retracked tracks =>
    have hlen := tracks.length
    simp only [Sender.tracks, List.length_map] at hlen
    exact .inl hlen
  | added t check sender => exact .inr ⟨_, congrArg Sender.encodings sender⟩

end Sender

namespace Session

open Endpoint Sender

variable {σ : Session}

def Enveloped (σ : Session) : Prop :=
  ∀ k < σ.roster.senders.size, Envelope (σ.sender k).kind (σ.sender k).tracks

theorem encodings_ne_nil {a : Sender} (h : Envelope a.kind a.tracks) : a.encodings ≠ [] :=
  fun hn => h.nonempty (congrArg (List.map _) hn)

theorem Enveloped.act (h : σ.Enveloped) (hσ : σ.Sound) (m : Move) : (σ.act m).1.Enveloped := by
  intro k hk
  have hc := course m σ
  cases hc.becomes k with
  | acted x action sender =>
    have he := h k (action_lt hσ action)
    obtain ⟨hkind, hs⟩ := reshapes_act x (encodings_ne_nil he) σ.endpoint
    rw [sender, hkind]
    exact hs.envelope he
  | stayed action sender born =>
    obtain ⟨n, t, hs⟩ := sender
    rw [hs]
    exact h k (born hk)
  | made t action number sender =>
    rw [sender]
    exact envelope_first t _ _

theorem Fresh.enveloped (h : σ.Fresh) : σ.Enveloped := by
  intro k hk
  rw [h.senders] at hk
  exact absurd hk (Nat.not_lt_zero k)

theorem Enveloped.after (h : σ.Enveloped) (hσ : σ.Sound) (ms : List Move) :
    (σ.after ms).Enveloped := by
  induction ms generalizing σ with
  | nil => exact h
  | cons m ms ih => exact ih (h.act hσ m) (hσ.act m)

theorem growsAtEnd_act (h : σ.Enveloped) (m : Move) {k : SenderKey}
    (hk : k < σ.roster.senders.size) :
    GrowsAtEnd (σ.sender k).encodings ((σ.act m).1.sender k).encodings := by
  cases (course m σ).becomes k with
  | acted x action sender =>
    rw [sender]
    exact (reshapes_act x (encodings_ne_nil (h k hk)) σ.endpoint).2.growsAtEnd
  | stayed action sender =>
    obtain ⟨n, t, hs⟩ := sender
    exact .inl (by rw [hs])
  | made t action number => exact absurd (number ▸ hk) (Nat.lt_irrefl _)

def goneTrack : Track :=
  { key := 1, rid := "h", id := "v", streamId := "m"
    source := .custom .video (fun _ _ => .error .trackRemoved) fun _ => .ok () }

def goneSession : Session :=
  { directory := { tracks := [("q", vp8Track 0 "q" (.ok ())), ("h", goneTrack)] } }

def twoLayers : List Move :=
  [.issue (.sender "s" (.create (some "q") true)), .issue (.sender "s" (.extend (some "h")))]

def launchMove : Move := .issue (.sender "s" (.start none none))

def swapMove (track : Option String) : Move := .issue (.sender "s" (.swapTrack track))

end Session

end MediaSender
