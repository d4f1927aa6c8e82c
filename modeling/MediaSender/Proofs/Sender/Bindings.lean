import MediaSender.Proofs.Run.Frame
import MediaSender.Proofs.Sender.Teardown
/-!
The bindings of a track, and the payload type of its latest bind. Both change only when the track is
bound or unbound; a call that fails changes neither.
-/

namespace MediaSender

def Event.negotiated? (key : TrackKey) : Event → Option PayloadType
  | .trackBound key' _ (.ok codec) => if key' = key then some codec.payloadType else none
  | _ => none

def Event.ties (key : TrackKey) : Event → Bool
  | .trackBound key' _ (.ok _) | .trackUnbound key' _ _ (.ok _) => key' == key
  | _ => false

theorem Event.negotiated_of_ties {key : TrackKey} {e : Event} (h : e.ties key = false) :
    e.negotiated? key = none := by
  cases e with
  | trackBound key' c r =>
    cases r with
    | ok codec => exact if_neg (beq_eq_false_iff_ne.mp h)
    | error f => rfl
  | _ => rfl

namespace Endpoint

def bindings (key : TrackKey) (w : Endpoint) : List Binding := (w.tracks.entry key).bindings

def negotiated (key : TrackKey) (w : Endpoint) : Option PayloadType :=
  (w.trace.filterMap (Event.negotiated? key)).getLast?

structure SameTies (key : TrackKey) (w w' : Endpoint) : Prop where
  bindings : w'.bindings key = w.bindings key
  negotiated : w'.negotiated key = w.negotiated key

variable {key : TrackKey} {w w' w₁ w₂ w₃ : Endpoint}

theorem SameTies.refl (key : TrackKey) (w : Endpoint) : SameTies key w w := ⟨rfl, rfl⟩

theorem SameTies.trans (h : SameTies key w₁ w₂) (h' : SameTies key w₂ w₃) :
    SameTies key w₁ w₃ := ⟨h'.bindings.trans h.bindings, h'.negotiated.trans h.negotiated⟩

theorem negotiated_of_events {es : List Event} (ht : w'.trace = w.trace ++ es)
    (hes : ∀ e ∈ es, e.ties key = false) : w'.negotiated key = w.negotiated key := by
  have hn : es.filterMap (Event.negotiated? key) = [] :=
    List.filterMap_eq_nil_iff.mpr fun e he => Event.negotiated_of_ties (hes e he)
  rw [negotiated, ht, List.filterMap_append, hn, List.append_nil, ← negotiated]

theorem Untied.sameTies (h : Untied w w') (key : TrackKey) : SameTies key w w' := by
  obtain ⟨es, ht, hes⟩ := h.events
  refine ⟨by rw [Endpoint.bindings, h.tracks, ← Endpoint.bindings],
    negotiated_of_events ht fun e he => ?_⟩
  have hx := hes e he
  cases e with
  | trackBound => cases hx
  | trackUnbound => cases hx
  | _ => rfl

theorem bindings_bindTrack_ne {t : Track} (h : t.key ≠ key) (c : Context) (w : Endpoint) :
    (w.bindTrack t c).bindings key = w.bindings key :=
  congrArg TrackState.bindings (Table.entry_set_ne _ _ h.symm)

theorem bindings_unbindTrack_ne {t : Track} (h : t.key ≠ key) (c : Context) (w : Endpoint) :
    (w.unbindTrack t c).bindings key = w.bindings key :=
  congrArg TrackState.bindings (Table.entry_set_ne _ _ h.symm)

theorem sameTies_bindTrack_ne {t : Track} (h : t.key ≠ key) (c : Context) (w : Endpoint) :
    SameTies key w (w.bindTrack t c) := by
  refine ⟨bindings_bindTrack_ne h c w, negotiated_of_events (trace_emit _ _) ?_⟩
  refine List.forall_mem_singleton.mpr ?_
  cases w.bindResult t c with
  | ok codec => exact beq_eq_false_iff_ne.mpr h
  | error f => rfl

theorem track_bindTrack (t : Track) (c : Context) (w : Endpoint) :
    (w.bindTrack t c).track t = t.afterBind c (w.track t) := Table.entry_set_self _ _ _

theorem track_unbindTrack (t : Track) (c : Context) (w : Endpoint) :
    (w.unbindTrack t c).track t = t.afterUnbind c (w.track t) := Table.entry_set_self _ _ _

theorem bindTrack_fixed {t : Track} {c : Context} {codec : Codec} (fixed : t.isFixed)
    (h : w.bindResult t c = .ok codec) :
    (w.bindTrack t c).bindings t.key =
        w.bindings t.key ++ [⟨c.id, c.ssrc, codec.payloadType, c.gate⟩] ∧
      (w.bindTrack t c).negotiated t.key = some codec.payloadType := by
  constructor
  · change ((w.bindTrack t c).track t).bindings = _
    rw [track_bindTrack, Track.afterBind, show t.bindResult c (w.track t) = .ok codec from h]
    cases hs : t.source with
    | fixed format => rfl
    | custom => rw [Track.isFixed, hs] at fixed; cases fixed
  · rw [negotiated, bindTrack, trace_emit, List.filterMap_append, h, List.getLast?_append]
    simp [Event.negotiated?]

theorem unbindTrack_fixed {t : Track} (fixed : t.isFixed) (c : Context) (w : Endpoint) :
    (w.unbindTrack t c).bindings t.key = (w.bindings t.key).eraseP (Binding.isFor c) := by
  change ((w.unbindTrack t c).track t).bindings = _
  rw [track_unbindTrack, Track.afterUnbind]
  cases hs : t.source with
  | fixed format => rfl
  | custom => rw [Track.isFixed, hs] at fixed; cases fixed

theorem bindings_bindTrack_of_custom {t : Track} (h : ¬ t.isFixed) (c : Context) (w : Endpoint) :
    (w.bindTrack t c).bindings t.key = w.bindings t.key := by
  change ((w.bindTrack t c).track t).bindings = _
  rw [track_bindTrack, Track.afterBind]
  cases hs : t.source with
  | fixed format => exact absurd (by rw [Track.isFixed, hs]) h
  | custom => rfl

theorem bindings_unbindTrack_of_custom {t : Track} (h : ¬ t.isFixed) (c : Context)
    (w : Endpoint) : (w.unbindTrack t c).bindings t.key = w.bindings t.key := by
  change ((w.unbindTrack t c).track t).bindings = _
  rw [track_unbindTrack, Track.afterUnbind]
  cases hs : t.source with
  | fixed format => exact absurd (by rw [Track.isFixed, hs]) h
  | custom => rfl

theorem bindings_of_failed_bind {t : Track} {c : Context} {f : Failure}
    (h : w.bindResult t c = .error f) : (w.bindTrack t c).bindings t.key = w.bindings t.key := by
  change ((w.bindTrack t c).track t).bindings = _
  rw [track_bindTrack, Track.afterBind, show t.bindResult c (w.track t) = .error f from h]
  cases t.source <;> rfl

theorem bindings_of_failed_unbind {t : Track} {c : Context} {f : Failure}
    (h : w.unbindResult t c = .error f) :
    (w.unbindTrack t c).bindings t.key = w.bindings t.key := by
  change ((w.unbindTrack t c).track t).bindings = _
  rw [track_unbindTrack, Track.afterUnbind]
  cases hs : t.source with
  | fixed format =>
    rw [unbindResult, Track.unbindResult, hs] at h
    dsimp only at h
    split at h
    · cases h
    · rename_i hn
      refine List.eraseP_of_forall_not fun b hb hc => hn ?_
      exact List.any_eq_true.mpr ⟨b, hb, hc⟩
  | custom => rfl

theorem Change.bindings_of_events {free closes : StreamId → Prop} (h : Change free closes w w')
    (hes : ∀ e ∈ eventsSince w w', e.ties key = false) : w'.bindings key = w.bindings key := by
  have same : w'.tracks = w.tracks → w'.bindings key = w.bindings key := fun ht => by
    rw [bindings, ht, ← bindings]
  cases h with
  | surroundings streams gates tracks => exact same tracks
  | notes => rfl
  | bindTrack t =>
    rename_i c _
    by_cases hk : t.key = key
    · have hadded : (w.bindTrack t c).trace =
          w.trace ++ [.trackBound t.key c.view (w.bindResult t c)] := rfl
      rw [eventsSince_eq hadded] at hes
      -- A bind that succeeds would be one of the events that are excluded.
      cases hr : w.bindResult t c with
      | ok codec =>
        rw [hr] at hes
        have hkey : (t.key == key) = false := hes _ (List.mem_singleton_self _)
        exact absurd hk (beq_eq_false_iff_ne.mp hkey)
      | error f => exact hk ▸ bindings_of_failed_bind hr
    · exact bindings_bindTrack_ne hk c w
  | unbindTrack t c =>
    by_cases hk : t.key = key
    · have hadded : (w.unbindTrack t c).trace =
          w.trace ++ [.trackUnbound t.key c.id c.ssrc (w.unbindResult t c)] := rfl
      rw [eventsSince_eq hadded] at hes
      cases hr : w.unbindResult t c with
      | ok u =>
        rw [hr] at hes
        have hkey : (t.key == key) = false := hes _ (List.mem_singleton_self _)
        exact absurd hk (beq_eq_false_iff_ne.mp hkey)
      | error f => exact hk ▸ bindings_of_failed_unbind hr
    · exact bindings_unbindTrack_ne hk c w
  | addGate => rfl
  | resolve g => exact same (tracks_resolve g _ w)
  | tend => rfl
  | finishOpen => exact same (sameRest_finishOpen _ _).tracks
  | shut => exact same (sameRest_shut _ _).tracks
  | transmit => rfl
  | take => rfl
  | close => exact same (sameRest_closeStream _ _).tracks

theorem eventsSince_split (h : w₁.trace <+: w₂.trace) (h' : w₂.trace <+: w₃.trace) :
    eventsSince w₁ w₃ = eventsSince w₁ w₂ ++ eventsSince w₂ w₃ := by
  obtain ⟨es, hes⟩ := h
  obtain ⟨es', hes'⟩ := h'
  rw [eventsSince_eq hes.symm, eventsSince_eq hes'.symm]
  exact eventsSince_eq (by rw [← hes', ← hes, List.append_assoc])

theorem Builds.bindings_of_events {free closes : StreamId → Prop} (h : Builds free closes w w')
    (hes : ∀ e ∈ eventsSince w w', e.ties key = false) : w'.bindings key = w.bindings key := by
  induction h with
  | refl => rfl
  | tail hw h ih =>
    rename_i w₁ w₂
    have he : w₁.trace <+: w₂.trace := h.elim (fun h => h.extends.trace) fun h => h.extends.trace
    rw [eventsSince_split (Builds.extends hw).trace he, List.forall_mem_append] at hes
    refine Eq.trans ?_ (ih hes.1)
    rcases h with h | h
    · exact h.bindings_of_events hes.2
    · cases h <;> rfl

end Endpoint

end MediaSender
