import MediaSender.Proofs.Sender.OneSender
/-!
What a stop leaves behind. The first stop takes back and closes what the encodings hold, and that is
all that was handed to the layers as long as no start has bound an encoding again.
-/

namespace MediaSender

/-- All that was handed to the layers was taken back, and can be written to no more. -/
structure Endpoint.Balanced (w : Endpoint) : Prop where
  released : (w.handed.map (·.2)).Perm w.released
  closed : ∀ p ∈ w.handed, (w.stream p.1).closed

open Endpoint

namespace Sender

variable {a : Sender} {w : Endpoint} {n : Nat} {lost : List Entry}

def Unbinds (a : Sender) (w : Endpoint) : Prop :=
  (detachAll none a.encodings (w.log .trace ("sender " ++ a.id ++ " stopped"))).failure = none

theorem unbinds_of_events (hs : a.lifecycle.canStop) (hb : ∃ e ∈ a.encodings, e.bound)
    (h : ∀ e ∈ (a.stop w).endpoint.trace, e.unbindFailure? = none) : a.Unbinds w := by
  obtain ⟨es, ht, hf, -⟩ := stop_events (w := w) hs hb rfl
  have hn : es.filterMap Event.unbindFailure? = [] :=
    List.filterMap_eq_nil_iff.mpr fun e he => h e (ht ▸ List.mem_append_right _ he)
  rw [hf] at hn
  exact Option.toList_eq_nil_iff.mp hn

theorem unbinds_of_ok (hs : a.lifecycle.canStop) (hb : ∃ e ∈ a.encodings, e.bound)
    (h : (a.stop w).outcome = .ok ()) : a.Unbinds w := by
  rw [stop_eq w hs hb, teardown_eq] at h
  dsimp only at h
  refine Option.eq_none_iff_forall_ne_some.mpr fun f hf => ?_
  rw [hf] at h
  cases h

theorem stop_takes_back (hs : a.lifecycle.canStop)
    (hu : (∃ e ∈ a.encodings, e.bound) → a.Unbinds w) :
    (a.stop w).endpoint.released = w.released ++ a.held.map (·.description) ∧
      ∀ b ∈ a.held, ((a.stop w).endpoint.stream b.stream).closed := by
  by_cases hb : ∃ e ∈ a.encodings, e.bound
  · have hn := hu hb
    unfold Unbinds at hn
    obtain ⟨es, ht, -, hr, -⟩ := stop_events (w := w) hs hb rfl
    rw [if_pos hn] at hr
    refine ⟨by rw [released, ht, List.filterMap_append, hr, ← released], fun b hb' => ?_⟩
    rw [(stop_of_detached hs hb rfl hn).1]
    exact closed_releaseAll a.id hb' _
  · have hh : a.held = [] := List.flatMap_eq_nil_iff.mpr fun e he => if_neg fun h => hb ⟨e, he, h⟩
    have hlog := hands_log .trace ("sender " ++ a.id ++ " stopped") w
    rw [stop_of_not_bound w hs hb, hh]
    exact ⟨hlog.released.trans (List.append_nil _).symm, List.forall_mem_nil _⟩

theorem Ledger.stop_balanced_iff (h : Ledger n lost a.encodings w) (hs : a.lifecycle.canStop)
    (hu : (∃ e ∈ a.encodings, e.bound) → a.Unbinds w) :
    (a.stop w).endpoint.Balanced ↔ n ≤ 1 := by
  obtain ⟨hr, hc⟩ := stop_takes_back hs hu
  have hh := handed_stop a w
  have hp := h.handed
  rw [h.released, List.nil_append] at hr
  rw [entries_eq_held] at hp
  rw [← h.lost]
  constructor
  · -- The stop releases what is held, so a lost stream would show in the number of releases.
    intro hb
    have hl := hb.released.length_eq
    have hl' := hp.length_eq
    rw [hr, hh, List.length_map, List.length_map] at hl
    rw [List.length_append, List.length_map] at hl'
    exact List.length_eq_zero_iff.mp (by omega)
  · rintro rfl
    rw [List.append_nil] at hp
    constructor
    · have hm := hp.map Prod.snd
      rw [List.map_map] at hm
      rw [hh, hr]
      exact hm
    · intro p hp'
      rw [hh] at hp'
      obtain ⟨b, hb, rfl⟩ := List.mem_map.mp (hp.mem_iff.mp hp')
      exact hc b hb

end Sender

namespace Session

open Sender

/-- A run of one sender up to its first stop, in which no unbind fails: all that was handed to the
layers is taken back and closed exactly if at most one start has bound something. -/
theorem stop_balances_iff {σ : Session} (fresh : σ.Fresh) {name track : String} {t : Track}
    (known : σ.directory.tracks.lookup track = some t) {ms : List Move}
    (moves : ∀ m ∈ ms, m.creates = false) {τ τ' : Session}
    (run : (σ.withSender name track).after ms = τ) (first : τ.only.lifecycle.canStop)
    (stop : τ.stopped name = τ') (unbinds : ∀ e ∈ τ'.endpoint.trace, e.unbindFailure? = none) :
    τ'.endpoint.Balanced ↔ rounds ms (σ.withSender name track) ≤ 1 := by
  obtain ⟨ho, lost, hl⟩ := fresh.ledger name known moves run first
  subst stop
  rw [stopped, act_stop ho] at unbinds ⊢
  exact hl.stop_balanced_iff first fun hb => unbinds_of_events first hb unbinds

def lateTrack : Track :=
  { key := 1, rid := "h", id := "v", streamId := "m"
    source := .custom .video
      (fun n _ => if n = 0 then .error .unsupportedCodec else .ok ⟨{ mimeType := Mime.vp8 }, 96⟩)
      fun _ => .ok () }

def lateSession : Session :=
  { directory := { tracks := [("q", vp8Track 0 "q" (.ok ())), ("h", lateTrack)] } }

def tries (n : Nat) : List Move :=
  .issue (.sender "s" (.extend (some "h"))) ::
    List.replicate n (.issue (.sender "s" (.start none none)))

theorem stop_balances_one_try :
    let τ := (lateSession.withSender "s" "q").after (tries 1)
    lateSession.Fresh ∧ τ.only.lifecycle = .idle ∧ τ.endpoint.handed.length = 1 ∧
      (τ.stopped "s").endpoint.Balanced := by
  have h : lateSession.Fresh := fresh_of_tracks rfl _
  refine ⟨h, by decide, by decide, ?_⟩
  exact (stop_balances_iff h rfl (by decide) rfl (by decide) rfl (by decide)).mpr (by decide)

/-- The start is tried again and binds the first encoding a second time: the streams that it bound
before are never taken back. -/
theorem stop_loses_bound_streams :
    let τ := (lateSession.withSender "s" "q").after (tries 2)
    let τ' := τ.stopped "s"
    lateSession.Fresh ∧ τ.only.lifecycle = .sending ∧
      (∀ e ∈ τ'.endpoint.trace, e.unbindFailure? = none) ∧
      (∀ ssrc, τ'.endpoint.transport.failure ssrc .close = none) ∧ ¬ τ'.endpoint.Balanced := by
  refine ⟨fresh_of_tracks rfl _, by decide, by decide, fun _ => rfl, ?_⟩
  intro h
  exact absurd h.released.length_eq (by decide)

end Session

end MediaSender
