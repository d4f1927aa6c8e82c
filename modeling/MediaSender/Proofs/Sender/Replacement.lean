import MediaSender.Proofs.Sender.Companions
import MediaSender.Proofs.Sender.OwnBindings
/-!
A new track in place of an old one, all or nothing. The old track is unbound before the new one is
bound, and if that fails it is bound again. It then chooses the codec that it had before, so that it
has the bindings that it had; and if all goes well, one binding has passed from track to track.
-/

namespace MediaSender

open Endpoint

/-- The track of an encoding, if there is one, loses the only binding that it has for it, and
another track gains one that differs in its payload type alone. -/
def PassesOn (e : Encoding) (t : Track) (w w' : Endpoint) : Prop :=
  ∃ new, w.payloadTypeOf t = some new ∧
    match e.track with
    | none => ∀ key,
      (w'.bindings key).Perm (w.bindings key ++ t.only key (e.context.binding new))
    | some o => ∃ old, w.boundAs e.context.label o.key = [e.context.binding old] ∧ ∀ key,
      (w'.bindings key ++ o.only key (e.context.binding old)).Perm
        (w.bindings key ++ t.only key (e.context.binding new))

namespace Sender

variable {a : Sender} {e : Encoding} {t : Track} {l : Lifecycle} {w : Endpoint} {key : TrackKey}
  {f : Failure}

theorem encoding_of_failed_attach (h : (attach a t e w).outcome = .error f) :
    (attach a t e w).encoding = e := by
  dsimp only [attach] at h ⊢
  split at h
  · rfl
  · cases h

theorem sender_of_failed_swap (hn : a.encodings ≠ [])
    (h : (a.swapTrack (some t) w).outcome = .error f) :
    (a.swapTrack (some t) w).sender = a := by
  rw [swapTrack] at h ⊢
  split at h
  · rw [if_pos ‹_›]
  · rw [if_neg ‹_›]
    cases hcheck : a.swapFailure (some t) with
    | some f' => rw [exchange, hcheck]
    | none =>
      obtain ⟨e, he⟩ := singleton_of_swapFailure hn hcheck
      have hr := replaced t he w
      generalize a.exchange (some t) w = r at h hr
      cases hr with
      | refused => rfl
      | stuck => rfl
      | put => cases h
      | attached =>
        rw [encoding_of_failed_attach h, ← he]

theorem streams_attach (a : Sender) (t : Track) (e : Encoding) (w : Endpoint) :
    (attach a t e w).endpoint.streams = w.streams := by
  dsimp only [attach]
  split
  · simp only [restore]
    split
    · rfl
    · split <;> rfl
  · rfl

theorem streams_swapTrack (track : Option Track) (a : Sender) (w : Endpoint) :
    (a.swapTrack track w).endpoint.streams = w.streams := by
  have hd := (detachAll_rest track a.encodings w).1
  rw [swapTrack]
  split
  · rfl
  · dsimp only [exchange]
    split
    · rfl
    · split
      · exact hd
      · simp only [attachBase]
        split
        · split
          · exact (streams_attach _ _ _ _).trans hd
          · exact hd
        · exact hd

theorem perm_detach (h : e.Accounted e.context.label l w) (key : TrackKey) :
    (w.bindings key).Perm ((e.detach w).bindings key ++ e.kept key) := by
  have hkept := h.kept key
  simp only [Encoding.detach]
  split
  · rename_i t hb ht
    rw [e.kept_of_track hb ht] at hkept ⊢
    rw [granted_of_label] at hkept
    rw [bindings_unbindTrack]
    split
    · have hone := t.length_granted_le key e.context
      rw [← hkept] at hone ⊢
      exact perm_eraseP_append hone
    · rw [Track.granted_eq_nil ‹_›, List.append_nil]
  · rename_i hn
    rw [Encoding.kept_eq_nil hn, List.append_nil]

theorem bindings_of_failed_exchange (he : a.encodings = [e])
    (h : e.Accounted e.context.label l w) (failed : (a.exchange (some t) w).outcome = .error f)
    (key : TrackKey) :
    ((a.exchange (some t) w).endpoint.bindings key).Perm (w.bindings key) := by
  have hr := replaced t he w
  generalize a.exchange (some t) w = r at failed hr
  cases hr with
  | refused => exact .refl _
  | stuck f failure => exact .of_eq (Encoding.bindings_of_detachFailure failure key)
  | put => cases failed
  | attached fits bound =>
    have hsame := encoding_of_failed_attach failed
    rw [bindings_attach bound, hsame]
    exact (perm_detach h key).symm

theorem kept_attach (bound : e.bound) (fixed : t.isFixed)
    (ok : (attach a t e w).outcome = .ok ()) :
    ∃ new, w.payloadTypeOf t = some new ∧
      ∀ key, (attach a t e w).encoding.kept key = t.only key (e.context.binding new) := by
  dsimp only [attach] at ok ⊢
  split at ok
  · cases ok
  · rename_i codec hr
    have hchoice : t.choice (w.capabilities.codecs t.kind) = some codec :=
      Track.choice_of_bindResult fixed hr
    refine ⟨codec.payloadType, by rw [payloadTypeOf, hchoice]; rfl, fun key => ?_⟩
    rw [kept_withTrack bound hr]
    exact Track.granted_of_choice (c := e.contextFor t w) hchoice key

theorem passesOn_exchange (he : a.encodings = [e]) (h : e.Accounted e.context.label l w)
    (bound : e.bound) (fixed : t.isFixed) (fixed' : ∀ o, e.track = some o → o.isFixed)
    (ok : (a.exchange (some t) w).outcome = .ok ()) :
    PassesOn e t w (a.exchange (some t) w).endpoint := by
  have hr := replaced t he w
  generalize a.exchange (some t) w = r at ok hr
  cases hr with
  | refused => cases ok
  | stuck => cases ok
  | put fits free => exact absurd (free.symm.trans bound) Bool.false_ne_true
  | attached =>
    obtain ⟨new, htype, hnew⟩ := kept_attach bound fixed ok
    have hcapabilities : (e.detach w).capabilities = w.capabilities :=
      (steady_setup.detach e w).capabilities
    -- The old binding goes and the new one comes, on whichever tracks that is.
    have hall : ∀ key, ((attach a t e (e.detach w)).endpoint.bindings key ++ e.kept key).Perm
        (w.bindings key ++ t.only key (e.context.binding new)) := fun key => by
      rw [bindings_attach bound, hnew, List.append_assoc]
      refine (List.perm_append_comm.append_left _).trans ?_
      rw [← List.append_assoc]
      exact (perm_detach h key).symm.append_right _
    rw [payloadTypeOf_of_capabilities hcapabilities] at htype
    refine ⟨new, htype, ?_⟩
    split
    · rename_i hnone
      intro key
      have hkey := hall key
      rwa [Encoding.kept_of_no_track hnone, List.append_nil] at hkey
    · rename_i o ho
      obtain ⟨codec, hchoice⟩ := h.chosen bound o ho (fixed' o ho)
      have hkept : ∀ key, e.kept key = o.only key (e.context.binding codec.payloadType) :=
        fun key => (e.kept_of_track bound ho key).trans (Track.granted_of_choice hchoice key)
      refine ⟨codec.payloadType, ?_, fun key => hkept key ▸ hall key⟩
      rw [h.kept, e.kept_of_track bound ho, granted_of_label, Track.granted_of_choice hchoice,
        Track.only, if_pos rfl]

end Sender

namespace Session

open Sender

variable {σ : Session} {m : Move} {k : SenderKey} {t : Track}

/-- A new track for a sender takes the place of the old one, or else nothing changes. While the
sender sends and nobody else uses its label, a failure leaves each track with the bindings that it
had, and a success passes one binding on. -/
theorem swap_is_all_or_nothing (fresh : σ.Fresh) (ms : List Move)
    (action : (σ.after ms).action? m = some (k, .swapTrack (some t))) :
    let τ := σ.after ms
    let τ' := (τ.act m).1
    let a := τ.sender k
    (∀ f, (τ.act m).2 = .answered (.outcome (.error f)) →
      τ'.sender k = a ∧ τ'.endpoint.streams = τ.endpoint.streams) ∧
    (a.lifecycle = .sending → (∀ e ∈ a.encodings, Reserves (a.id, e.ssrc) k ms σ) →
      (∀ f, (τ.act m).2 = .answered (.outcome (.error f)) →
        ∀ key, (τ'.endpoint.bindings key).Perm (τ.endpoint.bindings key)) ∧
      (t.isFixed → (∀ o, a.baseTrack = some o → o.isFixed) →
        (τ.act m).2 = .answered (.outcome (.ok ())) →
          ∃ e, a.encodings = [e] ∧ e.context.label = (a.id, e.ssrc) ∧
            PassesOn e t τ.endpoint τ'.endpoint)) := by
  intro τ τ' a
  have born := action_lt (fresh.sound.after ms) action
  have hn : a.encodings ≠ [] := encodings_ne_nil (fresh.enveloped.after fresh.sound ms k born)
  have hendpoint : τ'.endpoint = (a.swapTrack (some t) τ.endpoint).endpoint := endpoint_act action
  refine ⟨fun f hf => ⟨?_, ?_⟩, fun sending reserved => ?_⟩
  · rw [sender_act action]
    exact sender_of_failed_swap hn (outcome_of_answer action hf)
  · rw [hendpoint]
    exact streams_swapTrack (some t) a τ.endpoint
  have hswap : a.swapTrack (some t) τ.endpoint = a.exchange (some t) τ.endpoint := by
    rw [swapTrack, sending, if_neg (by decide)]
  rw [hswap] at hendpoint
  have answered : ∀ {r : Outcome Unit}, (τ.act m).2 = .answered (.outcome r) →
      (a.exchange (some t) τ.endpoint).outcome = r := fun hr =>
    hswap ▸ outcome_of_answer action hr
  -- With more than one encoding, no new track is let in.
  cases hcheck : a.swapFailure (some t) with
  | some f' =>
    have hrefused : a.exchange (some t) τ.endpoint = ⟨a, τ.endpoint, .error f'⟩ := by
      rw [exchange, hcheck]
    rw [hrefused] at hendpoint answered
    exact ⟨fun f _ key => hendpoint ▸ .refl _, fun _ _ ok => by cases answered ok⟩
  | none =>
    obtain ⟨e, he⟩ := singleton_of_swapFailure hn hcheck
    have hmem : e ∈ a.encodings := he ▸ List.mem_cons_self
    have sent : a.lifecycle.hasSent := by
      rw [sending]
      rfl
    obtain ⟨_, _, _, _, hfed⟩ := fed_after fresh.numbered (by rw [fresh.sender_eq k]) ms sent
    obtain ⟨c, -, fed⟩ := hfed 0 e (by rw [show (τ.sender k).encodings = [e] from he]; rfl)
    have hlabel : e.context.label = (a.id, e.ssrc) :=
      Prod.ext_iff.mpr (labelled_after fresh ms k e hmem fed.bound)
    have haccount : e.Accounted e.context.label a.lifecycle τ.endpoint := by
      rw [hlabel]
      exact (accounted_after fresh ms (reserved e hmem)).born (by rw [sending]; rfl) e he
    rw [hendpoint]
    refine ⟨fun f hf => bindings_of_failed_exchange he haccount (answered hf),
      fun fixed fixed' ok => ⟨e, he, hlabel, ?_⟩⟩
    refine passesOn_exchange he haccount fed.bound fixed (fun o ho => fixed' o ?_) (answered ok)
    rw [baseTrack, base, he]
    exact ho

def swapSession : Session :=
  { typeSession with
    directory :=
      { tracks := [("a", typeTrack 0 Mime.vp8), ("c", typeTrack 1 Mime.vp8),
          ("d", typeTrack 2 Mime.av1)] } }

theorem swaps_of_two_tracks :
    let τ := swapSession.after (sendMoves "a")
    let failed := (τ.act (swapMove (some "d"))).1
    let swapped := (τ.act (swapMove (some "c"))).1
    (τ.sender 0).lifecycle = .sending ∧ (τ.endpoint.bindings 0).length = 1 ∧
      failed.sender 0 = τ.sender 0 ∧
      (∀ key, (failed.endpoint.bindings key).Perm (τ.endpoint.bindings key)) ∧
      ∃ e, (τ.sender 0).encodings = [e] ∧
        PassesOn e (typeTrack 1 Mime.vp8) τ.endpoint swapped.endpoint := by
  intro τ failed swapped
  have fresh : swapSession.Fresh := ⟨rfl, rfl, rfl, rfl, rfl, rfl, rfl, rfl⟩
  have sending : (τ.sender 0).lifecycle = .sending := by decide +kernel
  have size : τ.roster.senders.size = 1 := by decide +kernel
  have reserved : ∀ e ∈ (τ.sender 0).encodings,
      Reserves ((τ.sender 0).id, e.ssrc) 0 (sendMoves "a") swapSession := by
    refine fun e _ => ⟨fun j hj hne => ?_, fun y hy ties => ?_⟩
    · have hlt : j < 1 := size ▸ hj
      exact absurd (Nat.lt_one_iff.mp hlt) hne
    · rcases List.mem_cons.mp hy with rfl | hy
      · cases ties
      · cases List.mem_singleton.mp hy
        cases ties
  obtain ⟨hkept, hfailed⟩ :=
    swap_is_all_or_nothing fresh (sendMoves "a") (m := swapMove (some "d")) (k := 0) rfl
  obtain ⟨-, hswapped⟩ :=
    swap_is_all_or_nothing fresh (sendMoves "a") (m := swapMove (some "c")) (k := 0) rfl
  have hf : (τ.act (swapMove (some "d"))).2 = .answered (.outcome (.error .unsupportedCodec)) := rfl
  have hok : (τ.act (swapMove (some "c"))).2 = .answered (.outcome (.ok ())) := rfl
  obtain ⟨e, he, -, passes⟩ := (hswapped sending reserved).2 rfl (fun o ho => by cases ho; rfl) hok
  exact ⟨sending, by decide +kernel, (hkept _ hf).1, (hfailed sending reserved).1 _ hf, e, he,
    passes⟩

end Session

end MediaSender
