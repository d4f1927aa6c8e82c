import MediaSender.Proofs.Capabilities.Registrations
/-!
Identifiers of header extensions. A URI gets the next identifier when it is registered first, and
keeps it. So the identifiers that are given out are 1, 2, … in order of registration, and once
fourteen URIs have one, no further URI gets any.
-/

namespace MediaSender

namespace Capabilities

variable {t : Capabilities} {uri : String} {k : MediaKind} {d : Option Direction} {f : Failure}
  {r : Registered}

theorem mayRegister_eq_false_iff :
    mayRegister d = false ↔ d = some .unspecified ∨ d = some .inactive := by
  rcases d with _ | _ | _ | _ | _ | _ <;> simp [mayRegister]

namespace Registers

variable (h : Registers uri k d t r)
include h

theorem misdirected_iff : r.outcome = .error .extensionDirection ↔ mayRegister d = false := by
  cases h <;> simp_all

theorem crowded_iff : r.outcome = .error .noFreeExtensionId ↔
    mayRegister d = true ∧ uri ∉ t.uris ∧ lastExtensionId ≤ t.extensions.length := by
  cases h with
  | misdirected direction => simp [direction]
  | crowded direction unknown full => simp [direction, unknown, full]
  | renewed direction known => simp [known]
  | offered direction unknown room => simp [Nat.not_le.mpr room]

theorem failure (error : r.outcome = .error f) :
    f = .extensionDirection ∨ f = .noFreeExtensionId := by
  cases h with
  | misdirected direction => exact .inl (Except.error.inj error).symm
  | crowded direction unknown full => exact .inr (Except.error.inj error).symm
  | renewed direction known => cases error
  | offered direction unknown room => cases error

theorem uris (ok : r.outcome = .ok ()) :
    r.left.uris = if uri ∈ t.uris then t.uris else t.uris ++ [uri] := by
  cases h with
  | misdirected direction => cases ok
  | crowded direction unknown full => cases ok
  | renewed direction known => rw [uris_renew, if_pos known]
  | offered direction unknown room => rw [uris_offer, if_neg unknown]

end Registers

def held (t : Capabilities) : List HeaderExtension := t.extensions.map (·.toParameters)

@[simp] theorem length_held (t : Capabilities) : t.held.length = t.extensions.length :=
  List.length_map _

theorem held_renew : (t.renew uri k d).held = t.held := by simp [held, renew]

theorem held_offer :
    (t.offer uri k d).held = t.held ++ [{ uri, id := t.held.length + 1 }] := by
  simp [held, offer, ExtensionOffer.update, ExtensionOffer.toParameters]

theorem held_act (r : Registration) (t : Capabilities) :
    (r.act t).held = t.held ∨ t.held.length < lastExtensionId ∧
      ∃ uri, (r.act t).held = t.held ++ [{ uri, id := t.held.length + 1 }] := by
  cases r with
  | codec c k => cases k <;> exact .inl rfl
  | defaults => exact .inl rfl
  | extension uri k d =>
    change (t.registerExtension uri k d).left.held = _ ∨
      _ ∧ ∃ _, (t.registerExtension uri k d).left.held = _
    have outcome := registers uri k d t
    generalize t.registerExtension uri k d = r at outcome ⊢
    cases outcome with
    | misdirected direction => exact .inl rfl
    | crowded direction unknown full => exact .inl rfl
    | renewed direction known => exact .inl held_renew
    | offered direction unknown room => exact .inr ⟨by rwa [length_held], uri, held_offer⟩

theorem held_prefix_after (rs : List Registration) (t : Capabilities) :
    t.held <+: (t.after rs).held := by
  induction rs using List.reverseRecOn with
  | nil => exact List.prefix_refl _
  | append_singleton rs r ih =>
    rw [after_snoc]
    rcases held_act r (t.after rs) with same | ⟨-, uri, added⟩
    · rwa [same]
    · rw [added]
      exact ih.trans (List.prefix_append _ _)

structure Numbered (t : Capabilities) : Prop where
  length_le : t.held.length ≤ lastExtensionId
  ids : t.held.map (·.id) = List.range' 1 t.held.length

theorem Numbered.act (h : Numbered t) (r : Registration) : Numbered (r.act t) := by
  rcases held_act r t with same | ⟨room, uri, added⟩
  · exact ⟨same ▸ h.length_le, same ▸ h.ids⟩
  · refine ⟨by rwa [added, List.length_append], ?_⟩
    rw [added, List.map_append, h.ids, List.length_append, List.length_singleton,
      List.range'_concat, Nat.one_mul, Nat.add_comm 1]
    rfl

theorem numbered_after (rs : List Registration) : Numbered (after {} rs) := by
  induction rs using List.reverseRecOn with
  | nil => exact ⟨Nat.zero_le _, rfl⟩
  | append_singleton rs r ih => exact after_snoc {} rs r ▸ ih.act r

theorem extensionsFor_sublist (t : Capabilities) (k : MediaKind) (d : Direction) :
    (t.extensionsFor k d).Sublist t.held := List.filter_sublist.map _

/-- After any registrations, at most fourteen extensions are held, each URI once, under the
identifiers 1, 2, … in order, and no later registration changes the identifier of a URI. A
registration fails for its direction, or because fourteen other URIs are held, and for nothing else;
it then leaves everything as it is, and otherwise its URI is held. What is reported for a kind and a
direction is some of what is held, in the same order. -/
theorem extension_ids_in_order (rs : List Registration) :
    let t := after {} rs
    (t.held.length ≤ 14 ∧ t.held.map (·.id) = List.range' 1 t.held.length ∧ t.uris.Nodup ∧
      ∀ more, t.held <+: (t.after more).held) ∧
    (∀ uri k d, let call := Registration.extension uri k d
      (call.result t = .error .extensionDirection ↔
        d = some .unspecified ∨ d = some .inactive) ∧
      (call.result t = .error .noFreeExtensionId ↔
        ¬ (d = some .unspecified ∨ d = some .inactive) ∧ uri ∉ t.uris ∧ t.uris.length = 14) ∧
      (∀ f, call.result t = .error f →
        (f = .extensionDirection ∨ f = .noFreeExtensionId) ∧ call.act t = t) ∧
      (call.result t = .ok () →
        (call.act t).uris = if uri ∈ t.uris then t.uris else t.uris ++ [uri])) ∧
    ∀ k d, (t.parameters k d).headerExtensions.Sublist t.held := by
  have numbered := numbered_after rs
  have length : (after {} rs).uris.length = (after {} rs).extensions.length := List.length_map _
  refine ⟨⟨numbered.length_le, numbered.ids, nodup_uris_after rs,
    fun more => held_prefix_after more _⟩, fun uri k d => ?_, extensionsFor_sublist _⟩
  have outcome := registers uri k d (after {} rs)
  refine ⟨outcome.misdirected_iff.trans mayRegister_eq_false_iff, ?_, fun f error => ?_,
    outcome.uris⟩
  · rw [← mayRegister_eq_false_iff, Bool.not_eq_false, length]
    refine outcome.crowded_iff.trans (and_congr_right fun _ => and_congr_right fun _ => ?_)
    exact ⟨Nat.le_antisymm (length_held _ ▸ numbered.length_le), fun full => Nat.le_of_eq full.symm⟩
  · exact ⟨outcome.failure error, act_of_error error⟩

/-- A full table refuses a new URI, and registers one again that it holds. -/
example :
    let full := after {} ((List.range 14).map fun n =>
      .extension ("urn:" ++ toString n) .video none)
    (Registration.extension "urn:14" .audio none).result full = .error .noFreeExtensionId ∧
      ((Registration.extension "urn:13" .audio none).act full).extensionsFor .audio .sendOnly =
        [{ uri := "urn:13", id := 14 }] := by
  decide +kernel

end Capabilities

end MediaSender
