import MediaSender.Capabilities
import Mathlib.Data.List.Induction
import Mathlib.Data.List.Nodup
/-!
Runs of registrations. A URI is offered once, however often it is registered, so what both kinds
know of it stands in one place. The direction does too: a call for one kind sets it for the other
kind as well, and the other kind can tell unless the direction is the one it had.
-/

namespace MediaSender

inductive Registration
  | codec (c : Codec) (k : MediaKind)
  | defaults
  | extension (uri : String) (k : MediaKind) (d : Option Direction)
  deriving DecidableEq, Repr

namespace Registration

def perform : Registration → Capabilities → Registered
  | codec c k, t => Capabilities.register c k t
  | defaults, t => { left := t.registerDefaults }
  | extension uri k d, t => Capabilities.registerExtension uri k d t

def result (r : Registration) (t : Capabilities) : Outcome Unit := (r.perform t).outcome

def act (r : Registration) (t : Capabilities) : Capabilities := (r.perform t).left

end Registration

namespace ExtensionOffer

variable (k : MediaKind) (d : Option Direction) (e : ExtensionOffer)

@[simp] theorem uri_update : (e.update k d).uri = e.uri := rfl

theorem servesKind_update {k j : MediaKind} (h : k ≠ j) :
    (e.update k d).servesKind j = e.servesKind j := by
  obtain ⟨_, _, a, v, _⟩ := e
  cases k <;> cases j <;> first | exact absurd rfl h | (cases a <;> cases v <;> rfl)

theorem servesDirection_congr {e e' : ExtensionOffer} (h : e.direction = e'.direction) :
    e.servesDirection = e'.servesDirection := by
  funext d
  simp [servesDirection, h]

theorem direction_eq_of_serves {e e' : ExtensionOffer}
    (h : ∀ d, e.servesDirection d = e'.servesDirection d) : e.direction = e'.direction := by
  have inactive := h .inactive
  have sends := h .sendOnly
  have receives := h .receiveOnly
  obtain ⟨_, _, _, _, a⟩ := e
  obtain ⟨_, _, _, _, b⟩ := e'
  rcases a with _ | _ | _ | _ | _ | _ <;> rcases b with _ | _ | _ | _ | _ | _ <;>
    simp +decide [servesDirection] at inactive sends receives ⊢

def renew (uri : String) : ExtensionOffer := if e.uri == uri then e.update k d else e

theorem renew_self : e.renew k d e.uri = e.update k d := by simp [renew]

theorem renew_of_ne {uri : String} (h : e.uri ≠ uri) : e.renew k d uri = e := by simp [renew, h]

@[simp] theorem uri_renew (uri : String) : (e.renew k d uri).uri = e.uri := by
  unfold renew; split <;> rfl

@[simp] theorem toParameters_renew (uri : String) :
    (e.renew k d uri).toParameters = e.toParameters := by unfold renew; split <;> rfl

end ExtensionOffer

namespace Capabilities

variable {t : Capabilities} {uri : String} {k j : MediaKind} {d : Option Direction}

def after (t : Capabilities) (rs : List Registration) : Capabilities :=
  rs.foldl (fun t r => r.act t) t

theorem after_snoc (t : Capabilities) (rs : List Registration) (r : Registration) :
    t.after (rs ++ [r]) = r.act (t.after rs) := by simp [after]

def uris (t : Capabilities) : List String := t.extensions.map (·.uri)

theorem any_uri_iff (t : Capabilities) (uri : String) :
    t.extensions.any (·.uri == uri) = true ↔ uri ∈ t.uris := by simp [uris]

def renew (uri : String) (k : MediaKind) (d : Option Direction) (t : Capabilities) : Capabilities :=
  { t with extensions := t.extensions.map (·.renew k d uri) }

def offer (uri : String) (k : MediaKind) (d : Option Direction) (t : Capabilities) : Capabilities :=
  { t with
    extensions :=
      t.extensions ++ [ExtensionOffer.update k d { id := t.extensions.length + 1, uri }] }

theorem uris_renew : (t.renew uri k d).uris = t.uris := by simp [uris, renew]

theorem uris_offer : (t.offer uri k d).uris = t.uris ++ [uri] := by simp [uris, offer]

theorem registerExtension_of_direction (h : mayRegister d = false) :
    t.registerExtension uri k d = ⟨.error .extensionDirection, t⟩ := by simp [registerExtension, h]

theorem registerExtension_of_known (h : mayRegister d = true) (known : uri ∈ t.uris) :
    t.registerExtension uri k d = ⟨.ok (), t.renew uri k d⟩ := by
  simp only [registerExtension, h, addExtension, (any_uri_iff t uri).mpr known]
  rfl

theorem registerExtension_of_full (h : mayRegister d = true) (unknown : uri ∉ t.uris)
    (full : lastExtensionId ≤ t.extensions.length) :
    t.registerExtension uri k d = ⟨.error .noFreeExtensionId, t⟩ := by
  have any := mt (any_uri_iff t uri).mp unknown
  simp only [registerExtension, h, addExtension, any, full]
  rfl

theorem registerExtension_of_room (h : mayRegister d = true) (unknown : uri ∉ t.uris)
    (room : t.extensions.length < lastExtensionId) :
    t.registerExtension uri k d = ⟨.ok (), t.offer uri k d⟩ := by
  have any := mt (any_uri_iff t uri).mp unknown
  simp only [registerExtension, h, addExtension, any, Nat.not_le.mpr room]
  rfl

inductive Registers (uri : String) (k : MediaKind) (d : Option Direction) (t : Capabilities) :
    Registered → Prop
  | misdirected (direction : mayRegister d = false) :
    Registers uri k d t ⟨.error .extensionDirection, t⟩
  | crowded (direction : mayRegister d = true) (unknown : uri ∉ t.uris)
    (full : lastExtensionId ≤ t.extensions.length) :
    Registers uri k d t ⟨.error .noFreeExtensionId, t⟩
  | renewed (direction : mayRegister d = true) (known : uri ∈ t.uris) :
    Registers uri k d t ⟨.ok (), t.renew uri k d⟩
  | offered (direction : mayRegister d = true) (unknown : uri ∉ t.uris)
    (room : t.extensions.length < lastExtensionId) : Registers uri k d t ⟨.ok (), t.offer uri k d⟩

theorem registers (uri : String) (k : MediaKind) (d : Option Direction) (t : Capabilities) :
    Registers uri k d t (t.registerExtension uri k d) := by
  cases may : mayRegister d with
  | false => exact registerExtension_of_direction may ▸ .misdirected may
  | true =>
    by_cases known : uri ∈ t.uris
    · exact registerExtension_of_known may known ▸ .renewed may known
    rcases Nat.lt_or_ge t.extensions.length lastExtensionId with room | full
    · exact registerExtension_of_room may known room ▸ .offered may known room
    · exact registerExtension_of_full may known full ▸ .crowded may known full

/-- A call that fails leaves the capabilities as they are. -/
theorem act_of_error {r : Registration} {f : Failure} (h : r.result t = .error f) :
    r.act t = t := by
  cases r with
  | codec c k =>
    cases k with
    | audio => cases h
    | video => cases h
    | unspecified => rfl
  | defaults => cases h
  | extension uri k d =>
    change (t.registerExtension uri k d).outcome = _ at h
    change (t.registerExtension uri k d).left = t
    have outcome := registers uri k d t
    generalize t.registerExtension uri k d = r at h outcome ⊢
    cases outcome with
    | misdirected direction => rfl
    | crowded direction unknown full => rfl
    | renewed direction known => cases h
    | offered direction unknown room => cases h

theorem act_extension (t : Capabilities) (uri : String) (k : MediaKind) (h : mayRegister d = true) :
    (uri ∈ t.uris ∧ (Registration.extension uri k d).act t = t.renew uri k d) ∨
      uri ∉ t.uris ∧ ((Registration.extension uri k d).act t = t ∨
        (Registration.extension uri k d).act t = t.offer uri k d) := by
  change (_ ∧ (t.registerExtension uri k d).left = _) ∨
    _ ∧ ((t.registerExtension uri k d).left = _ ∨ (t.registerExtension uri k d).left = _)
  have outcome := registers uri k d t
  generalize t.registerExtension uri k d = r at outcome ⊢
  cases outcome with
  | misdirected direction => exact absurd (h.symm.trans direction) (by decide)
  | crowded _ unknown full => exact .inr ⟨unknown, .inl rfl⟩
  | renewed _ known => exact .inl ⟨known, rfl⟩
  | offered _ unknown room => exact .inr ⟨unknown, .inr rfl⟩

theorem act_extension_of_direction (h : mayRegister d = false) :
    (Registration.extension uri k d).act t = t :=
  congrArg Registered.left (registerExtension_of_direction h)

theorem nodup_uris_act (r : Registration) (h : t.uris.Nodup) : (r.act t).uris.Nodup := by
  cases r with
  | codec c k => cases k <;> exact h
  | defaults => exact h
  | extension uri k d =>
    cases may : mayRegister d with
    | false => rwa [act_extension_of_direction may]
    | true =>
      obtain ⟨-, same⟩ | ⟨unknown, same | same⟩ := act_extension t uri k may
      · rwa [same, uris_renew]
      · rwa [same]
      · rw [same, uris_offer, List.nodup_append]
        exact ⟨h, List.nodup_singleton uri, by rintro a mem b single rfl; simp_all⟩

theorem nodup_uris_after (rs : List Registration) : (after {} rs).uris.Nodup := by
  induction rs using List.reverseRecOn with
  | nil => exact List.nodup_nil
  | append_singleton rs r ih => rw [after_snoc]; exact nodup_uris_act r ih

theorem mem_extensionsFor {d : Direction} {x : HeaderExtension} :
    x ∈ t.extensionsFor j d ↔
      ∃ e ∈ t.extensions, e.servesDirection d = true ∧ e.servesKind j = true ∧
        e.toParameters = x := by
  simp [extensionsFor, and_assoc]

theorem extensionsFor_offer (h : k ≠ j) (d' : Direction) :
    (t.offer uri k d).extensionsFor j d' = t.extensionsFor j d' := by
  have fresh : ({ id := t.extensions.length + 1, uri } : ExtensionOffer).servesKind j = false := rfl
  simp [extensionsFor, offer, List.filter_append, ExtensionOffer.servesKind_update d _ h, fresh]

/-- Whatever stands under the URI has for this kind the direction `d`, if it is offered to it. -/
def Agrees (uri : String) (j : MediaKind) (d : Option Direction) (t : Capabilities) : Prop :=
  ∀ e ∈ t.extensions, e.uri = uri → e.servesKind j = true → e.direction = d

instance : Decidable (t.Agrees uri j d) := inferInstanceAs (Decidable (∀ _ ∈ _, _))

theorem agrees_of_unknown (unknown : uri ∉ t.uris) : t.Agrees uri j d := fun e mem same _ =>
  absurd (List.mem_map.mpr ⟨e, mem, same⟩) unknown

theorem extensionsFor_renew (h : k ≠ j) (agrees : t.Agrees uri j d) (d' : Direction) :
    (t.renew uri k d).extensionsFor j d' = t.extensionsFor j d' := by
  have serves : ∀ e ∈ t.extensions, ((e.renew k d uri).servesDirection d' &&
      (e.renew k d uri).servesKind j) = (e.servesDirection d' && e.servesKind j) := by
    intro e mem
    by_cases same : e.uri = uri
    · subst same
      rw [ExtensionOffer.renew_self, ExtensionOffer.servesKind_update d e h]
      cases offered : e.servesKind j with
      | false => simp
      | true => rw [ExtensionOffer.servesDirection_congr (agrees e mem rfl offered).symm]
    · rw [ExtensionOffer.renew_of_ne k d e same]
  simp only [extensionsFor, renew, List.filter_map, List.map_map, Function.comp_def,
    ExtensionOffer.toParameters_renew]
  rw [List.filter_congr serves]

theorem agrees_of_extensionsFor_renew (h : k ≠ j) (distinct : t.uris.Nodup)
    (same : ∀ d', (t.renew uri k d).extensionsFor j d' = t.extensionsFor j d') :
    t.Agrees uri j d := by
  intro e mem isUri serves
  have renewed : e.update k d ∈ (t.renew uri k d).extensions :=
    List.mem_map.mpr ⟨e, mem, by rw [← isUri, ExtensionOffer.renew_self]⟩
  have only : ∀ e' ∈ t.extensions, e'.uri = uri → e' = e := fun e' mem' is' =>
    List.inj_on_of_nodup_map distinct mem' mem (is'.trans isUri.symm)
  refine (ExtensionOffer.direction_eq_of_serves fun d' => ?_ : (e.update k d).direction = _).symm
  rw [Bool.eq_iff_iff]
  constructor
  · intro serves'
    have shown : e.toParameters ∈ (t.renew uri k d).extensionsFor j d' :=
      mem_extensionsFor.mpr ⟨_, renewed, serves', by
        rwa [ExtensionOffer.servesKind_update d e h], rfl⟩
    rw [same, mem_extensionsFor] at shown
    obtain ⟨e', mem', serving, -, eq⟩ := shown
    rwa [only e' mem' ((congrArg HeaderExtension.uri eq).trans isUri)] at serving
  · intro serves'
    have shown : e.toParameters ∈ t.extensionsFor j d' :=
      mem_extensionsFor.mpr ⟨e, mem, serves', serves, rfl⟩
    rw [← same, mem_extensionsFor] at shown
    obtain ⟨e', mem', serving, -, eq⟩ := shown
    obtain ⟨e₀, mem₀, rfl⟩ := List.mem_map.mp mem'
    rw [ExtensionOffer.toParameters_renew] at eq
    rwa [only e₀ mem₀ ((congrArg HeaderExtension.uri eq).trans isUri), ← isUri,
      ExtensionOffer.renew_self] at serving

/-- Registering an extension for one kind leaves what another kind is told as it is, in every
direction, exactly if the call has no direction to set or sets the one that the other kind has. -/
theorem other_kind_undisturbed_iff (rs : List Registration) (uri : String) {k j : MediaKind}
    (h : k ≠ j) (d : Option Direction) :
    (∀ d', (((Registration.extension uri k d).act (after {} rs)).parameters j d').headerExtensions =
        ((after {} rs).parameters j d').headerExtensions) ↔
      mayRegister d = false ∨ (after {} rs).Agrees uri j d := by
  change (∀ d', ((Registration.extension uri k d).act (after {} rs)).extensionsFor j d' =
    (after {} rs).extensionsFor j d') ↔ _
  cases may : mayRegister d with
  | false => simp [act_extension_of_direction may]
  | true =>
    simp only [Bool.true_eq_false, false_or]
    obtain ⟨-, same⟩ | ⟨unknown, same | same⟩ := act_extension (after {} rs) uri k may
    · rw [same]
      exact ⟨agrees_of_extensionsFor_renew h (nodup_uris_after rs), extensionsFor_renew h⟩
    · rw [same]
      exact ⟨fun _ => agrees_of_unknown unknown, fun _ _ => rfl⟩
    · rw [same]
      exact ⟨fun _ => agrees_of_unknown unknown, fun _ => extensionsFor_offer h⟩

theorem other_kind_undisturbed :
    let before := after {} [.extension "urn:level" .audio none, .defaults]
    let call := Registration.extension "urn:level" .video none
    MediaKind.video ≠ .audio ∧ ∀ d', ((call.act before).parameters .audio d').headerExtensions =
      (before.parameters .audio d').headerExtensions :=
  ⟨by decide, (other_kind_undisturbed_iff [.extension "urn:level" .audio none, .defaults]
    "urn:level" (k := .video) (by decide) none).mpr (.inr (by decide))⟩

/-- A call for video takes an extension away from audio, although it succeeds. -/
theorem other_kind_disturbed :
    let before := after {} [.extension "urn:level" .audio (some .receiveOnly)]
    let call := Registration.extension "urn:level" .video (some .sendOnly)
    call.result before = .ok () ∧
      (before.parameters .audio .receiveOnly).headerExtensions = [{ uri := "urn:level", id := 1 }] ∧
      ((call.act before).parameters .audio .receiveOnly).headerExtensions = [] :=
  ⟨rfl, rfl, rfl⟩

end Capabilities

end MediaSender
