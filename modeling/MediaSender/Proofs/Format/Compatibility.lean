import MediaSender.Proofs.Format.Lines
/-!
Compatible format parameters. Two lines are compatible if they are both of redundant audio and list
the same blocks, or if neither is, their media types are the same and so is the value of every key
that both of them have, all but for ASCII case. The relation is symmetric and reflexive, and where
no key stands twice in a line the order of its segments does not matter.
-/

namespace MediaSender

theorem Ascii.same_congr {a a' b b' : String} (ha : same a a' = true) (hb : same b b' = true) :
    same a b = same a' b' := by
  rw [same_iff] at ha hb
  rw [same, same, ha, hb]

namespace FormatParameters

open Text

def segmentKeys (line : String) : List String := (pairsOf line).map Prod.fst

variable {mime mime' other other' line line' key value : String}
  {pairs others : List (String × String)}

theorem mem_of_valueIn (h : valueIn pairs key = some value) : (key, value) ∈ pairs := by
  obtain ⟨before, _, after, rfl, rfl, -⟩ := valueIn_eq_some_iff.mp h
  exact List.mem_append_right _ List.mem_cons_self

theorem valueIn_eq_some_iff_mem (distinct : (pairs.map Prod.fst).Nodup) :
    valueIn pairs key = some value ↔ (key, value) ∈ pairs := by
  refine ⟨mem_of_valueIn, fun mem => ?_⟩
  obtain ⟨before, after, rfl⟩ := List.append_of_mem mem
  -- as the keys are distinct, no later pair has this one
  rw [List.map_append, List.map_cons, List.nodup_append, List.nodup_cons] at distinct
  exact valueIn_eq_some_iff.mpr ⟨before, key, after, rfl, rfl,
    fun p hp same => distinct.2.1.1 (List.mem_map.mpr ⟨p, hp, same⟩)⟩

theorem valueIn_perm (h : pairs.Perm others) (distinct : (pairs.map Prod.fst).Nodup) :
    valueIn pairs key = valueIn others key := by
  have distinct' : (others.map Prod.fst).Nodup := (h.map Prod.fst).nodup_iff.mp distinct
  refine Option.ext fun value => ?_
  rw [valueIn_eq_some_iff_mem distinct, valueIn_eq_some_iff_mem distinct', h.mem_iff]

theorem agree_iff : agree pairs others ↔ ∀ key value value', valueIn pairs key = some value →
    valueIn others key = some value' → Ascii.same value value' := by
  rw [agree, List.all_eq_true]
  constructor
  · intro agree key value value' hvalue hvalue'
    have same := agree (key, value) (mem_of_valueIn hvalue)
    simp only [hvalue, hvalue'] at same
    rwa [Ascii.same_comm]
  · rintro agree ⟨key, _⟩ -
    dsimp only
    split
    · rename_i hvalue hvalue'
      rw [Ascii.same_comm]
      exact agree key _ _ hvalue hvalue'
    · rfl

theorem agree_symm (h : agree pairs others) : agree others pairs := by
  refine agree_iff.mpr fun key value value' hvalue hvalue' => ?_
  rw [Ascii.same_comm]
  exact agree_iff.mp h key value' value hvalue' hvalue

theorem agree_comm (pairs others : List (String × String)) :
    agree pairs others = agree others pairs :=
  Bool.eq_iff_iff.mpr ⟨agree_symm, agree_symm⟩

theorem agree_self (pairs : List (String × String)) : agree pairs pairs = true := by
  refine agree_iff.mpr fun key value value' hvalue hvalue' => ?_
  obtain rfl := Option.some.inj (hvalue.symm.trans hvalue')
  exact Ascii.same_refl value

theorem compatible_general : (general mime pairs).compatible (general mime' others) ↔
    Ascii.same mime mime' ∧ agree pairs others := by
  rw [compatible, agree_comm others pairs, Bool.and_assoc, Bool.and_self, Bool.and_eq_true]

theorem compatible_comm (p q : FormatParameters) : p.compatible q = q.compatible p := by
  cases p <;> cases q
  case general.general =>
    rw [Bool.eq_iff_iff, compatible_general, compatible_general, Ascii.same_comm, agree_comm]
  case redundant.redundant => exact Bool.beq_comm
  all_goals rfl

theorem compatible_self (p : FormatParameters) : p.compatible p = true := by
  cases p with
  | general mime pairs => exact compatible_general.mpr ⟨Ascii.same_refl mime, agree_self pairs⟩
  | redundant blocks => exact beq_self_eq_true blocks

theorem blocksOf_eq_iff : blocksOf line = blocksOf line' ↔
    (split '/' line.toList).map trim = (split '/' line'.toList).map trim := by
  have blocks (line : String) :
      blocksOf line = ((split '/' line.toList).map trim).map String.ofList := by
    rw [blocksOf, List.map_map]
    rfl
  rw [blocks, blocks]
  exact (List.map_injective_iff.mpr fun _ _ => String.ofList_injective).eq_iff

theorem compatible_parse_iff : (parse mime line).compatible (parse mime' line') ↔
    (Ascii.same mime Mime.red ∧ Ascii.same mime' Mime.red ∧
      (split '/' line.toList).map trim = (split '/' line'.toList).map trim) ∨
    (¬ Ascii.same mime Mime.red ∧ ¬ Ascii.same mime' Mime.red ∧ Ascii.same mime mime' ∧
      ∀ key value value', (parse mime line).lookup key = some value →
        (parse mime' line').lookup key = some value' → Ascii.same value value') := by
  simp only [parse]
  -- each of the two lines is of redundant audio or not
  split <;> split <;> rename_i red red'
  · simp [compatible, red, red', blocksOf_eq_iff]
  · simp [compatible, red, red']
  · simp [compatible, red, red']
  · rw [compatible_general, agree_iff]
    simp [red, red', lookup]

theorem same_of_compatible (h : (parse mime line).compatible (parse mime' line')) :
    Ascii.same mime' mime := by
  rw [Ascii.same_comm]
  rcases compatible_parse_iff.mp h with ⟨red, red', -⟩ | ⟨-, -, same, -⟩
  · exact Ascii.same_trans red (by rwa [Ascii.same_comm])
  · exact same

theorem compatible_congr (h : Ascii.same mime mime' = true) (h' : Ascii.same other other' = true) :
    (parse mime line).compatible (parse other line') =
      (parse mime' line).compatible (parse other' line') := by
  simp only [parse]
  rw [Ascii.same_congr h (Ascii.same_refl Mime.red), Ascii.same_congr h' (Ascii.same_refl Mime.red)]
  split <;> split
  · rfl
  · rfl
  · rfl
  · simp only [compatible, Ascii.same_congr h h']

theorem not_compatible_of_red (red : Ascii.same mime Mime.red)
    (general : ¬ Ascii.same mime' Mime.red) :
    ¬ (parse mime line).compatible (parse mime' line') := by
  rw [compatible_parse_iff]
  rintro (⟨-, red', -⟩ | ⟨general', -⟩)
  · exact general red'
  · exact general' red

theorem lookup_eq_of_perm (general : ¬ Ascii.same mime Mime.red)
    (general' : ¬ Ascii.same mime' Mime.red)
    (reordered : (split ';' line'.toList).Perm (split ';' line.toList))
    (distinct : (segmentKeys line).Nodup) (key : String) :
    (parse mime' line').lookup key = (parse mime line).lookup key := by
  rw [parse, parse, if_neg general, if_neg general']
  exact (valueIn_perm (reordered.symm.filterMap segment?) distinct).symm

theorem compatible_of_perm (general : ¬ Ascii.same mime Mime.red) (same : Ascii.same mime mime')
    (reordered : (split ';' line'.toList).Perm (split ';' line.toList))
    (distinct : (segmentKeys line).Nodup) :
    (parse mime line).compatible (parse mime' line') := by
  have general' : ¬ Ascii.same mime' Mime.red := mt (Ascii.same_trans same) general
  refine compatible_parse_iff.mpr (.inr ⟨general, general', same, ?_⟩)
  intro key value value' hvalue hvalue'
  rw [lookup_eq_of_perm general general' reordered distinct, hvalue] at hvalue'
  rw [Option.some.inj hvalue']
  exact Ascii.same_refl value'

/-- Two descriptions are compatible if both are of redundant audio with the same blocks, or neither
is and they agree in their media types and in the values of the keys that both have. Each is
compatible with itself and with every other order of its segments if their keys are distinct, and
none of redundant audio with one that is not. -/
theorem compatibility_is_agreement (mime mime' line line' : String) :
    ((parse mime line).compatible (parse mime' line') ↔
      (Ascii.same mime Mime.red ∧ Ascii.same mime' Mime.red ∧
        (split '/' line.toList).map trim = (split '/' line'.toList).map trim) ∨
      (¬ Ascii.same mime Mime.red ∧ ¬ Ascii.same mime' Mime.red ∧ Ascii.same mime mime' ∧
        ∀ key value value', (parse mime line).lookup key = some value →
          (parse mime' line').lookup key = some value' → Ascii.same value value')) ∧
    (parse mime line).compatible (parse mime' line') =
      (parse mime' line').compatible (parse mime line) ∧
    (parse mime line).compatible (parse mime line) ∧
    (¬ Ascii.same mime Mime.red → Ascii.same mime mime' →
      (split ';' line'.toList).Perm (split ';' line.toList) → (segmentKeys line).Nodup →
      (parse mime line).compatible (parse mime' line')) ∧
    (Ascii.same mime Mime.red → ¬ Ascii.same mime' Mime.red →
      ¬ (parse mime line).compatible (parse mime' line') ∧
        ¬ (parse mime' line').compatible (parse mime line)) := by
  refine ⟨compatible_parse_iff, compatible_comm _ _, compatible_self _, compatible_of_perm,
    fun red general => ?_⟩
  have apart : ¬ (parse mime line).compatible (parse mime' line') :=
    not_compatible_of_red red general
  exact ⟨apart, by rwa [compatible_comm]⟩

theorem reordered_lines_agree :
    let mime := "video/H264"
    let mime' := "VIDEO/h264"
    let line := "packetization-mode=1; profile-level-id=42E01f;"
    let line' := "; profile-level-id=42E01f;packetization-mode=1"
    (¬ Ascii.same mime Mime.red ∧ Ascii.same mime mime' ∧
      (split ';' line'.toList).Perm (split ';' line.toList) ∧ (segmentKeys line).Nodup ∧
      (parse mime line).compatible (parse mime' line')) ∧
    Ascii.same "AUDIO/red" Mime.red ∧ ¬ Ascii.same Mime.opus Mime.red ∧
      ¬ (parse "AUDIO/red" "111/111").compatible (parse Mime.opus "111/111") ∧
      ¬ (parse Mime.opus "111/111").compatible (parse "AUDIO/red" "111/111") := by
  intro mime mime' line line'
  have general : ¬ Ascii.same mime Mime.red := by decide +kernel
  have same : Ascii.same mime mime' := by decide +kernel
  have reordered : (split ';' line'.toList).Perm (split ';' line.toList) := by decide +kernel
  have distinct : (segmentKeys line).Nodup := by decide +kernel
  have red : Ascii.same "AUDIO/red" Mime.red := by decide +kernel
  have opus : ¬ Ascii.same Mime.opus Mime.red := by decide +kernel
  obtain ⟨-, -, -, orders, -⟩ := compatibility_is_agreement mime mime' line line'
  obtain ⟨-, -, -, -, apart⟩ := compatibility_is_agreement "AUDIO/red" Mime.opus "111/111" "111/111"
  exact ⟨⟨general, same, reordered, distinct, orders general same reordered distinct⟩,
    red, opus, apart red opus⟩

/-- The order matters where a key stands twice, as the last segment of a key wins. -/
example : ¬ (parse Mime.vp9 "profile-id=0;Profile-ID=1").compatible
    (parse Mime.vp9 "Profile-ID=1;profile-id=0") := by
  decide +kernel

end FormatParameters

end MediaSender
