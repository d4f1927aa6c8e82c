import Mathlib.Data.List.Forall2
import MediaSender.FormatParameters
/-!
Lines of format parameters as they are written. The pairs of a line stand in it in order, each in a
segment of its own with blanks around it, and segments without a key may stand among them; the
blocks of redundant audio stand between slashes. A line is read back as what was written: a key has
the value of the last pair with that key in lower case, and the blocks are those that were written.
-/

namespace MediaSender.FormatParameters

open Text

def IsLast (fits : String → Prop) (pairs : List (String × String)) (value : String) : Prop :=
  ∃ before key after, pairs = before ++ (key, value) :: after ∧ fits key ∧
    ∀ p ∈ after, ¬ fits p.1

def lowerKey (key : String) : String := String.ofList (lowercase key.toList)

def pairText (key value : String) : List Char := key.toList ++ '=' :: value.toList

/-- A pair that can stand in a segment: no separator is part of it that would end the key or the
segment, and no blank at its ends that would be lost. -/
structure Writable (key value : String) : Prop where
  key_ne_empty : key ≠ ""
  key_free : ';' ∉ key.toList ∧ '=' ∉ key.toList
  value_free : ';' ∉ value.toList
  key_start : key.toList.head?.any isBlank = false
  value_end : value.toList.getLast?.any isBlank = false

instance (key value : String) : Decidable (Writable key value) :=
  decidable_of_iff (key ≠ "" ∧ (';' ∉ key.toList ∧ '=' ∉ key.toList) ∧ ';' ∉ value.toList ∧
      key.toList.head?.any isBlank = false ∧ value.toList.getLast?.any isBlank = false)
    ⟨fun ⟨nonempty, key, value, start, last⟩ => ⟨nonempty, key, value, start, last⟩,
      fun h => ⟨h.key_ne_empty, h.key_free, h.value_free, h.key_start, h.value_end⟩⟩

def Keyless (segment : List Char) : Prop :=
  Padded [] segment ∨ ∃ rest, ';' ∉ rest ∧ Padded ('=' :: rest) segment

/-- The segments hold the pairs, each with blanks around it, and segments without a key. -/
inductive Holds : List (List Char) → List (String × String) → Prop
  | nil : Holds [] []
  | keyless {segment segments pairs} (h : Keyless segment) (rest : Holds segments pairs) :
    Holds (segment :: segments) pairs
  | pair {segment segments key value pairs} (h : Padded (pairText key value) segment)
    (rest : Holds segments pairs) : Holds (segment :: segments) ((key, value) :: pairs)

def IsBlock (block : String) : Prop := trim block.toList = block.toList ∧ '/' ∉ block.toList

instance (block : String) : Decidable (IsBlock block) := inferInstanceAs (Decidable (_ ∧ _))

abbrev HoldsBlocks : List (List Char) → List String → Prop :=
  List.Forall₂ fun piece block => Padded block.toList piece

variable {mime key value : String} {pairs : List (String × String)} {segment : List Char}
  {segments pieces : List (List Char)} {blocks : List String}

theorem isLast_map {fits : String → Prop} (f : String → String) :
    IsLast fits (pairs.map (Prod.map f id)) value ↔
      IsLast (fun key => fits (f key)) pairs value := by
  constructor
  · rintro ⟨before, key, after, split, here, later⟩
    obtain ⟨before, rest, rfl, -, hrest⟩ := List.map_eq_append_iff.mp split
    obtain ⟨⟨key, value⟩, after, rfl, same, rfl⟩ := List.map_eq_cons_iff.mp hrest
    obtain ⟨rfl, rfl⟩ := Prod.mk.inj same
    exact ⟨before, key, after, rfl, here, fun p hp => later _ (List.mem_map_of_mem hp)⟩
  · rintro ⟨before, key, after, rfl, here, later⟩
    refine ⟨before.map (Prod.map f id), f key, after.map (Prod.map f id), by simp, here, ?_⟩
    exact List.forall_mem_map.mpr later

theorem valueIn_eq_some_iff : valueIn pairs key = some value ↔ IsLast (· = key) pairs value := by
  rw [valueIn, List.lookup_eq_some_iff]
  constructor
  · rintro ⟨later, earlier, split, others⟩
    refine ⟨earlier.reverse, key, later.reverse, ?_, rfl, fun p hp => ?_⟩
    · simpa using congrArg List.reverse split
    · exact Ne.symm (bne_iff_ne.mp (others p (List.mem_reverse.mp hp)))
  · rintro ⟨before, _, after, rfl, rfl, later⟩
    refine ⟨after.reverse, before.reverse, by simp, fun p hp => ?_⟩
    exact bne_iff_ne.mpr (Ne.symm (later p (List.mem_reverse.mp hp)))

theorem valueIn_eq_none_iff : valueIn pairs key = none ↔ ∀ p ∈ pairs, p.1 ≠ key := by
  simp only [valueIn, List.lookup_eq_none_iff, List.mem_reverse, bne_iff_ne, ne_comm]

theorem Writable.toList_key_ne_nil (h : Writable key value) : key.toList ≠ [] :=
  mt String.toList_eq_nil_iff.mp h.key_ne_empty

theorem Writable.notMem_pairText (h : Writable key value) : ';' ∉ pairText key value := by
  simp [pairText, h.key_free.1, h.value_free]

theorem Writable.trim_pairText (h : Writable key value) :
    trim (pairText key value) = pairText key value := by
  refine trim_of_ends ?_ ?_
  · rw [pairText, List.head?_append_of_ne_nil _ h.toList_key_ne_nil]
    exact h.key_start
  · rw [pairText, List.getLast?_append_cons, List.getLast?_cons]
    have value_end := h.value_end
    -- an empty value leaves the equals sign last
    cases found : value.toList.getLast? with
    | none => decide
    | some c => rwa [found] at value_end

theorem segment?_pair (h : Writable key value) (padded : Padded (pairText key value) segment) :
    segment? segment = some (lowerKey key, value) := by
  rw [segment?, trim_of_padded padded, h.trim_pairText, pairText, cut_append_cons h.key_free.2]
  split
  · rename_i keyless
    exact absurd (Prod.mk.inj keyless).1 h.toList_key_ne_nil
  · rename_i parts
    obtain ⟨rfl, rfl⟩ := Prod.mk.inj parts
    simp [lowerKey]

theorem segment?_keyless (h : Keyless segment) : segment? segment = none := by
  rcases h with blank | ⟨rest, -, padded⟩
  · rw [segment?, trim_of_padded blank]
    rfl
  · rw [segment?, trim_of_padded padded, trim_cons (by decide)]
    rfl

theorem notMem_keyless (h : Keyless segment) : ';' ∉ segment := by
  rcases h with blank | ⟨rest, free, padded⟩
  · exact notMem_of_padded blank (by decide) (by simp)
  · exact notMem_of_padded padded (by decide) (by simp [free])

theorem Holds.filterMap_segment? (h : Holds segments pairs)
    (writable : ∀ p ∈ pairs, Writable p.1 p.2) :
    segments.filterMap segment? = pairs.map (Prod.map lowerKey id) := by
  induction h with
  | nil => rfl
  | keyless h _ ih => rw [List.filterMap_cons_none (segment?_keyless h), ih writable]
  | pair h _ ih =>
    obtain ⟨first, others⟩ := List.forall_mem_cons.mp writable
    rw [List.filterMap_cons_some (segment?_pair first h), ih others]
    rfl

theorem Holds.notMem (h : Holds segments pairs) (writable : ∀ p ∈ pairs, Writable p.1 p.2) :
    ∀ segment ∈ segments, ';' ∉ segment := by
  induction h with
  | nil => simp
  | keyless h _ ih => exact List.forall_mem_cons.mpr ⟨notMem_keyless h, ih writable⟩
  | pair h _ ih =>
    obtain ⟨first, others⟩ := List.forall_mem_cons.mp writable
    exact List.forall_mem_cons.mpr
      ⟨notMem_of_padded h (by decide) first.notMem_pairText, ih others⟩

theorem pairsOf_join (free : ∀ segment ∈ segments, ';' ∉ segment) :
    pairsOf (String.ofList (join ';' segments)) = segments.filterMap segment? := by
  rw [pairsOf, String.toList_ofList]
  cases segments with
  | nil => rfl  -- an empty line is split into one blank segment
  | cons segment segments => rw [split_join (by simp) free]

theorem Holds.pairsOf_join (h : Holds segments pairs)
    (writable : ∀ p ∈ pairs, Writable p.1 p.2) :
    pairsOf (String.ofList (join ';' segments)) = pairs.map (Prod.map lowerKey id) := by
  rw [FormatParameters.pairsOf_join (h.notMem writable), h.filterMap_segment? writable]

theorem HoldsBlocks.map_trim (h : HoldsBlocks pieces blocks) (valid : ∀ b ∈ blocks, IsBlock b) :
    pieces.map (fun piece => String.ofList (trim piece)) = blocks := by
  induction h with
  | nil => rfl
  | cons padded _ ih =>
    obtain ⟨first, others⟩ := List.forall_mem_cons.mp valid
    rw [List.map_cons, trim_of_padded padded, first.1, String.ofList_toList, ih others]

theorem HoldsBlocks.notMem (h : HoldsBlocks pieces blocks) (valid : ∀ b ∈ blocks, IsBlock b) :
    ∀ piece ∈ pieces, '/' ∉ piece := by
  induction h with
  | nil => simp
  | cons padded _ ih =>
    obtain ⟨first, others⟩ := List.forall_mem_cons.mp valid
    exact List.forall_mem_cons.mpr ⟨notMem_of_padded padded (by decide) first.2, ih others⟩

theorem HoldsBlocks.blocksOf_join (h : HoldsBlocks pieces blocks) (nonempty : blocks ≠ [])
    (valid : ∀ b ∈ blocks, IsBlock b) : blocksOf (String.ofList (join '/' pieces)) = blocks := by
  have some_piece : pieces ≠ [] := by
    rintro rfl
    cases h
    exact nonempty rfl
  rw [blocksOf, String.toList_ofList, split_join some_piece (h.notMem valid), h.map_trim valid]

theorem lookup_redundant :
    (redundant blocks).lookup key = if key ∈ blocks then some key else none := by
  rw [lookup]
  cases found : blocks.find? (· == key) with
  | none =>
    have absent : key ∉ blocks := fun mem => by simpa using List.find?_eq_none.mp found key mem
    rw [if_neg absent]
  | some block =>
    obtain rfl : block = key := by simpa using List.find?_some found
    rw [if_pos (List.mem_of_find?_eq_some found)]

/-- A line is read back as the pairs that its segments hold, the last one of each key in lower case,
and a line of redundant audio as the blocks that stand between its slashes. -/
theorem written_line_reads_back :
    (∀ mime segments pairs, ¬ Ascii.same mime Mime.red → (∀ p ∈ pairs, Writable p.1 p.2) →
      Holds segments pairs → ∀ key,
      let found := (parse mime (String.ofList (join ';' segments))).lookup key
      (∀ value, found = some value ↔ IsLast (lowerKey · = key) pairs value) ∧
        (found = none ↔ ∀ p ∈ pairs, lowerKey p.1 ≠ key)) ∧
    ∀ mime pieces blocks, Ascii.same mime Mime.red → blocks ≠ [] → (∀ b ∈ blocks, IsBlock b) →
      HoldsBlocks pieces blocks →
      let p := parse mime (String.ofList (join '/' pieces))
      p = .redundant blocks ∧
        ∀ key, (p.lookup key = some key ↔ key ∈ blocks) ∧ (p.lookup key = none ↔ key ∉ blocks) := by
  constructor
  · intro mime segments pairs general writable holds key
    have read : parse mime (String.ofList (join ';' segments)) =
        .general mime (pairs.map (Prod.map lowerKey id)) := by
      rw [parse, if_neg general, holds.pairsOf_join writable]
    rw [read]
    exact ⟨fun value => valueIn_eq_some_iff.trans (isLast_map lowerKey),
      valueIn_eq_none_iff.trans List.forall_mem_map⟩
  · intro mime pieces blocks redundant nonempty valid holds
    have read : parse mime (String.ofList (join '/' pieces)) = .redundant blocks := by
      rw [parse, if_pos redundant, holds.blocksOf_join nonempty valid]
    refine ⟨read, fun key => ?_⟩
    simp only [read, lookup_redundant]
    split <;> simp [*]

/-- Keys that differ in their case, a value with an equals sign, and segments without a key. -/
theorem spaced_lines_read_back :
    let pairs := [("apt", "96"), ("Mode", "a=b"), ("APT", "97")]
    let segments := [[' '] ++ pairText "apt" "96" ++ ['\t'], [], ['=', 'x', ' '],
      ['\u00a0'] ++ pairText "Mode" "a=b", pairText "APT" "97"]
    let blocks := ["111", "", "112"]
    let pieces := ["111\t".toList, [' '], "\n112".toList]
    (¬ Ascii.same Mime.rtx Mime.red ∧ (∀ p ∈ pairs, Writable p.1 p.2) ∧ Holds segments pairs ∧
      (parse Mime.rtx (String.ofList (join ';' segments))).lookup "apt" = some "97") ∧
    Ascii.same "Audio/RED" Mime.red ∧ blocks ≠ [] ∧ (∀ b ∈ blocks, IsBlock b) ∧
      HoldsBlocks pieces blocks ∧
      parse "Audio/RED" (String.ofList (join '/' pieces)) = .redundant blocks := by
  intro pairs segments blocks pieces
  have general : ¬ Ascii.same Mime.rtx Mime.red := by decide +kernel
  have writable : ∀ p ∈ pairs, Writable p.1 p.2 := by decide +kernel
  have holds : Holds segments pairs := by
    refine .pair ⟨_, _, ?_, ?_, rfl⟩ (.keyless (.inl ⟨[], [], ?_, ?_, rfl⟩) (.keyless (.inr
      ⟨['x'], ?_, [], [' '], ?_, ?_, rfl⟩) (.pair ⟨_, [], ?_, ?_, (List.append_nil _).symm⟩
      (.pair ⟨[], [], ?_, ?_, (List.append_nil _).symm⟩ .nil)))) <;> decide
  have redundant : Ascii.same "Audio/RED" Mime.red := by decide +kernel
  have valid : ∀ b ∈ blocks, IsBlock b := by decide +kernel
  have pieces_hold : HoldsBlocks pieces blocks := by
    refine .cons ⟨[], ['\t'], ?_, ?_, ?_⟩ (.cons ⟨[], [' '], ?_, ?_, ?_⟩
      (.cons ⟨['\n'], [], ?_, ?_, ?_⟩ .nil)) <;> decide +kernel
  refine ⟨⟨general, writable, holds, ?_⟩, redundant, by decide, valid, pieces_hold, ?_⟩
  · have read := written_line_reads_back.1 _ segments pairs general writable holds "apt"
    exact (read.1 "97").mpr
      ⟨[("apt", "96"), ("Mode", "a=b")], "APT", [], rfl, by decide +kernel, by simp⟩
  · exact (written_line_reads_back.2 _ pieces blocks redundant (by decide) valid pieces_hold).1

end MediaSender.FormatParameters
