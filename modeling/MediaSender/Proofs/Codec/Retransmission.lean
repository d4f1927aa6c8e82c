import MediaSender.Proofs.Codec.Searches
/-!
The codec that retransmits a codec. A retransmission codec writes the payload type that it protects
into its parameter `apt`. The search prefers one that protects the codec itself to one that protects
a codec of the same media type in the list, so that some codec of a list can be retransmitted if and
only if a retransmission codec of the list protects a codec of the list.
-/

namespace MediaSender

namespace Text

variable {s digits : List Char} {n : UInt8}

/-- The text writes an octet in decimal: at least one digit, after at most one plus sign. -/
def Writes (s : List Char) (n : UInt8) : Prop :=
  ∃ digits, (s = digits ∨ s = '+' :: digits) ∧ digits ≠ [] ∧ (∀ d ∈ digits, d.isDigit) ∧
    Nat.ofDigitChars 10 digits 0 = n.toNat

theorem eq_unsigned_or (s : List Char) : s = unsigned s ∨ s = '+' :: unsigned s := by
  unfold unsigned
  split <;> simp

theorem unsigned_of_digits (h : ∀ d ∈ digits, d.isDigit) : unsigned digits = digits := by
  unfold unsigned
  split
  · exact absurd (h '+' List.mem_cons_self) (by decide)
  · rfl

theorem decimalValue_eq (digits : List Char) :
    decimalValue digits = Nat.ofDigitChars 10 digits 0 := Nat.ofDigitChars_eq_foldl.symm

theorem octet?_eq_some_iff : octet? s = some n ↔ Writes s n := by
  constructor
  · intro h
    rw [octet?] at h
    split at h
    · rename_i valid
      obtain ⟨nonempty, digits, small⟩ := valid
      refine ⟨unsigned s, eq_unsigned_or s, nonempty, List.all_eq_true.mp digits, ?_⟩
      rw [← decimalValue_eq, ← Option.some.inj h, UInt8.toNat_ofNat', Nat.mod_eq_of_lt small]
    · cases h
  · rintro ⟨digits, text, nonempty, all, value⟩
    have hs : unsigned s = digits := by
      rcases text with rfl | rfl
      · exact unsigned_of_digits all
      · rfl
    have small : decimalValue digits < 256 := by
      rw [decimalValue_eq, value]
      exact n.toNat_lt
    rw [octet?, hs, if_pos ⟨nonempty, List.all_eq_true.mpr all, small⟩, decimalValue_eq, value,
      UInt8.ofNat_toNat]

end Text

namespace Codec

open CodecMatch

variable {needle c : Codec} {codecs : List Codec} {n : UInt8}

/-- A retransmission codec that names the payload type in its parameter `apt`. -/
def Protects (c : Codec) (n : UInt8) : Prop :=
  c.hasType Mime.rtx ∧ ∃ apt, c.format.parsed.lookup "apt" = some apt ∧ Text.Writes apt.toList n

theorem protected?_eq_some_iff : c.protected? = some n ↔ c.Protects n := by
  rw [protected?, Protects]
  split
  · rename_i rtx
    simp only [rtx, true_and, Option.bind_eq_some_iff, Text.octet?_eq_some_iff]
  · rename_i rtx
    simp [rtx]

theorem protectsType_iff : protectsType needle codecs c ↔
    ∃ p ∈ codecs, p.hasType needle.format.mimeType ∧ c.Protects p.payloadType := by
  simp only [← protected?_eq_some_iff, protectsType]
  cases c.protected? with
  | none => simp
  | some apt =>
    simp only [List.any_eq_true, Bool.and_eq_true, beq_iff_eq, Option.some.injEq]
    exact exists_congr fun p => and_congr_right fun _ => and_comm.trans (and_congr_right' eq_comm)

theorem retransmission_eq_exactly_iff : retransmission needle codecs = .exactly c ↔
    IsFirst (·.Protects needle.payloadType) codecs c :=
  first_eq_exactly_iff.trans (isFirst_congr fun _ => beq_iff_eq.trans protected?_eq_some_iff)

theorem retransmission_eq_partly_iff : retransmission needle codecs = .partly c ↔
    (∀ b ∈ codecs, ¬ b.Protects needle.payloadType) ∧
      IsFirst (fun b => ∃ p ∈ codecs, p.hasType needle.format.mimeType ∧ b.Protects p.payloadType)
        codecs c := by
  rw [retransmission, first_eq_partly_iff, isFirst_congr fun _ => protectsType_iff]
  simp only [beq_iff_eq, protected?_eq_some_iff]

theorem retransmission_eq_none_iff : retransmission needle codecs = .none ↔
    (∀ b ∈ codecs, ¬ b.Protects needle.payloadType) ∧
      ∀ b ∈ codecs, ∀ p ∈ codecs,
        p.hasType needle.format.mimeType → ¬ b.Protects p.payloadType := by
  rw [retransmission, first_eq_none_iff]
  simp only [beq_iff_eq, protected?_eq_some_iff, protectsType_iff, not_exists, not_and]

theorem exists_retransmission_iff : (∃ p ∈ codecs, retransmission p codecs ≠ .none) ↔
    ∃ c ∈ codecs, ∃ p ∈ codecs, c.Protects p.payloadType := by
  constructor
  · rintro ⟨p, hp, found⟩
    refine Classical.byContradiction fun unprotected =>
      found (retransmission_eq_none_iff.mpr ⟨?_, ?_⟩)
    · exact fun b hb protects => unprotected ⟨b, hb, p, hp, protects⟩
    · exact fun b hb q hq _ protects => unprotected ⟨b, hb, q, hq, protects⟩
  · rintro ⟨c, hc, p, hp, protects⟩
    exact ⟨p, hp, fun none => (retransmission_eq_none_iff.mp none).1 c hc protects⟩

/-- A codec is answered with the first retransmission codec that protects it, else with the first
that protects a codec of its media type in the list, else with none. Some codec of a list is
answered with a retransmission codec exactly if the list has one that protects a codec of it. -/
theorem retransmission_finds_protector (needle : Codec) (codecs : List Codec) :
    let m := retransmission needle codecs
    (∀ c, m = .exactly c ↔ IsFirst (·.Protects needle.payloadType) codecs c) ∧
    (∀ c, m = .partly c ↔ (∀ b ∈ codecs, ¬ b.Protects needle.payloadType) ∧
      IsFirst (fun b => ∃ p ∈ codecs, p.hasType needle.format.mimeType ∧ b.Protects p.payloadType)
        codecs c) ∧
    ((m = .none ↔ (∀ b ∈ codecs, ¬ b.Protects needle.payloadType) ∧
        ∀ b ∈ codecs, ∀ p ∈ codecs, p.hasType needle.format.mimeType → ¬ b.Protects p.payloadType) ∧
      (m = .none → m.answer = {})) ∧
    ((∃ p ∈ codecs, retransmission p codecs ≠ .none) ↔
      ∃ c ∈ codecs, ∃ p ∈ codecs, c.Protects p.payloadType) := by
  refine ⟨fun c => retransmission_eq_exactly_iff, fun c => retransmission_eq_partly_iff,
    ⟨retransmission_eq_none_iff, fun none => ?_⟩, exists_retransmission_iff⟩
  rw [none]
  rfl

/-- Numbers above 255 and blanks are not read, a plus sign and leading zeros are. -/
example :
    let rtx (apt : String) : Codec :=
      ⟨{ mimeType := "video/RTX", parameters := "apt=" ++ apt }, 97⟩
    retransmission ⟨{ mimeType := Mime.vp8 }, 96⟩
      [rtx "352", rtx "096 6", rtx "9;APT=+096"] = .exactly (rtx "9;APT=+096") := by
  decide +kernel

end Codec

end MediaSender
