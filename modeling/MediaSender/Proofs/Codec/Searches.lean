import MediaSender.CodecMatch
/-!
Searches by preference. A search has an exact and a partial criterion; it answers with the first
codec that meets the exact one, else with the first that meets the partial one. What it finds
depends on the codecs only through the two criteria, and further codecs at the end of the list can
but improve it.
-/

namespace MediaSender

namespace Codec

variable {p q : Codec → Prop} {codecs : List Codec} {c : Codec}

def IsFirst (p : Codec → Prop) (codecs : List Codec) (c : Codec) : Prop :=
  ∃ before after, codecs = before ++ c :: after ∧ p c ∧ ∀ b ∈ before, ¬ p b

theorem find?_eq_some_iff_isFirst {p : Codec → Bool} :
    codecs.find? p = some c ↔ IsFirst (p ·) codecs c := by
  rw [List.find?_eq_some_iff_append]
  constructor
  · rintro ⟨holds, before, after, split, none⟩
    exact ⟨before, after, split, holds, fun b hb => by simpa using none b hb⟩
  · rintro ⟨before, after, split, holds, none⟩
    exact ⟨holds, before, after, split, fun b hb => by simpa using none b hb⟩

theorem IsFirst.mem (h : IsFirst p codecs c) : c ∈ codecs := by
  obtain ⟨before, after, rfl, -⟩ := h
  exact List.mem_append_right _ List.mem_cons_self

theorem IsFirst.holds (h : IsFirst p codecs c) : p c := h.choose_spec.choose_spec.2.1

theorem isFirst_congr (h : ∀ c, p c ↔ q c) : IsFirst p codecs c ↔ IsFirst q codecs c := by
  rw [show p = q from funext fun c => propext (h c)]

end Codec

namespace CodecMatch

open Codec

variable {good fair good' fair' : Codec → Bool} {codecs codecs' : List Codec} {c : Codec}

theorem first_eq_exactly_iff :
    first good fair codecs = .exactly c ↔ IsFirst (good ·) codecs c := by
  rw [← find?_eq_some_iff_isFirst, first]
  cases codecs.find? good <;> cases codecs.find? fair <;> simp

theorem first_eq_partly_iff : first good fair codecs = .partly c ↔
    (∀ b ∈ codecs, ¬ good b) ∧ IsFirst (fair ·) codecs c := by
  rw [← find?_eq_some_iff_isFirst, ← List.find?_eq_none, first]
  cases codecs.find? good <;> cases codecs.find? fair <;> simp

theorem first_eq_none_iff : first good fair codecs = .none ↔
    (∀ b ∈ codecs, ¬ good b) ∧ ∀ b ∈ codecs, ¬ fair b := by
  rw [← List.find?_eq_none, ← List.find?_eq_none, first]
  cases codecs.find? good <;> cases codecs.find? fair <;> simp

theorem isNone_iff {m : CodecMatch} : m.isNone = true ↔ m = .none := by
  cases m <;> simp [isNone]

theorem codec?_eq_none_iff {m : CodecMatch} : m.codec? = Option.none ↔ m = .none := by
  cases m <;> simp [codec?]

theorem codec?_eq_some_iff {m : CodecMatch} :
    m.codec? = some c ↔ m = .exactly c ∨ m = .partly c := by
  cases m <;> simp [codec?]

theorem mem_of_first (h : (first good fair codecs).codec? = some c) : c ∈ codecs := by
  rcases codec?_eq_some_iff.mp h with found | found
  · exact (first_eq_exactly_iff.mp found).mem
  · exact (first_eq_partly_iff.mp found).2.mem

theorem meets_of_first (h : (first good fair codecs).codec? = some c) : good c ∨ fair c := by
  rcases codec?_eq_some_iff.mp h with found | found
  · exact .inl (first_eq_exactly_iff.mp found).holds
  · exact .inr (first_eq_partly_iff.mp found).2.holds

theorem first_singleton (h : (first good fair codecs).codec? = some c) :
    (first good fair [c]).codec? = some c := by
  have hc := meets_of_first h
  simp only [first, List.find?_singleton]
  cases hg : good c with
  | true => rfl
  | false =>
    rw [hg] at hc
    rw [hc.resolve_left Bool.false_ne_true]
    rfl

def rank : CodecMatch → Nat
  | none => 0
  | partly _ => 1
  | exactly _ => 2

def answer (m : CodecMatch) : Codec := m.codec?.getD {}

def place (good fair : Codec → Bool) (codecs : List Codec) : Option Nat :=
  (codecs.findIdx? good).or (codecs.findIdx? fair)

theorem codec?_first :
    (first good fair codecs).codec? = (place good fair codecs).bind (codecs[·]?) := by
  have hgood := @List.find?_eq_bind_findIdx?_getElem? _ codecs good
  have hfair := @List.find?_eq_bind_findIdx?_getElem? _ codecs fair
  rw [first, place]
  cases hg : codecs.find? good with
  | some c =>
    obtain ⟨i, hi, hc⟩ := Option.bind_eq_some_iff.mp (hgood.symm.trans hg)
    rw [hi]
    exact hc.symm
  | none =>
    rw [List.findIdx?_eq_none_iff.mpr fun b hb => by simpa using List.find?_eq_none.mp hg b hb,
      Option.none_or, ← hfair]
    cases codecs.find? fair <;> rfl

theorem rank_first : (first good fair codecs).rank =
    if codecs.any good then 2 else if codecs.any fair then 1 else 0 := by
  rw [← List.isSome_find?, ← List.isSome_find?, first]
  cases codecs.find? good <;> cases codecs.find? fair <;> simp [rank]

theorem first_congr (hgood : codecs.map good = codecs'.map good')
    (hfair : codecs.map fair = codecs'.map fair') :
    (first good fair codecs).rank = (first good' fair' codecs').rank ∧
      place good fair codecs = place good' fair' codecs' := by
  -- both look at a list only through the values of the criterion along it
  have anys (p : Codec → Bool) (cs : List Codec) : cs.any p = (cs.map p).any id := by
    rw [List.any_map, Function.id_comp]
  have indices (p : Codec → Bool) (cs : List Codec) : cs.findIdx? p = (cs.map p).findIdx? id := by
    rw [List.findIdx?_map, Function.id_comp]
  constructor
  · rw [rank_first, rank_first, anys good, anys fair, hgood, hfair, ← anys, ← anys]
  · rw [place, place, indices good, indices fair, hgood, hfair, ← indices, ← indices]

theorem rank_first_append (more : List Codec) :
    (first good fair codecs).rank ≤ (first good fair (codecs ++ more)).rank := by
  rw [rank_first, rank_first, List.any_append, List.any_append]
  cases codecs.any good <;> cases codecs.any fair <;> cases more.any good <;>
    cases more.any fair <;> decide

theorem first_append_of_exactly (h : first good fair codecs = .exactly c) (more : List Codec) :
    first good fair (codecs ++ more) = .exactly c := by
  obtain ⟨before, after, rfl, holds, none⟩ := first_eq_exactly_iff.mp h
  exact first_eq_exactly_iff.mpr ⟨before, after ++ more, by simp, holds, none⟩

end CodecMatch

end MediaSender
