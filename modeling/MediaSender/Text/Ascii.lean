/-!
Equality of texts up to the case of ASCII letters, the comparison that media types and format
parameters use.
-/

namespace MediaSender.Ascii

def fold (s : String) : List Char := s.toList.map Char.toLower

def same (a b : String) : Bool := fold a == fold b

theorem same_iff {a b : String} : same a b = true ↔ fold a = fold b := by simp [same]

@[simp] theorem same_refl (a : String) : same a a = true := by simp [same]

theorem same_comm (a b : String) : same a b = same b a := by
  rw [Bool.eq_iff_iff, same_iff, same_iff, eq_comm]

theorem same_trans {a b c : String} (hab : same a b = true) (hbc : same b c = true) :
    same a c = true := by
  rw [same_iff] at *
  exact hab.trans hbc

end MediaSender.Ascii
