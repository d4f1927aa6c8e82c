/-!
The characters with the `White_Space` property, and texts without them at either end. Trimming takes
away the blanks that a text is padded with, and no others from a text that has none at its ends.
-/

namespace MediaSender.Text

def isBlank (c : Char) : Bool :=
  let n := c.toNat
  (9 ≤ n && n ≤ 13) || n == 32 || n == 0x85 || n == 0xA0 || n == 0x1680 ||
    (0x2000 ≤ n && n ≤ 0x200A) || n == 0x2028 || n == 0x2029 || n == 0x202F ||
    n == 0x205F || n == 0x3000

def trimStart (s : List Char) : List Char := s.dropWhile isBlank

def trimEnd (s : List Char) : List Char := (trimStart s.reverse).reverse

def trim (s : List Char) : List Char := trimEnd (trimStart s)

def Padded (text s : List Char) : Prop :=
  ∃ before after, before.all isBlank ∧ after.all isBlank ∧ s = before ++ text ++ after

variable {text s blanks : List Char} {c : Char}

theorem trimStart_append (h : blanks.all isBlank) (s : List Char) :
    trimStart (blanks ++ s) = trimStart s :=
  List.dropWhile_append_of_pos (List.all_eq_true.mp h)

theorem trimStart_of_blank (h : blanks.all isBlank) : trimStart blanks = [] := by
  have gone := trimStart_append h []
  rwa [List.append_nil] at gone

theorem trimStart_cons (h : isBlank c = false) (s : List Char) : trimStart (c :: s) = c :: s :=
  List.dropWhile_cons_of_neg (by simp [h])

theorem trimStart_of_head (h : s.head?.any isBlank = false) : trimStart s = s := by
  cases s with
  | nil => rfl
  | cons c s => exact trimStart_cons h s

theorem trimEnd_append (h : blanks.all isBlank) (s : List Char) :
    trimEnd (s ++ blanks) = trimEnd s := by
  rw [trimEnd, List.reverse_append, trimStart_append (by rwa [List.all_reverse]), ← trimEnd]

theorem trimEnd_cons (h : isBlank c = false) (s : List Char) :
    trimEnd (c :: s) = c :: trimEnd s := by
  rw [trimEnd, List.reverse_cons, trimStart, List.dropWhile_append, trimEnd]
  split
  · rename_i nothing
    rw [trimStart, List.isEmpty_iff.mp nothing]
    exact congrArg List.reverse (trimStart_cons h [])
  · rw [List.reverse_append]
    rfl

theorem trim_cons (h : isBlank c = false) (s : List Char) : trim (c :: s) = c :: trimEnd s := by
  rw [trim, trimStart_cons h, trimEnd_cons h]

theorem trim_of_ends (first : s.head?.any isBlank = false) (last : s.getLast?.any isBlank = false) :
    trim s = s := by
  rw [trim, trimStart_of_head first, trimEnd, trimStart_of_head (by rwa [List.head?_reverse]),
    List.reverse_reverse]

theorem trim_of_padded (h : Padded text s) : trim s = trim text := by
  obtain ⟨before, after, hbefore, hafter, rfl⟩ := h
  rw [trim, List.append_assoc, trimStart_append hbefore, trimStart, List.dropWhile_append]
  split
  · -- nothing but blanks
    rename_i nothing
    rw [trim, trimStart, List.isEmpty_iff.mp nothing]
    exact congrArg trimEnd (trimStart_of_blank hafter)
  · exact trimEnd_append hafter _

theorem notMem_of_blank (h : blanks.all isBlank) (hc : isBlank c = false) : c ∉ blanks :=
  fun mem => Bool.false_ne_true (hc.symm.trans (List.all_eq_true.mp h c mem))

theorem notMem_of_padded (h : Padded text s) (hc : isBlank c = false) (free : c ∉ text) :
    c ∉ s := by
  obtain ⟨before, after, hbefore, hafter, rfl⟩ := h
  simp [notMem_of_blank hbefore hc, notMem_of_blank hafter hc, free]

end MediaSender.Text
