import MediaSender.Text.LetterCase
import MediaSender.Text.Ranges
/-!
Lower-casing of texts. Every letter has its own lower-case form, with two exceptions: a capital
sigma at the end of a word becomes the final sigma, and a capital I with a dot keeps the dot as a
combining character.
-/

namespace MediaSender.Text

def isCased (c : Char) : Bool := inRanges casedRanges c

def isIgnorable (c : Char) : Bool := inRanges ignorableRanges c

def Shift.covers (s : Shift) (c : Char) : Bool :=
  s.first ≤ c.toNat && c.toNat ≤ s.last && (c.toNat - s.first) % s.step == 0

def Shift.apply (s : Shift) (c : Char) : Char := Char.ofNat (c.toNat + s.shift).toNat

def lowerLetter (c : Char) : List Char :=
  if c.toNat < 128 then [c.toLower]
  else if c = 'İ' then ['i', '\u0307']
  else match shifts.find? (·.covers c) with
    | some s => [s.apply c]
    | none => [c]

def meetsCased (s : List Char) : Bool :=
  match s.dropWhile isIgnorable with
  | c :: _ => isCased c
  | [] => false

/-- A sigma ends a word if a letter stands before it and none after it. -/
def lowerSigma (before after : List Char) : Char :=
  if meetsCased before && !meetsCased after then 'ς' else 'σ'

def lowerAfter (before : List Char) : List Char → List Char
  | [] => []
  | c :: s =>
    (if c = 'Σ' then [lowerSigma before s] else lowerLetter c) ++ lowerAfter (c :: before) s

def lowercase (s : List Char) : List Char := lowerAfter [] s

end MediaSender.Text
