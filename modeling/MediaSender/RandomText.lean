/-!
Texts drawn at random from an alphabet.
-/

namespace MediaSender.RandomText

def letters : List Char := "abcdefghijklmnopqrstuvwxyzABCDEFGHIJKLMNOPQRSTUVWXYZ".toList

def lettersAndDigits : List Char := letters ++ "0123456789".toList

def pick (alphabet : List Char) (number : Nat) : Char :=
  alphabet.getD (number % alphabet.length) 'a'

def draw (numbers : Nat → Nat) (alphabet : List Char) (length : Nat) : Option String :=
  if alphabet = [] ∧ length ≠ 0 then none
  else some (String.ofList ((List.range length).map fun i => pick alphabet (numbers i)))

end MediaSender.RandomText
