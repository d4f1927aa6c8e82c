/-!
Decimal numbers of one octet: at most one plus sign, then at least one ASCII digit, and a value
below 256. Leading zeros are allowed.
-/

namespace MediaSender.Text

def unsigned : List Char → List Char
  | '+' :: digits => digits
  | digits => digits

def decimalValue (digits : List Char) : Nat :=
  digits.foldl (fun n d => 10 * n + (d.toNat - '0'.toNat)) 0

def octet? (s : List Char) : Option UInt8 :=
  let digits := unsigned s
  if digits ≠ [] ∧ digits.all Char.isDigit ∧ decimalValue digits < 256 then
    some (UInt8.ofNat (decimalValue digits))
  else none

end MediaSender.Text
