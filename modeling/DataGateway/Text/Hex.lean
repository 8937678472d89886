/-!
# Hexadecimal digits

Digits of base sixteen and numbers written with a fixed count of them.
-/

namespace DataGateway.Text

/-- The digit for a value below sixteen; letters start at the given character. -/
def hexDigit (letter : Char) (value : Nat) : Char :=
  if value < 10 then Char.ofNat (48 + value) else Char.ofNat (letter.toNat + (value - 10))

/-- The last `count` digits of a number. -/
def hexDigits (letter : Char) : Nat → Nat → List Char
  | 0, _ => []
  | count + 1, n => hexDigits letter count (n / 16) ++ [hexDigit letter (n % 16)]

/-- The value of a digit, in either case. -/
def hexValue? (c : Char) : Option Nat :=
  if '0' ≤ c && c ≤ '9' then some (c.toNat - 48)
  else if 'a' ≤ c && c ≤ 'f' then some (c.toNat - 87)
  else if 'A' ≤ c && c ≤ 'F' then some (c.toNat - 55)
  else none

end DataGateway.Text
