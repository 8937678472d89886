/-!
# Blank characters

White space of Unicode together with the four separators `U+001C` to `U+001F`, and the removal of
blanks at the ends of a text.
-/

namespace DataGateway.Text

def isBlank (c : Char) : Bool :=
  let code := c.toNat
  (0x09 ≤ code && code ≤ 0x0D) || (0x1C ≤ code && code ≤ 0x20) || code == 0x85 || code == 0xA0 ||
  code == 0x1680 || (0x2000 ≤ code && code ≤ 0x200A) || code == 0x2028 || code == 0x2029 ||
  code == 0x202F || code == 0x205F || code == 0x3000

/-- The blanks that a numeral may carry around it within the first 128 characters. -/
def isPlainBlank (c : Char) : Bool := (0x09 ≤ c.toNat && c.toNat ≤ 0x0D) || c.toNat == 0x20

/-- Removes the members of a class from both ends. -/
def trimBy {α : Type} (skip : α → Bool) (s : List α) : List α :=
  ((s.dropWhile skip).reverse.dropWhile skip).reverse

def trim (s : String) : String := String.ofList (trimBy isBlank s.toList)

end DataGateway.Text
