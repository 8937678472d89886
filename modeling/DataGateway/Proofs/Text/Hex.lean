import DataGateway.Text.Hex

/-!
# Hexadecimal digits are read back

A digit says its value again, whichever case its letters have, and is a plain character.
-/

namespace DataGateway.Text

variable {letter : Char} {value : Nat}

theorem hexValue?_hexDigit (hex : letter ∈ ['a', 'A']) (small : value < 16) :
    hexValue? (hexDigit letter value) = some value := by
  have lower : ∀ value < 16, hexValue? (hexDigit 'a' value) = some value := by decide
  have upper : ∀ value < 16, hexValue? (hexDigit 'A' value) = some value := by decide
  simp only [List.mem_cons, List.not_mem_nil, or_false] at hex
  rcases hex with rfl | rfl
  · exact lower value small
  · exact upper value small

theorem plain_hexDigit (hex : letter ∈ ['a', 'A']) (small : value < 16) :
    (hexDigit letter value).toNat < 128 := by
  have lower : ∀ value < 16, (hexDigit 'a' value).toNat < 128 := by decide
  have upper : ∀ value < 16, (hexDigit 'A' value).toNat < 128 := by decide
  simp only [List.mem_cons, List.not_mem_nil, or_false] at hex
  rcases hex with rfl | rfl
  · exact lower value small
  · exact upper value small

end DataGateway.Text
