import DataGateway.Text.Search

/-!
# LIKE patterns

Patterns of the SQL operator `LIKE`: a percent sign stands for any text, an underscore for any one
character, and a backslash makes the next character stand for itself.
-/

namespace DataGateway.Text.LikePattern

/-- Has the character a meaning of its own in a pattern? -/
def isSpecial (c : Char) : Bool := c == '\\' || c == '%' || c == '_'

/-- The pattern that a text alone matches. -/
def escape (s : List Char) : List Char :=
  s.flatMap fun c => if isSpecial c then ['\\', c] else [c]

/-- The pattern that exactly the texts containing the given one match. -/
def containing (s : List Char) : List Char := '%' :: (escape s ++ ['%'])

end DataGateway.Text.LikePattern
