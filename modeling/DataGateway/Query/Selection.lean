import DataGateway.Value.Access

/-!
# Column selections

Which columns a request asks for: all of them, or a list of names. A selection is given as a text
with commas or as a list.
-/

namespace DataGateway

/-- The columns that a request asks for. -/
inductive Selection
  | all
  | columns (names : List String)
  deriving DecidableEq

namespace Selection

/-- The names between the commas of a text, without blanks around them and without empty ones. -/
def split (s : String) : List String :=
  ((Text.pieces ',' s.toList).map fun piece => Text.trim (String.ofList piece)).filter (· != "")

def ofText (s : String) : Selection :=
  let trimmed := Text.trim s
  if trimmed == "" || trimmed == "*" then .all else .columns (split s)

def ofNames (names : List String) : Selection :=
  if names.isEmpty || names.contains "*" then .all else .columns names

/-- The texts of values, without blanks around them. -/
def namesOf : List Value → Except Fault (List String)
  | [] => .ok []
  | item :: rest => do
    let name ← item.printed
    return Text.trim name :: (← namesOf rest)

def ofValue : Value → Except Fault Selection
  | .null => .ok .all
  | .text s => .ok (ofText s)
  | v => do return ofNames (← namesOf (← v.elements))

/-- The names, unless all columns are asked for. -/
def names? : Selection → Option (List String)
  | .all => none
  | .columns names => some names

def clause : Selection → String
  | .all => "*"
  | .columns names => ", ".intercalate names

end Selection

end DataGateway
