import DataGateway.Value.Access

/-!
# Identifiers

The only names that enter SQL text: a word of letters, digits and underscores that starts with no
digit, optionally a dot and a second such word. One line feed may follow.
-/

namespace DataGateway.Sql

/-- May a word start with the character? -/
def isWordStart (c : Char) : Bool :=
  ('A' ≤ c && c ≤ 'Z') || ('a' ≤ c && c ≤ 'z') || c == '_'

/-- May the character stand in a word? -/
def isWordPart (c : Char) : Bool := isWordStart c || ('0' ≤ c && c ≤ '9')

/-- What a word at the beginning leaves. -/
def afterWord? : List Char → Option (List Char)
  | [] => none
  | c :: rest => if isWordStart c then some (rest.dropWhile isWordPart) else none

/-- Is the text one word, or two with a dot between them, up to a line feed at the end? -/
def isIdentifier (s : List Char) : Bool :=
  match afterWord? s with
  | none => false
  | some ('.' :: rest) =>
    match afterWord? rest with
    | some rest => rest.isEmpty || rest == ['\n']
    | none => false
  | some rest => rest.isEmpty || rest == ['\n']

/-- A name that may enter SQL text. -/
structure Identifier where
  text : String
  valid : isIdentifier text.toList = true
  deriving DecidableEq

def Identifier.ofValue : Value → Except Fault Identifier
  | .text s =>
    if valid : isIdentifier s.toList = true then .ok ⟨s, valid⟩
    else .error (.refused (.identifier (Text.quoted s)))
  | v => v.refuse .identifier

def Identifier.ofName (name : String) : Except Fault Identifier := Identifier.ofValue (.text name)

end DataGateway.Sql
