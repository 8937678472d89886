import DataGateway.Text.CaseTable

/-!
# Case

Case folding and the lower and upper case of a text, character by character through the full case
mappings. Lower case looks at the context of one letter only: a capital sigma becomes a final one
after a letter with case and before none, where ignorable characters are passed over.
-/

namespace DataGateway.Text

/-- Does a code point lie within one of the bounds? -/
def within (ranges : List (Nat × Nat)) (code : Nat) : Bool :=
  ranges.any fun (first, last) => first ≤ code && code ≤ last

def foldChar (c : Char) : List Char :=
  if c.toNat < 0x80 then
    [if 'A' ≤ c && c ≤ 'Z' then Char.ofNat (c.toNat + 32) else c]
  else foldMap.apply c

def foldCase (s : List Char) : List Char := s.flatMap foldChar

/-- Is the first character that counts a letter with case? -/
def startsCased (s : List Char) : Bool :=
  match s.find? fun c => !within caseIgnorableRanges c.toNat with
  | some c => within casedRanges c.toNat
  | none => false

/-- Lower case of the rest of a text; the characters before it come in reverse. -/
def lowerAfter (before : List Char) : List Char → List Char
  | [] => []
  | c :: rest =>
    let lowered :=
      if c == 'Σ' then [if startsCased before && !startsCased rest then 'ς' else 'σ']
      else lowerMap.apply c
    lowered ++ lowerAfter (c :: before) rest

def lower (s : String) : String := String.ofList (lowerAfter [] s.toList)

/-- The octet of the small letter for that of a capital one among the plain 26. -/
def lowerOctet (octet : UInt8) : UInt8 :=
  if 0x41 ≤ octet && octet ≤ 0x5A then octet + 0x20 else octet

def upper (s : String) : String := String.ofList (s.toList.flatMap upperMap.apply)

end DataGateway.Text
