import DataGateway.Number.Decimal
import DataGateway.Text.Blank
import DataGateway.Text.DecimalDigit

/-!
# Numerals

Reading of whole and fractional numbers from text. Blanks around a numeral are ignored, digits of
all scripts count, and a single underscore may stand between two digits.

* `Numeral.isWritable` — which whole numbers have a numeral;
* `Numeral.whole` reads an optional sign and digits;
* `Numeral.fractional` reads an optional sign, digits with a point, an exponent, or one of the words
  `inf`, `infinity` and `nan` in either case.
-/

namespace DataGateway.Numeral

open Text

/-- Why a text is no whole number. -/
inductive Fault
  | malformed
  | tooLong (digits : Nat)
  deriving DecidableEq

/-- The most digits that a whole number may have, to be read or to be written. -/
def digitLimit : Nat := 4300

/-- Has a whole number few enough digits to be written? -/
def isWritable (n : Int) : Bool := (Nat.toDigits 10 n.natAbs).length ≤ digitLimit

/-- Brings a character to its place among the first 128: digits and blanks of all scripts have one,
and every other character becomes a question mark. -/
def simplify (c : Char) : Char :=
  if c.toNat < 127 then c
  else if isBlank c then ' '
  else
    match digitValue? c with
    | some value => latinDigit value
    | none => '?'

/-- A numeral in plain characters and without blanks around it. -/
def prepare (s : List Char) : List Char := trimBy isPlainBlank (s.map simplify)

def isDigit (c : Char) : Bool := '0' ≤ c && c ≤ '9'

/-- Takes an optional sign off; true is negative. -/
def sign : List Char → Bool × List Char
  | '-' :: rest => (true, rest)
  | '+' :: rest => (false, rest)
  | s => (false, s)

/-- Does every underscore stand between two digits? The first argument is the character before. -/
def separatorsStand (before : Char) : List Char → Bool
  | [] => before != '_'
  | c :: rest =>
    (if c == '_' then isDigit before else before != '_' || isDigit c) && separatorsStand c rest

/-- The value of plain digits. -/
def digitsValue (digits : List Char) : Nat :=
  digits.foldl (fun value c => value * 10 + (c.toNat - 48)) 0

/-! ## Whole numbers -/

/-- Reads the part after the sign. -/
def unsignedWhole (s : List Char) : Except Fault Nat :=
  let (run, rest) := s.span fun c => isDigit c || c == '_'
  let digits := run.filter isDigit
  if run.isEmpty || !separatorsStand ' ' run then .error .malformed
  else if digitLimit < digits.length then .error (.tooLong digits.length)
  else if rest.isEmpty then .ok (digitsValue digits)
  else .error .malformed

def whole (s : List Char) : Except Fault Int := do
  let (negative, rest) := sign (prepare s)
  let value ← unsignedWhole rest
  return if negative then -(value : Int) else value

/-! ## Fractional numbers -/

/-- Is the text one of the words, in either case? -/
def isWord (words : List String) (s : List Char) : Bool :=
  words.contains (String.ofList (s.map Char.toLower))

/-- Reads an exponent: nothing at all, or a mark, an optional sign and digits. -/
def exponent? : List Char → Option Int
  | [] => some 0
  | c :: rest =>
    if c == 'e' || c == 'E' then
      let (negative, digits) := sign rest
      if digits.isEmpty || !digits.all isDigit then none
      else
        let value : Int := digitsValue digits
        some (if negative then -value else value)
    else none

/-- Reads digits with an optional point among them, and an exponent. -/
def decimal? (s : List Char) : Option Decimal :=
  let (integral, rest) := s.span isDigit
  let (fraction, rest) :=
    match rest with
    | '.' :: rest => rest.span isDigit
    | _ => ([], rest)
  if integral.isEmpty && fraction.isEmpty then none
  else (exponent? rest).map fun e => ⟨digitsValue (integral ++ fraction), e - fraction.length⟩

def fractional (s : List Char) : Option Binary64 :=
  let text := prepare s
  if !separatorsStand ' ' text then none
  else
    let (negative, rest) := sign (text.filter (· != '_'))
    if isWord ["inf", "infinity"] rest then some (.infinity negative)
    else if isWord ["nan"] rest then some .nan
    else (decimal? rest).map (·.toBinary64 negative)

end DataGateway.Numeral
