import DataGateway.Json.Encode
import DataGateway.Text.Unit

/-!
# Reading JSON

Reads a document with one value. Beside standard JSON the words `NaN`, `Infinity` and `-Infinity`
are numbers. Of two fields with one name the later counts.

* `Json.decode` reads a document;
* `Json.Problem` is what is wrong with one, and where, counted in characters that are left.
-/

namespace DataGateway.Json

open Text

/-! ## Problems -/

/-- What is wrong at a place of a document. -/
inductive Cause
  | value
  | name
  | colon
  | comma
  | extra
  | control
  | escape
  | unicodeEscape
  | unterminated
  | byteOrderMark
  | digits (count : Nat)
  | depth (kind : String)
  deriving DecidableEq

def Cause.text : Cause → String
  | .value => "Expecting value"
  | .name => "Expecting property name enclosed in double quotes"
  | .colon => "Expecting \x27:\x27 delimiter"
  | .comma => "Expecting \x27,\x27 delimiter"
  | .extra => "Extra data"
  | .control => "Invalid control character at"
  | .escape => "Invalid \\escape"
  | .unicodeEscape => "Invalid \\uXXXX escape"
  | .unterminated => "Unterminated string starting at"
  | .byteOrderMark => "Unexpected UTF-8 BOM (decode using utf-8-sig)"
  | .digits count => s!"too many digits: {count}"
  | .depth kind => s!"too deep: {kind}"

/-- A cause and the number of characters from its place to the end of the document. -/
structure Problem where
  cause : Cause
  remaining : Nat
  deriving DecidableEq

/-- The wording of a problem: cause, line, column and offset. -/
def Problem.text (problem : Problem) (document : List Char) : String :=
  let offset := document.length - problem.remaining
  let before := document.take offset
  let line := before.count '\n' + 1
  let column := (before.reverse.takeWhile (· != '\n')).length + 1
  s!"{problem.cause.text}: line {line} column {column} (char {offset})"

/-- A problem at the beginning of what is left. -/
def failAt {α : Type} (cause : Cause) (s : List Char) : Except Problem α := .error ⟨cause, s.length⟩

/-! ## Blanks and texts -/

def isSpace (c : Char) : Bool := c == ' ' || c == '\t' || c == '\n' || c == '\r'

def skip (s : List Char) : List Char := s.dropWhile isSpace

/-- The value of four hexadecimal digits. -/
def unit? (a b c d : Char) : Option Nat :=
  match hexValue? a, hexValue? b, hexValue? c, hexValue? d with
  | some a, some b, some c, some d => some (((a * 16 + b) * 16 + c) * 16 + d)
  | _, _, _, _ => none

/-- The character that a letter after a backslash stands for. -/
def shortEscape? (c : Char) : Option Char :=
  if c == '"' || c == '\\' || c == '/' then some c
  else if c == 'b' then some (Char.ofNat 0x08)
  else if c == 'f' then some (Char.ofNat 0x0C)
  else if c == 'n' then some '\n'
  else if c == 'r' then some '\r'
  else if c == 't' then some '\t'
  else none

/-- Reads a text from behind its opening quote. The first argument is the document from that quote
on. -/
def scanText (opening : List Char) : List Char → Except Problem (List Char × List Char)
  | [] => failAt .unterminated opening
  | '"' :: rest => .ok ([], rest)
  | '\\' :: [] => failAt .unterminated opening
  | '\\' :: 'u' :: a :: b :: c :: d :: next :: rest =>
    match unit? a b c d with
    | none => .error ⟨.unicodeEscape, rest.length + 6⟩
    | some code =>
      let single : Except Problem (List Char × List Char) := do
        let (chars, rest) ← scanText opening (next :: rest)
        return (unitChar code :: chars, rest)
      if isHigh code then
        match next, rest with
        | '\\', 'u' :: e :: f :: g :: h :: last :: rest =>
          match unit? e f g h with
          | none => .error ⟨.unicodeEscape, rest.length + 6⟩
          | some low =>
            if isLow low then do
              let (chars, rest) ← scanText opening (last :: rest)
              return (pairChar code low :: chars, rest)
            else single
        | _, _ => single
      else single
  | '\\' :: 'u' :: rest => .error ⟨.unicodeEscape, rest.length + 1⟩
  | '\\' :: c :: rest =>
    match shortEscape? c with
    | none => .error ⟨.escape, rest.length + 2⟩
    | some escaped => do
      let (chars, rest) ← scanText opening rest
      return (escaped :: chars, rest)
  | c :: rest =>
    if c.toNat < 0x20 then .error ⟨.control, rest.length + 1⟩
    else do
      let (chars, rest) ← scanText opening rest
      return (c :: chars, rest)

/-! ## Numbers -/

/-- The characters of a whole number without needless zeros, and what follows. -/
def scanWhole : List Char → Option (List Char × List Char)
  | '0' :: rest => some (['0'], rest)
  | c :: rest =>
    if Numeral.isDigit c then some (c :: rest.takeWhile Numeral.isDigit, rest.dropWhile Numeral.isDigit)
    else none
  | [] => none

/-- The digits after a point, if there are some, and what follows. -/
def scanFraction : List Char → List Char × List Char
  | '.' :: rest =>
    let digits := rest.takeWhile Numeral.isDigit
    if digits.isEmpty then ([], '.' :: rest) else (digits, rest.dropWhile Numeral.isDigit)
  | s => ([], s)

/-- An exponent, if there is one, and what follows. -/
def scanExponent (s : List Char) : Option Int × List Char :=
  match s with
  | c :: rest =>
    if c == 'e' || c == 'E' then
      let (negative, digits) := Numeral.sign rest
      let run := digits.takeWhile Numeral.isDigit
      if run.isEmpty then (none, s)
      else
        let value : Int := Numeral.digitsValue run
        (some (if negative then -value else value), digits.dropWhile Numeral.isDigit)
    else (none, s)
  | [] => (none, s)

/-- Reads a number from behind its sign; `start` is the place of the whole number. -/
def scanNumber (start : List Char) (negative : Bool) (s : List Char) :
    Except Problem (Value × List Char) :=
  match scanWhole s with
  | none => failAt .value start
  | some (digits, rest) =>
    let (fraction, rest) := scanFraction rest
    let (exponent, rest) := scanExponent rest
    if fraction.isEmpty && exponent.isNone then
      if Numeral.digitLimit < digits.length then failAt (.digits digits.length) start
      else
        let value : Int := Numeral.digitsValue digits
        .ok (.int (if negative then -value else value), rest)
    else
      let d : Decimal :=
        ⟨Numeral.digitsValue (digits ++ fraction), exponent.getD 0 - fraction.length⟩
      .ok (.float (d.toBinary64 negative), rest)

/-! ## Values -/

/-- What a word at the beginning of a text leaves. -/
def after? (word : String) (s : List Char) : Option (List Char) :=
  if word.toList.isPrefixOf s then some (s.drop word.length) else none

/-- Reads a value that is no text, list or object. -/
def scanAtom (s : List Char) : Except Problem (Value × List Char) :=
  if let some rest := after? "null" s then .ok (.null, rest)
  else if let some rest := after? "true" s then .ok (.bool true, rest)
  else if let some rest := after? "false" s then .ok (.bool false, rest)
  else if let some rest := after? "NaN" s then .ok (.float .nan, rest)
  else if let some rest := after? "Infinity" s then .ok (.float (.infinity false), rest)
  else if let some rest := after? "-Infinity" s then .ok (.float (.infinity true), rest)
  else
    match s with
    | '-' :: rest => scanNumber s true rest
    | _ => scanNumber s false s

mutual

/-- Reads a value with at most `levels` lists and objects inside each other. The fuel bounds the steps
and is never used up when it exceeds twice the length. -/
def scanValue : Nat → Nat → List Char → Except Problem (Value × List Char)
  | 0, _, s => failAt .value s
  | fuel + 1, levels, s =>
    match s with
    | '"' :: rest => do
      let (chars, rest) ← scanText s rest
      return (.text (String.ofList chars), rest)
    | '[' :: rest =>
      match levels with
      | 0 => failAt (.depth "array") s
      | levels + 1 =>
        match skip rest with
        | ']' :: rest => .ok (.list [], rest)
        | rest => do
          let (items, rest) ← scanItems fuel levels rest
          return (.list items, rest)
    | '\x7b' :: rest =>
      match levels with
      | 0 => failAt (.depth "object") s
      | levels + 1 =>
        match skip rest with
        | '\x7d' :: rest => .ok (.object [], rest)
        | rest => do
          let (fields, rest) ← scanFields fuel levels rest
          return (.object (Fields.ofPairs fields), rest)
    | _ => scanAtom s

/-- Reads the items of a list up to its bracket. -/
def scanItems : Nat → Nat → List Char → Except Problem (List Value × List Char)
  | 0, _, s => failAt .value s
  | fuel + 1, levels, s => do
    let (item, rest) ← scanValue fuel levels s
    match skip rest with
    | ']' :: rest => return ([item], rest)
    | ',' :: rest =>
      let (items, rest) ← scanItems fuel levels (skip rest)
      return (item :: items, rest)
    | rest => failAt .comma rest

/-- Reads the fields of an object up to its brace. -/
def scanFields : Nat → Nat → List Char → Except Problem (List (String × Value) × List Char)
  | 0, _, s => failAt .value s
  | fuel + 1, levels, s =>
    match s with
    | '"' :: rest => do
      let (name, rest) ← scanText s rest
      match skip rest with
      | ':' :: rest =>
        let (v, rest) ← scanValue fuel levels (skip rest)
        let field := (String.ofList name, v)
        match skip rest with
        | '\x7d' :: rest => return ([field], rest)
        | ',' :: rest =>
          let (fields, rest) ← scanFields fuel levels (skip rest)
          return (field :: fields, rest)
        | rest => failAt .comma rest
      | rest => failAt .colon rest
    | _ => failAt .name s

end

/-- Reads a document. -/
def decode (document : List Char) : Except Problem Value :=
  if document.head? = some (Char.ofNat 0xFEFF) then failAt .byteOrderMark document
  else do
    let (v, rest) ← scanValue (2 * document.length + 2) levelLimit (skip document)
    let rest := skip rest
    if rest.isEmpty then return v else failAt .extra rest

end DataGateway.Json
