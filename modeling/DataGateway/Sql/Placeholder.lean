import DataGateway.Sql.Builder

/-!
# Placeholders

The driver's form of a statement: numbered placeholders become `%s`, a percent sign is doubled, and
the arguments come in the order in which the placeholders stand, repeated if need be.
-/

namespace DataGateway.Sql

/-- A piece of a statement's text: a placeholder by its digits, or a character. -/
inductive Piece
  | placeholder (digits : List Char)
  | char (c : Char)
  deriving DecidableEq

namespace Piece

def isDigit : Piece → Bool
  | char c => Text.isDecimalDigit c
  | placeholder _ => false

def char? : Piece → Option Char
  | char c => some c
  | placeholder _ => none

def formatted : Piece → List Char
  | placeholder _ => ['%', 's']
  | char c => if c == '%' then ['%', '%'] else [c]

end Piece

/-- The pieces of a text. A dollar sign and the digits after it make a placeholder. -/
def piecesOf : List Char → List Piece
  | [] => []
  | c :: rest =>
    let after := piecesOf rest
    let digits := after.takeWhile Piece.isDigit
    if c == '$' && !digits.isEmpty then
      .placeholder (digits.filterMap Piece.char?) :: after.dropWhile Piece.isDigit
    else .char c :: after

def placeholderNumber (digits : List Char) : Except Fault Int :=
  Value.readWhole digits (Text.quoted (String.ofList digits))

def placeholderNumbers : List Piece → Except Fault (List Int)
  | [] => .ok []
  | .placeholder digits :: rest => do
    let n ← placeholderNumber digits
    return n :: (← placeholderNumbers rest)
  | .char _ :: rest => placeholderNumbers rest

/-- The driver's form of a statement's text with its arguments. -/
def driverForm {α : Type} (text : String) (arguments : List α) :
    Except Fault (String × List α) := do
  let pieces := piecesOf text.toList
  let numbers ← placeholderNumbers pieces
  -- every placeholder is checked before any is replaced
  if numbers.any fun n => n < 1 || (arguments.length : Int) < n then
    throw (.refused (.placeholder arguments.length))
  let format := String.ofList (pieces.flatMap Piece.formatted)
  return (format, numbers.filterMap fun n => arguments[n.toNat - 1]?)

/-! ## Statements given as values -/

def textOf : Value → Except Fault String
  | .text s => .ok s
  | .octets _ => .error (.misuse .patternOnOctets)
  | v => .error (.misuse (.patternOn v.kindName))

def argumentsOf (v : Value) : Except Fault (List Value) :=
  match v.elements with
  | .ok arguments => .ok arguments
  | .error _ => .error (.misuse (.noLength v.kindName))

/-- A statement with its arguments, which only matter when there are placeholders for them. -/
def readStatement (text arguments : Value) : Except Fault (String × List Value) := do
  let text ← textOf text
  let numbers ← placeholderNumbers (piecesOf text.toList)
  if numbers.isEmpty then return (text, [])
  return (text, ← argumentsOf arguments)

end DataGateway.Sql
