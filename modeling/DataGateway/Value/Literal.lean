import DataGateway.Number.Decimal
import DataGateway.Number.Numeral
import DataGateway.Text.Quoted
import DataGateway.Value.Basic

/-!
# Text of values

`Value.literal` writes a value as it stands inside a collection or a message, `Value.display` as it
stands alone: a text then has no quotes. Both are the text of a value that `Value.isPrintable`; one with
a whole number of too many digits inside has none.
-/

namespace DataGateway.Value

/-- Joins literals with commas between brackets. -/
def bracketed (opening closing : String) (parts : List String) : String :=
  opening ++ ", ".intercalate parts ++ closing

mutual

def literal : Value → String
  | null => "None"
  | bool b => if b then "True" else "False"
  | int n => toString n
  | float x => x.text
  | text s => Text.quoted s
  | octets bytes => Text.quotedOctets bytes
  | list items => bracketed "[" "]" (literals items)
  | tuple items => match items with
    | [item] => bracketed "(" ",)" [literal item]
    | items => bracketed "(" ")" (literals items)
  | object fields => bracketed "\x7b" "\x7d" (fieldLiterals fields)
  | entity kind _ fields => match kind with
    | .condition operator => bracketed (conditionClass operator ++ "(") ")" (memberLiterals fields)
    | kind => "<" ++ kind.name ++ ">"

def literals : List Value → List String
  | [] => []
  | item :: rest => literal item :: literals rest

def fieldLiterals : List (String × Value) → List String
  | [] => []
  | (name, v) :: rest => (Text.quoted name ++ ": " ++ literal v) :: fieldLiterals rest

def memberLiterals : List (String × Value) → List String
  | [] => []
  | (name, v) :: rest => (name ++ "=" ++ literal v) :: memberLiterals rest

end

def display : Value → String
  | text s => s
  | v => v.literal

mutual

/-- Has a value a text? It has none if there is a whole number of too many digits in it. -/
def isPrintable : Value → Bool
  | int n => Numeral.isWritable n
  | list items => itemsPrintable items
  | tuple items => itemsPrintable items
  | object fields => fieldsPrintable fields
  | entity kind _ fields =>
    match kind with
    | .condition _ => fieldsPrintable fields
    | _ => true
  | _ => true

def itemsPrintable : List Value → Bool
  | [] => true
  | item :: rest => isPrintable item && itemsPrintable rest

def fieldsPrintable : List (String × Value) → Bool
  | [] => true
  | (_, v) :: rest => isPrintable v && fieldsPrintable rest

end

end DataGateway.Value
