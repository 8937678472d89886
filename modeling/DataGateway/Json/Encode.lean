import DataGateway.Json.Text
import DataGateway.Value.Access

/-!
# Writing JSON

Values as JSON documents. Tuples are written as lists, octets and entities as the text they have
standing alone, and the three special binary64 numbers as `NaN`, `Infinity` and `-Infinity`.

* `Json.compact` is the layout on one line, `Json.indented` the one with two blanks a level;
* `Json.requireWritable` stops at what has no document: a whole number of too many digits, and lists and
  objects too deep inside each other;
* `Json.normalize` is the value that a document says again when it is read.
-/

namespace DataGateway.Json

/-! ## Layout -/

/-- What stands around the items of a list or an object at a level of nesting. -/
structure Layout where
  opening : Nat → List Char
  separator : Nat → List Char
  closing : Nat → List Char

def compact : Layout where
  opening _ := []
  separator _ := [',', ' ']
  closing _ := []

/-- A line break and two blanks for every level. -/
def lineBreak (level : Nat) : List Char := '\n' :: List.replicate (2 * level) ' '

def indented : Layout where
  opening := lineBreak
  separator level := ',' :: lineBreak level
  closing level := lineBreak (level - 1)

/-- Lays items out between brackets. -/
def Layout.surround (layout : Layout) (level : Nat) (left right : Char)
    (items : List (List Char)) : List Char :=
  if items.isEmpty then [left, right]
  else
    left :: (layout.opening level ++ (layout.separator level).intercalate items ++
      layout.closing level ++ [right])

/-! ## Values -/

def encodeFloat : Binary64 → List Char
  | .nan _ => "NaN".toList
  | .infinity false => "Infinity".toList
  | .infinity true => "-Infinity".toList
  | .finite negative m => (Binary64.finiteText negative m).toList

mutual

def encodeAt (layout : Layout) (level : Nat) : Value → List Char
  | .null => "null".toList
  | .bool b => (if b then "true" else "false").toList
  | .int n => (toString n).toList
  | .float x => encodeFloat x
  | .text s => encodeText s
  | .octets bytes => encodeText (Value.octets bytes).display
  | .list items => layout.surround (level + 1) '[' ']' (encodeItems layout (level + 1) items)
  | .tuple items => layout.surround (level + 1) '[' ']' (encodeItems layout (level + 1) items)
  | .object fields =>
    layout.surround (level + 1) '\x7b' '\x7d' (encodeFields layout (level + 1) fields)
  | .entity kind mark fields => encodeText (Value.entity kind mark fields).display

def encodeItems (layout : Layout) (level : Nat) : List Value → List (List Char)
  | [] => []
  | item :: rest => encodeAt layout level item :: encodeItems layout level rest

def encodeFields (layout : Layout) (level : Nat) : List (String × Value) → List (List Char)
  | [] => []
  | (name, v) :: rest =>
    (encodeText name ++ ':' :: ' ' :: encodeAt layout level v) :: encodeFields layout level rest

end

def encode (layout : Layout) (v : Value) : List Char := encodeAt layout 0 v

/-! ## What can be written -/

/-- The most lists and objects inside each other that are written and read. -/
def levelLimit : Nat := 980

mutual

/-- Goes through a value as it is written where at most `levels` lists and objects may be inside each
other, and stops at what cannot be written. -/
def requireWritable (levels : Nat) : Value → Except Fault Unit
  | .int n => (Value.int n).requirePrintable
  | .list items | .tuple items =>
    match levels with
    | 0 => .error (.misuse .documentNesting)
    | levels + 1 => requireItems levels items
  | .object fields =>
    match levels with
    | 0 => .error (.misuse .documentNesting)
    | levels + 1 => requireFields levels fields
  | .entity kind mark fields => (Value.entity kind mark fields).requirePrintable
  | _ => .ok ()

def requireItems (levels : Nat) : List Value → Except Fault Unit
  | [] => .ok ()
  | item :: rest => do
    requireWritable levels item
    requireItems levels rest

def requireFields (levels : Nat) : List (String × Value) → Except Fault Unit
  | [] => .ok ()
  | (_, v) :: rest => do
    requireWritable levels v
    requireFields levels rest

end

/-- The name in a document for what is kept under a key: numbers and the three words are written as
they would be as values. -/
def nameOf (key : Key) : Except Fault String :=
  match key.value with
  | .text s => .ok s
  | .null | .bool _ | .int _ | .float _ => do
    requireWritable levelLimit key.value
    return String.ofList (encodeAt compact 0 key.value)
  | v => .error (.misuse (.documentKey v.kindName))

/-- The fields of an object with values under keys, each under its name in a document. -/
def objectOf : List (Key × Value) → Except Fault (List (String × Value))
  | [] => .ok []
  | (key, v) :: rest => do
    let name ← nameOf key
    requireWritable (levelLimit - 1) v
    return (name, v) :: (← objectOf rest)

/-! ## Normal form -/

mutual

/-- The value that a document says again: of two fields with one name the later, and indefinite numbers
of one origin. -/
def normalize : Value → Value
  | .float (.nan _) => .float .nan
  | .octets bytes => .text (Value.octets bytes).display
  | .list items => .list (normalizeItems items)
  | .tuple items => .list (normalizeItems items)
  | .object fields => .object (Fields.ofPairs (normalizeFields fields))
  | .entity kind mark fields => .text (Value.entity kind mark fields).display
  | v => v

def normalizeItems : List Value → List Value
  | [] => []
  | item :: rest => normalize item :: normalizeItems rest

def normalizeFields : List (String × Value) → List (String × Value)
  | [] => []
  | (name, v) :: rest => (name, normalize v) :: normalizeFields rest

end

/-- A value as it comes back when it is written and read. -/
def copy (v : Value) : Except Fault Value := do
  requireWritable levelLimit v
  return normalize v

end DataGateway.Json
