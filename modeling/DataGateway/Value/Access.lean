import DataGateway.Number.Numeral
import DataGateway.Text.Search
import DataGateway.Value.Key

/-!
# Use of values

Using a value as a text, a collection, a record or a number, with the misuse that arises when it is not
one.

* `Value.printed` is the text of a value that has one, `Value.refuse` repeats a value in a message;
* `Value.elements` are the things that a value goes through, `Value.holds` asks for a name in it;
* `Value.asRecord` reads a record from an object or from pairs;
* `Value.asWhole` takes the whole number from a number or a numeral.
-/

namespace DataGateway.Value

/-! ## Texts -/

def requirePrintable (v : Value) : Except Fault Unit :=
  if v.isPrintable then .ok () else .error (.misuse .wholeUnwritable)

/-- The text that a value has standing alone. -/
def printed (v : Value) : Except Fault String := do
  v.requirePrintable
  return v.display

/-- Refuses a value. One without a text cannot be repeated, and that is what goes wrong then. -/
def refuse {α : Type} (v : Value) (refusal : String → Refusal) : Except Fault α := do
  v.requirePrintable
  throw (.refused (refusal v.literal))

/-! ## Collections -/

/-- The things that a value goes through: items, names of fields, characters or octets. -/
def elements : Value → Except Fault (List Value)
  | list items => .ok items
  | tuple items => .ok items
  | object fields => .ok (fields.map fun (name, _) => text name)
  | text s => .ok (s.toList.map fun c => text (String.singleton c))
  | octets bytes => .ok (bytes.map fun b => int b.toNat)
  | v => .error (.misuse (.notIterable v.kindName))

/-- Does a value hold a name, as a field, an item or a part of a text? -/
def holds (v : Value) (name : String) : Except Fault Bool :=
  match v with
  | object fields => .ok (Fields.has fields name)
  | list items => .ok (items.any (looseEq (text name)))
  | tuple items => .ok (items.any (looseEq (text name)))
  | text s => .ok (Text.occursIn name.toList s.toList)
  | octets _ => .error (.misuse (.octetsExpected "str"))
  | v => .error (.misuse (.notContainer v.kindName))

/-- Does a text start with another one, or with an item of a tuple? -/
def textStarts (s : String) : Value → Except Fault Bool
  | text start => .ok (start.toList.isPrefixOf s.toList)
  | tuple starts => starts.foldlM
      (fun found start =>
        match found, start with
        | true, _ => .ok true
        | false, text start => .ok (start.toList.isPrefixOf s.toList)
        | false, start => .error (.misuse (.startInTuple start.kindName))) false
  | v => .error (.misuse (.startExpected "str" v.kindName))

/-- Do octets start with others, or with an item of a tuple? -/
def octetsStart (bytes : List UInt8) : Value → Except Fault Bool
  | octets start => .ok (start.isPrefixOf bytes)
  | tuple starts => starts.foldlM
      (fun found start =>
        match found, start with
        | true, _ => .ok true
        | false, octets start => .ok (start.isPrefixOf bytes)
        | false, start => .error (.misuse (.octetsExpected start.kindName))) false
  | v => .error (.misuse (.startExpected "bytes" v.kindName))

/-- Does a value start with another one? Only texts and octets can be asked. -/
def starts (v start : Value) : Except Fault Bool :=
  match v with
  | text s => textStarts s start
  | octets bytes => octetsStart bytes start
  | v => .error (.misuse (.noMember v.kindName "startswith"))

/-- The value under a name, for a value that holds the name. -/
def under (v : Value) (name : String) : Except Fault Value :=
  match v with
  | object fields =>
    match Fields.get? fields name with
    | some value => .ok value
    | none => .error (.misuse (.missingKey (Text.quoted name)))
  | text _ => .error (.misuse .textByName)
  | octets _ => .error (.misuse (.itemsByName "byte"))
  | list _ => .error (.misuse (.itemsByName "list"))
  | tuple _ => .error (.misuse (.itemsByName "tuple"))
  | v => .error (.misuse (.notSubscriptable v.kindName))

/-- The first item of a value that is not empty. -/
def first : Value → Except Fault Value
  | list (item :: _) => .ok item
  | tuple (item :: _) => .ok item
  | text s => .ok (text (String.ofList (s.toList.take 1)))
  | octets (b :: _) => .ok (int b.toNat)
  | object _ => .error (.misuse (.missingKey "0"))
  | v => .error (.misuse (.notSubscriptable v.kindName))

/-- The fields of a value that is asked for a member that only objects have. -/
def fieldsFor (member : String) : Value → Except Fault Record
  | object fields => .ok fields
  | v => .error (.misuse (.noMember v.kindName member))

/-- The value of a field, null when it is missing; only objects can be asked. -/
def field (v : Value) (name : String) : Except Fault Value := do
  let fields ← v.fieldsFor "get"
  return (Fields.get? fields name).getD .null

/-- Fields that are spread into another record. -/
def spread : Value → Except Fault Record
  | object fields => .ok fields
  | v => .error (.misuse (.notMapping v.kindName))

/-! ## Records -/

/-- The key and value of the pair at an index. -/
def asPair (index : Nat) (pair : Value) : Except Fault (Key × Value) :=
  match pair.elements with
  | .error _ => .error (.misuse (.pairExpected index))
  | .ok [name, value] => do return (← Key.ofValue name, value)
  | .ok parts => .error (.misuse (.pairLength index parts.length))

def asPairs (index : Nat) : List Value → Except Fault (List (Key × Value))
  | [] => .ok []
  | pair :: rest => do
    let field ← asPair index pair
    return field :: (← asPairs (index + 1) rest)

/-- The record that an object is, or that pairs make up. -/
def asRecord : Value → Except Fault Record
  | object fields => .ok fields
  | v => do
    let pairs ← v.elements
    return Key.collect (← asPairs 0 pairs)

/-- Turns an entity into a record as far as it can be turned; other values stay as they are. -/
def exported : Value → Value
  | entity .exporting _ fields => object (Fields.set fields "_mode" (text "json"))
  | entity .convertible _ fields => object (Fields.set fields "_via" (text "dict"))
  | v => v

/-! ## Whole numbers -/

/-- The longest literal that a message about a numeral repeats. -/
def literalLimit : Nat := 200

/-- Reads a whole number from characters; the literal stands in the message. -/
def readWhole (chars : List Char) (literal : String) : Except Fault Int :=
  match Numeral.whole chars with
  | .ok n => .ok n
  | .error .malformed =>
    .error (.misuse (.wholeMalformed (String.ofList (literal.toList.take literalLimit))))
  | .error (.tooLong digits) => .error (.misuse (.wholeTooLong digits))

/-- The whole number of a number, towards zero, or of a numeral. -/
def asWhole : Value → Except Fault Int
  | int n => .ok n
  | bool b => .ok (if b then 1 else 0)
  | float (.nan _) => .error (.misuse .indefiniteWhole)
  | float (.infinity _) => .error (.misuse .infiniteWhole)
  | float (.finite negative m) => .ok (Binary64.truncate negative m)
  | text s => readWhole s.toList (text s).literal
  | octets bytes =>
    readWhole (bytes.map fun b => if b < 0x7F then Char.ofNat b.toNat else '?') (octets bytes).literal
  | v => .error (.misuse (.noNumber v.kindName))

end DataGateway.Value
