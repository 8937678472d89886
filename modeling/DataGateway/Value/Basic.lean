import DataGateway.Fields
import DataGateway.Number.Binary64

/-!
# Values

The values that records hold and backends answer with: null, truth values, whole and fractional
numbers, text, octets, lists, tuples, objects with ordered fields, and entities, the things of a
client's own classes.
-/

namespace DataGateway

/-- What an entity is: a record that exports itself, one that can be converted, a condition of a filter
by the name of its operator, or a thing that can be turned into nothing else. -/
inductive EntityKind
  | exporting
  | convertible
  | condition (operator : String)
  | bare
  deriving DecidableEq

/-- A value of a record or an answer. The mark of an entity tells it apart from others; conditions
with equal members and one mark are equal. -/
inductive Value
  | null
  | bool (b : Bool)
  | int (n : Int)
  | float (x : Binary64)
  | text (s : String)
  | octets (bytes : List UInt8)
  | list (items : List Value)
  | tuple (items : List Value)
  | object (fields : List (String × Value))
  | entity (kind : EntityKind) (mark : Nat) (fields : List (String × Value))

instance : Inhabited Value := ⟨.null⟩

abbrev Record := Fields Value

/-- The name of the class of conditions with an operator. -/
def conditionClass : String → String
  | "eq" => "Eq"
  | "neq" => "Neq"
  | "gt" => "Gt"
  | "gte" => "Gte"
  | "lt" => "Lt"
  | "lte" => "Lte"
  | "like" => "Like"
  | "ilike" => "Ilike"
  | "in" => "In"
  | "is" => "IsNull"
  | _ => "FilterCondition"

/-- The name of an entity's class. -/
def EntityKind.name : EntityKind → String
  | .exporting => "Model"
  | .convertible => "DictModel"
  | .condition operator => conditionClass operator
  | .bare => "Opaque"

namespace Value

/-- The name of a value's kind, as messages give it. -/
def kindName : Value → String
  | null => "NoneType"
  | bool _ => "bool"
  | int _ => "int"
  | float _ => "float"
  | text _ => "str"
  | octets _ => "bytes"
  | list _ => "list"
  | tuple _ => "tuple"
  | object _ => "dict"
  | entity kind _ _ => kind.name

def isNull : Value → Bool
  | null => true
  | _ => false

def isIndefinite : Value → Bool
  | float (.nan _) => true
  | _ => false

def isBool : Value → Bool
  | bool _ => true
  | _ => false

def isList : Value → Bool
  | list _ => true
  | _ => false

/-- Does the value count as true? Null, false, zero and everything empty do not. -/
def truthy : Value → Bool
  | null => false
  | bool b => b
  | int n => n != 0
  | float x => !x.isZero
  | text s => s != ""
  | octets bytes => !bytes.isEmpty
  | list items => !items.isEmpty
  | tuple items => !items.isEmpty
  | object fields => !fields.isEmpty
  | entity _ _ _ => true

/-- The value itself when it counts as true, otherwise the other one. -/
def orElse (a b : Value) : Value := if a.truthy then a else b

def fields? : Value → Option Record
  | object fields => some fields
  | _ => none

def items? : Value → Option (List Value)
  | list items => some items
  | tuple items => some items
  | _ => none

def isObject (v : Value) : Bool := v.fields?.isSome

/-- The whole number that a number or a truth value stands for. -/
def whole? : Value → Option Int
  | int n => some n
  | bool b => some (if b then 1 else 0)
  | _ => none

/-- The place of a number on the line; truth values count as one and zero. -/
def quantity? : Value → Option Quantity
  | float x => some (.ofBinary64 x)
  | v => v.whole?.map .ofInt

end Value

end DataGateway
