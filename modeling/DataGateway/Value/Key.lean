import DataGateway.Fault
import DataGateway.Value.Literal

/-!
# Keys

Values that things can be kept under: all but lists and objects, and tuples and conditions with one of
these inside.
Two keys are one when they are the same thing, so a truth value and a number can be one key, and a
number is never one with its text.

* `Key.ofValue` is the key that a value is, unless a part of it keeps it from being one;
* `Key.collect` keeps values under keys, the later of two values under one key.
-/

namespace DataGateway

namespace Value

mutual

/-- The kind of the part that keeps a value from being a key. -/
def unhashablePart? : Value → Option String
  | list _ => some "list"
  | object _ => some "dict"
  | tuple items => unhashableItem? items
  | entity (.condition _) _ fields => unhashableMember? fields
  | _ => none

def unhashableItem? : List Value → Option String
  | [] => none
  | item :: rest =>
    match unhashablePart? item with
    | some kind => some kind
    | none => unhashableItem? rest

def unhashableMember? : List (String × Value) → Option String
  | [] => none
  | (_, v) :: rest =>
    match unhashablePart? v with
    | some kind => some kind
    | none => unhashableMember? rest

end

end Value

/-- A value that things can be kept under. -/
structure Key where
  value : Value
  hashable : value.unhashablePart? = none

namespace Key

instance : BEq Key := ⟨fun a b => a.value.same b.value⟩

def ofValue (v : Value) : Except Fault Key :=
  match h : v.unhashablePart? with
  | some kind => .error (.misuse (.unhashable kind))
  | none => .ok ⟨v, h⟩

def ofText (s : String) : Key := ⟨.text s, rfl⟩

instance : Coe String Key := ⟨ofText⟩

def display (key : Key) : String := key.value.display

/-- Values under keys as the fields of an object, each key by its text. -/
def collect (pairs : List (Key × Value)) : Record :=
  (Fields.ofPairs pairs).map fun (key, v) => (key.display, v)

end Key

end DataGateway
