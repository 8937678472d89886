import DataGateway.Json.Encode
import DataGateway.Store.Path

/-!
# Entries in memory

A store that keeps its entries in memory. What is written is kept in the normal form of JSON, so a
reader sees what a document would say. Readers get copies, and there is a limit to the lists and objects
inside each other of which a copy is made.
-/

namespace DataGateway

namespace Value

mutual

/-- Are there at most so many lists and objects inside each other? -/
def nestsWithin (levels : Nat) : Value → Bool
  | .list items | .tuple items =>
    match levels with
    | 0 => false
    | levels + 1 => itemsNestWithin levels items
  | .object fields =>
    match levels with
    | 0 => false
    | levels + 1 => fieldsNestWithin levels fields
  | _ => true

def itemsNestWithin (levels : Nat) : List Value → Bool
  | [] => true
  | item :: rest => item.nestsWithin levels && itemsNestWithin levels rest

def fieldsNestWithin (levels : Nat) : List (String × Value) → Bool
  | [] => true
  | (_, v) :: rest => v.nestsWithin levels && fieldsNestWithin levels rest

end

end Value

namespace Store

/-- Names in the order of their code points. -/
def sortNames (names : List String) : List String := names.mergeSort fun a b => !(b < a)

abbrev Memory := Fields Value

namespace Memory

/-- The most lists and objects inside each other of which a copy is made. A copy takes more room at each
level than a document. -/
def copyLimit : Nat := 480

/-- A copy of a value that is kept. -/
def copyOut (v : Value) : Except Fault Value :=
  if v.nestsWithin copyLimit then .ok v else .error (.misuse .copyNesting)

/-- A copy of the entry of a key, null when there is none. -/
def read (entries : Memory) (key : String) : Except Fault Value :=
  copyOut ((Fields.get? entries key).getD .null)

/-- Writes a value, which is kept as it would be read again. -/
def write (entries : Memory) (key : String) (v : Value) : Except Fault Memory := do
  return Fields.set entries key (← Json.copy v)

/-- The keys that start with the given characters, sorted. -/
def keys (entries : Memory) (start : String) : List String :=
  sortNames ((Fields.names entries).filter (startsWith start))

end Memory

end Store

end DataGateway
