/-!
# Fields

Names with values in the order in which the names first came. A name occurs once; writing to a name
that is there keeps its place. Names are texts unless another kind of name is asked for, and two
names are one when their kind says so.
-/

namespace DataGateway

/-- Names with values, in order. -/
abbrev Fields (α : Type) (κ : Type := String) := List (κ × α)

namespace Fields

variable {α β κ : Type}

def names (fields : Fields α κ) : List κ := fields.map (·.1)

def values (fields : Fields α κ) : List α := fields.map (·.2)

def mapValues (f : α → β) (fields : Fields α κ) : Fields β κ := fields.map fun (n, v) => (n, f v)

variable [BEq κ]

/-- The value of a name. -/
def get? (fields : Fields α κ) (name : κ) : Option α := fields.lookup name

def has (fields : Fields α κ) (name : κ) : Bool := (fields.lookup name).isSome

/-- Writes a value in the place of its name, or at the end. -/
def set : Fields α κ → κ → α → Fields α κ
  | [], name, value => [(name, value)]
  | (n, v) :: rest, name, value =>
    if n == name then (n, value) :: rest else (n, v) :: set rest name value

/-- Writes the fields of the second argument over those of the first. -/
def merge (fields update : Fields α κ) : Fields α κ :=
  update.foldl (fun acc (name, value) => set acc name value) fields

def erase (fields : Fields α κ) (name : κ) : Fields α κ := fields.filter (·.1 != name)

/-- Fields from pairs in which a later pair counts. -/
def ofPairs (pairs : List (κ × α)) : Fields α κ := merge [] pairs

end Fields

end DataGateway
