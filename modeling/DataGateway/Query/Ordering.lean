import DataGateway.Sorting.Natural
import DataGateway.Value.Access

/-!
# Ordering of rows

A stable sort by keys of any kind. Keys that are all texts or all whole numbers are in a linear order,
so any stable sort will do. Of other keys some may not be ordered: the natural sort says which two are
reported, and where an indefinite number, which is before nothing, ends up.
-/

namespace DataGateway.Query

/-- A row with the key to sort it by. -/
structure Keyed where
  key : Value
  row : Value

namespace Keyed

def before (a b : Keyed) : Except Value.Clash Bool := (· == .less) <$> a.key.relate b.key

/-! ## Keys of one kind -/

/-- The text of a key, if all keys are texts. -/
def textKey? (k : Keyed) : Option String :=
  match k.key with
  | .text s => some s
  | _ => none

/-- The whole number of a key, if all keys are whole numbers; truth values count as one and zero. -/
def wholeKey? (k : Keyed) : Option Int := k.key.whole?

/-- Are the keys of one of the two kinds? -/
def isUniform (rows : List Keyed) : Bool :=
  rows.all (fun k => (textKey? k).isSome) || rows.all (fun k => (wholeKey? k).isSome)

/-- May the first row stand before the second? -/
def mayPrecede (a b : Keyed) : Bool :=
  match b.key.relate a.key with
  | .ok relation => relation != .less
  | .error _ => true

/-! ## Sorting -/

def sortUp (rows : List Keyed) : Except Value.Clash (List Keyed) :=
  if isUniform rows then .ok (rows.mergeSort mayPrecede) else Sorting.sort before rows

/-- Sorts rows in a direction; equal keys keep their order in both. -/
def sort (ascending : Bool) (rows : List Keyed) : Except Value.Clash (List Keyed) :=
  if ascending then sortUp rows else List.reverse <$> sortUp rows.reverse

end Keyed

end DataGateway.Query
