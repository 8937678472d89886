import DataGateway.Number.Power
import DataGateway.Sorting.Boundary

/-!
# Runs

Beginnings of a list that are in order already, or in reverse order, and their extension to a least
length by inserting one item after another.
-/

namespace DataGateway.Sorting

variable {α ε : Type} (before : α → α → Except ε Bool)

/-- The longest beginning in which every item is before the one ahead of it, or, if `falling` is
false, none is; and what follows. -/
def runFrom (falling : Bool) (last : α) : List α → Except ε (List α × List α)
  | [] => .ok ([], [])
  | item :: rest => do
    if (← before item last) == falling then
      let (run, rest) ← runFrom falling item rest
      return (item :: run, rest)
    else return ([], item :: rest)

/-- The first run of a list, in order, and what follows. -/
def firstRun : List α → Except ε (List α × List α)
  | a :: b :: rest => do
    let falling ← before b a
    let (run, rest) ← runFrom before falling b rest
    let run := a :: b :: run
    return (if falling then run.reverse else run, rest)
  | items => .ok (items, [])

/-- Inserts items one by one into a sorted list, each behind its equals. -/
def insertAll (sorted : List α) : List α → Except ε (List α)
  | [] => .ok sorted
  | item :: rest => do
    let place ← halve (fun other => not <$> before item other) sorted 0 sorted.length
    insertAll (sorted.take place ++ item :: sorted.drop place) rest

/-- The first run of a list, extended to a least length if the list is long enough. -/
def extendedRun (least : Nat) (items : List α) : Except ε (List α × List α) := do
  let (run, rest) ← firstRun before items
  let missing := least - run.length
  return (← insertAll before run (rest.take missing), rest.drop missing)

/-- The least length of runs in a list of a length: all of a short list; otherwise between 32 and 64,
so that their number is a power of two or a little less. -/
def leastRun (length : Nat) : Nat :=
  if length < 64 then length
  else
    let block := power 2 (length.log2 - 5)
    (length + block - 1) / block

end DataGateway.Sorting
