import DataGateway.Sorting.Merge
import DataGateway.Sorting.Run

/-!
# Natural sorting

A stable sort that finds the runs of a list and merges neighbouring ones. The order of the merges
follows the power of the boundary between two runs: the number of binary digits needed to tell the
middles of both apart, as places in the whole list. Boundaries of a high power are merged first.

Comparing may fail, and may even follow no order at all: then the result is what these comparisons
make of the list, and the failure is the first one that happens.
-/

namespace DataGateway.Sorting

variable {α ε : Type} (before : α → α → Except ε Bool)

/-- A run that waits to be merged with the next one: where it begins in the whole list, its items, and
the power of the boundary behind it. -/
structure Waiting (α : Type) where
  start : Nat
  items : List α
  power : Nat := 0

/-- The number of binary digits needed to tell the fractions `a / n` and `b / n` apart, the digit
before the point counted. -/
def digitsApart (n : Nat) : Nat → Nat → Nat → Nat
  | 0, _, _ => 0
  | fuel + 1, a, b =>
    if a / n != b / n then 1 else digitsApart n fuel (2 * (a % n)) (2 * (b % n)) + 1

/-- The power of the boundary between two neighbouring runs in a list of a length. -/
def boundaryPower (total start first second : Nat) : Nat :=
  let middle := 2 * start + first
  digitsApart total (total + 1) middle (middle + first + second)

def join (threshold : Nat) (ahead last : Waiting α) : Except ε (Waiting α × Nat) := do
  let (items, threshold) ← merge before threshold ahead.items last.items
  return ({ ahead with items }, threshold)

/-- Merges the last runs while the boundary between them has a higher power. The runs stand with the
last one first. -/
def collapse (power : Nat) : Nat → Nat → List (Waiting α) → Except ε (List (Waiting α) × Nat)
  | fuel + 1, threshold, last :: ahead :: rest => do
    if power < ahead.power then
      let (joined, threshold) ← join before threshold ahead last
      collapse power fuel threshold (joined :: rest)
    else return (last :: ahead :: rest, threshold)
  | _, threshold, runs => .ok (runs, threshold)

/-- Puts a new run behind those that wait. -/
def push (total threshold : Nat) (runs : List (Waiting α)) (items : List α) :
    Except ε (List (Waiting α) × Nat) :=
  match runs with
  | [] => .ok ([{ start := 0, items }], threshold)
  | last :: _ => do
    let power := boundaryPower total last.start last.items.length items.length
    let start := last.start + last.items.length
    match ← collapse before power runs.length threshold runs with
    | (last :: rest, threshold) => return ({ start, items } :: { last with power } :: rest, threshold)
    | ([], threshold) => return ([{ start, items }], threshold)

/-- Finds run after run and puts each behind those that wait. -/
def gather (total least : Nat) :
    Nat → Nat → List (Waiting α) → List α → Except ε (List (Waiting α) × Nat)
  | fuel + 1, threshold, runs, item :: rest => do
    let (run, rest) ← extendedRun before least (item :: rest)
    let (runs, threshold) ← push before total threshold runs run
    gather total least fuel threshold runs rest
  | _, threshold, runs, _ => .ok (runs, threshold)

/-- Merges all that wait, the last two runs or, when the last is longer than the third-last, the two
ahead of it. -/
def finish : Nat → Nat → List (Waiting α) → Except ε (List α)
  | fuel + 1, threshold, last :: middle :: first :: rest => do
    -- of three runs the shorter outer one is merged with the middle one
    if first.items.length < last.items.length then
      let (joined, threshold) ← join before threshold first middle
      finish fuel threshold (last :: joined :: rest)
    else
      let (joined, threshold) ← join before threshold middle last
      finish fuel threshold (joined :: first :: rest)
  | _, threshold, [last, first] => do return (← join before threshold first last).1.items
  | _, _, runs => .ok (runs.reverse.flatMap (·.items))

def sort (items : List α) : Except ε (List α) := do
  let total := items.length
  let (runs, threshold) ← gather before total (leastRun total) total longStretch [] items
  finish before runs.length threshold runs

end DataGateway.Sorting
