/-!
# Boundaries in a run

Where a test that holds at the beginning of a list stops to hold. The test may fail to answer, and
then the search fails with it, so the order of the questions is part of what is defined here.

* `halve` searches between two bounds by halving;
* `boundary` first widens a window around a hint, by one, three, seven and so on, and halves in it.
-/

namespace DataGateway.Sorting

variable {α ε : Type}

/-- The first place from `low` on, and at most `high`, where a test does not hold, by halving. The
fuel bounds the number of questions. -/
def halveWithin (test : α → Except ε Bool) (items : List α) : Nat → Nat → Nat → Except ε Nat
  | 0, low, _ => .ok low
  | fuel + 1, low, high =>
    if low < high then
      let middle := low + (high - low) / 2
      match items[middle]? with
      | none => .ok low
      | some item => do
        if ← test item then halveWithin test items fuel (middle + 1) high
        else halveWithin test items fuel low middle
    else .ok low

/-- The first place from `low` on, and at most `high`, where a test does not hold. -/
def halve (test : α → Except ε Bool) (items : List α) (low high : Nat) : Except ε Nat :=
  halveWithin test items (high - low) low high

/-- Widens the distance while a test of the item at a distance answers `wanted`: the last distance
at which it did, and the first at which it did not or that is beyond the limit. -/
def widen (test : Nat → Except ε Bool) (wanted : Bool) (limit : Nat) :
    Nat → Nat → Nat → Except ε (Nat × Nat)
  | 0, near, far => .ok (near, min far limit)
  | fuel + 1, near, far =>
    if far < limit then do
      if (← test far) == wanted then widen test wanted limit fuel far (2 * far + 1)
      else return (near, far)
    else .ok (near, min far limit)

/-- The first place where a test does not hold, searched for from a hint on. -/
def boundary (test : α → Except ε Bool) (items : List α) (hint : Nat) : Except ε Nat := do
  let at? (place : Nat) : Except ε Bool :=
    match items[place]? with
    | some item => test item
    | none => .ok false
  if ← at? hint then
    -- the place lies behind the hint
    let limit := items.length - hint
    let (near, far) ← widen (fun distance => at? (hint + distance)) true limit limit 0 1
    halve test items (hint + near + 1) (hint + far)
  else
    -- the place lies at the hint or ahead of it
    let limit := hint + 1
    let (near, far) ← widen (fun distance => at? (hint - distance)) false limit limit 0 1
    halve test items (hint + 1 - far) (hint - near)

end DataGateway.Sorting
