import DataGateway.Sorting.Boundary

/-!
# Merging two runs

Two sorted runs, the first ahead of the second, become one; of equal items those of the first run
come first. The items are taken one by one; when one run has won often enough in a row, stretches of
it are searched for and taken as a whole. How often is enough is learned: the threshold falls while
stretches are long and rises when they are not.

* `mergeForward` goes through both runs from their beginnings, which suits a shorter first run;
* `mergeBackward` goes from their ends, which suits a shorter second run;
* `merge` leaves out what is in place at either end, and goes forward or backward.

All three return the merged run and the threshold.
-/

namespace DataGateway.Sorting

variable {α ε : Type} (before : α → α → Except ε Bool)

/-- The first threshold, and the length from which a stretch is long. -/
def longStretch : Nat := 7

abbrev Merged (α : Type) := List α × Nat

/-- The merged run behind items that come before it. -/
def Merged.after (items : List α) (merged : Merged α) : Merged α := (items ++ merged.1, merged.2)

/-! ## Forward -/

mutual

/-- Takes items one by one from the beginnings of two runs, the first with at least two items. -/
def stepForward : Nat → Nat → Nat → Nat → List α → List α → Except ε (Merged α)
  | fuel + 1, threshold, firstWins, secondWins, x :: xs, y :: ys => do
    if ← before y x then
      if ys.isEmpty then return (y :: x :: xs, threshold)
      else if threshold ≤ secondWins + 1 then
        return .after [y] (← gallopForward fuel (threshold + 1) (x :: xs) ys)
      else return .after [y] (← stepForward fuel threshold 0 (secondWins + 1) (x :: xs) ys)
    else
      if xs.length == 1 then return (x :: y :: ys ++ xs, threshold)
      else if threshold ≤ firstWins + 1 then
        return .after [x] (← gallopForward fuel (threshold + 1) xs (y :: ys))
      else return .after [x] (← stepForward fuel threshold (firstWins + 1) 0 xs (y :: ys))
  | _, threshold, _, _, xs, ys => .ok (xs ++ ys, threshold)

/-- Takes stretches from the beginnings of two runs, the first with at least two items. -/
def gallopForward : Nat → Nat → List α → List α → Except ε (Merged α)
  | fuel + 1, threshold, xs, y :: ys => do
    let threshold := max 1 (threshold - 1)
    let place ← boundary (fun x => not <$> before y x) xs 0
    let (taken, xs) := (xs.take place, xs.drop place)
    if xs.length == 1 then return (taken ++ y :: ys ++ xs, threshold)
    match xs with
    | [] => return (taken ++ y :: ys, threshold)
    | x :: rest =>
      if ys.isEmpty then return (taken ++ y :: xs, threshold)
      let stretch ← boundary (fun z => before z x) ys 0
      let (passed, ys) := (ys.take stretch, ys.drop stretch)
      let taken := taken ++ y :: passed
      if ys.isEmpty then return (taken ++ xs, threshold)
      let taken := taken ++ [x]
      if rest.length == 1 then return (taken ++ ys ++ rest, threshold)
      if longStretch ≤ place || longStretch ≤ stretch then
        return .after taken (← gallopForward fuel threshold rest ys)
      else return .after taken (← stepForward fuel (threshold + 1) 0 0 rest ys)
  | _, threshold, xs, ys => .ok (xs ++ ys, threshold)

end

/-- Merges two runs from their beginnings; the first item of the second run comes first of all. -/
def mergeForward (threshold : Nat) (xs : List α) : List α → Except ε (Merged α)
  | [] => .ok (xs, threshold)
  | y :: ys =>
    if ys.isEmpty then .ok (y :: xs, threshold)
    else if xs.length == 1 then .ok (y :: ys ++ xs, threshold)
    else Merged.after [y] <$> stepForward before (xs.length + ys.length) threshold 0 0 xs ys

/-! ## Backward -/

mutual

/-- Takes items one by one from the ends of two runs, which are given from their ends on, the second
with at least two items; `sorted` is what has been taken so far. -/
def stepBackward : Nat → Nat → Nat → Nat → List α → List α → List α → Except ε (Merged α)
  | fuel + 1, threshold, firstWins, secondWins, x :: xs, y :: ys, sorted => do
    if ← before y x then
      let sorted := x :: sorted
      if xs.isEmpty then return ((y :: ys).reverse ++ sorted, threshold)
      else if threshold ≤ firstWins + 1 then
        gallopBackward fuel (threshold + 1) xs (y :: ys) sorted
      else stepBackward fuel threshold (firstWins + 1) 0 xs (y :: ys) sorted
    else
      let sorted := y :: sorted
      if ys.length == 1 then return (ys ++ (x :: xs).reverse ++ sorted, threshold)
      else if threshold ≤ secondWins + 1 then
        gallopBackward fuel (threshold + 1) (x :: xs) ys sorted
      else stepBackward fuel threshold 0 (secondWins + 1) (x :: xs) ys sorted
  | _, threshold, _, _, xs, ys, sorted => .ok (xs.reverse ++ ys.reverse ++ sorted, threshold)

/-- Takes stretches from the ends of two runs, which are given from their ends on, the second with at
least two items; `sorted` is what has been taken so far. -/
def gallopBackward : Nat → Nat → List α → List α → List α → Except ε (Merged α)
  | fuel + 1, threshold, xs, y :: ys, sorted => do
    let threshold := max 1 (threshold - 1)
    let place ← boundary (fun x => not <$> before y x) xs.reverse (xs.length - 1)
    let stretch := xs.length - place
    let sorted := (xs.take stretch).reverse ++ sorted
    match xs.drop stretch with
    | [] => return ((y :: ys).reverse ++ sorted, threshold)
    | x :: rest =>
      let sorted := y :: sorted
      if ys.length == 1 then return (ys ++ (x :: rest).reverse ++ sorted, threshold)
      let place ← boundary (fun z => before z x) ys.reverse (ys.length - 1)
      let passed := ys.length - place
      let sorted := (ys.take passed).reverse ++ sorted
      let ys := ys.drop passed
      if ys.length == 1 then return (ys ++ (x :: rest).reverse ++ sorted, threshold)
      if ys.isEmpty then return ((x :: rest).reverse ++ sorted, threshold)
      let sorted := x :: sorted
      if rest.isEmpty then return (ys.reverse ++ sorted, threshold)
      if longStretch ≤ stretch || longStretch ≤ passed then
        gallopBackward fuel threshold rest ys sorted
      else stepBackward fuel (threshold + 1) 0 0 rest ys sorted
  | _, threshold, xs, ys, sorted => .ok (xs.reverse ++ ys.reverse ++ sorted, threshold)

end

/-- Merges two runs from their ends; the last item of the first run comes last of all. -/
def mergeBackward (threshold : Nat) (xs ys : List α) : Except ε (Merged α) :=
  match xs.reverse with
  | [] => .ok (ys, threshold)
  | x :: rest =>
    if rest.isEmpty then .ok (ys ++ [x], threshold)
    else if ys.length == 1 then .ok (ys ++ xs, threshold)
    else stepBackward before (xs.length + ys.length) threshold 0 0 rest ys.reverse [x]

/-! ## Both ways -/

def merge (threshold : Nat) (xs ys : List α) : Except ε (Merged α) :=
  match ys with
  | [] => .ok (xs, threshold)
  | y :: _ => do
    -- what the first run has ahead of the second one is in place already
    let start ← boundary (fun x => not <$> before y x) xs 0
    let (ahead, xs) := (xs.take start, xs.drop start)
    match xs.getLast? with
    | none => return (ahead ++ ys, threshold)
    | some x =>
      -- and so is what the second has behind the first
      let stop ← boundary (fun z => before z x) ys (ys.length - 1)
      let (ys, behind) := (ys.take stop, ys.drop stop)
      let (middle, threshold) ←
        if ys.isEmpty then pure (xs, threshold)
        else if xs.length ≤ ys.length then mergeForward before threshold xs ys
        else mergeBackward before threshold xs ys
      return (ahead ++ middle ++ behind, threshold)

end DataGateway.Sorting
