import DataGateway.Gateway.Operation
import DataGateway.Offline.Backend
import DataGateway.Query.Ordering

/-!
# Rows of the offline backend

Selection, projection, ordering, paging and change of rows. Rows are mostly records, but a snapshot
may hold anything, and the failures on such rows are part of the answers.
-/

namespace DataGateway.Offline

/-! ## Reading -/

/-- The rows that a specification accepts. -/
def filterRows (spec : Spec) : Table → Except Fault Table
  | [] => .ok []
  | row :: rest => do
    let accepted ← spec.accepts row
    let others ← filterRows spec rest
    return if accepted then row :: others else others

/-- The columns of a row that are there, in the order of the names. -/
def pick (row : Value) : List String → Except Fault (List (String × Value))
  | [] => .ok []
  | name :: rest => do
    if ← row.holds name then
      let v ← row.under name
      return (name, v) :: (← pick row rest)
    else pick row rest

def project (columns row : Value) : Except Fault Value := do
  match ← Selection.ofValue columns with
  | .all => return .object (← row.asRecord)
  | .columns names => return .object (Fields.ofPairs (← pick row names))

def projectAll (columns : Value) : Table → Except Fault Table
  | [] => .ok []
  | row :: rest => do
    let projected ← project columns row
    return projected :: (← projectAll columns rest)

/-- The value of a column that may be of any kind; only texts name one. -/
def cell (row column : Value) : Except Fault Value := do
  let fields ← row.fieldsFor "get"
  -- a column that is no key fails, though no row could have it
  let _ ← Key.ofValue column
  match column with
  | .text name => return (Fields.get? fields name).getD .null
  | _ => return .null

def keyed (column : Value) : Table → Except Fault (List Query.Keyed)
  | [] => .ok []
  | row :: rest => do
    let key ← cell row column
    return ⟨key, row⟩ :: (← keyed column rest)

/-- Rows in order of a column; those without a value come last. -/
def orderRows (ordering : Query.Ordering) (rows : Table) : Except Fault Table := do
  let keys ← keyed ordering.column rows
  let present := keys.filter (!·.key.isNull)
  let missing := keys.filter (·.key.isNull)
  -- two keys that cannot be ordered are all that can go wrong with sorting
  match Query.Keyed.sort ordering.ascending.truthy present with
  | .ok sorted => return (sorted ++ missing).map (·.row)
  | .error clash => throw (.misuse (.unordered clash))

def page (limit offset : Option Query.Bound) (rows : Table) : Table :=
  let rest := rows.drop ((offset.map Query.Bound.toInt).getD 0).toNat
  match limit with
  | some bound => rest.take bound.toInt.toNat
  | none => rest

/-! ## Changing -/

/-- The time stamp of a moment, or one later than a previous stamp that is not earlier. -/
def advance (moment : Moment) (previous : Value) : Except Fault String :=
  match previous with
  | .text s =>
    match Calendar.Stamp.parse? s with
    | some stamp =>
      -- the clock stands still or has been set back
      if moment.now ≤ stamp.instant then
        if stamp.clock < Calendar.Stamp.lastClock then
          .ok (Calendar.Stamp.mk (stamp.clock + 1) (some (stamp.offset.getD 0))).text
        else .error (.misuse .dateRange)
      else .ok moment.stamp
    | none => .ok moment.stamp
  | _ => .ok moment.stamp

/-- A row with the fields of a patch and a later time of change. -/
def change (moment : Moment) (row patch : Value) : Except Fault Value := do
  let fields ← row.spread
  let update ← patch.spread
  -- the time that counts is that of the row, whatever the patch says
  let stamp ← advance moment ((Fields.get? fields "updated_at").getD .null)
  return .object (Fields.set (Fields.merge fields update) "updated_at" (.text stamp))

/-- Changes the rows that a test picks, one after another. The rows come back as they are at the
end or at the failure, together with the changed ones. -/
def changeRows (test : Value → Except Fault Bool) (change : Value → Except Fault Value) :
    Table → Table × Except Fault Table
  | [] => ([], .ok [])
  | row :: rest =>
    let step : Except Fault (Option Value) := do
      if ← test row then some <$> change row else return none
    match step with
    -- the rows that are left stay as they are
    | .error fault => (row :: rest, .error fault)
    | .ok none =>
      let (rows, changed) := changeRows test change rest
      (row :: rows, changed)
    | .ok (some new) =>
      let (rows, changed) := changeRows test change rest
      (new :: rows, (new :: ·) <$> changed)

/-- The rows that a specification keeps, and those that it removes. -/
def partitionRows (spec : Spec) : Table → Except Fault (Table × Table)
  | [] => .ok ([], [])
  | row :: rest => do
    let accepted ← spec.accepts row
    let (kept, removed) ← partitionRows spec rest
    return if accepted then (kept, row :: removed) else (row :: kept, removed)

/-- The index of the first row with the id of a record, if the record has one. -/
def indexOfId? (record : Record) : Nat → Table → Except Fault (Option Nat)
  | _, [] => .ok none
  | index, row :: rest =>
    -- without an id a record meets no row, not even one without an id
    match Fields.get? record "id" with
    | none => .ok none
    | some id => do
      if (← row.field "id").looseEq id then return some index
      else indexOfId? record (index + 1) rest

def findRow? (test : Value → Except Fault Bool) : Table → Except Fault (Option Value)
  | [] => .ok none
  | row :: rest => do
    if ← test row then return some row else findRow? test rest

end DataGateway.Offline
