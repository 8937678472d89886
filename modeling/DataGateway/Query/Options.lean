import DataGateway.Filter.Spec
import DataGateway.Query.Selection

/-!
# Query options

The options of a general query: selection, filters, ordering, page and the wish for a single record.
`Options.check` reads the filters and holds the page against its bounds, the limit first.
-/

namespace DataGateway.Query

/-- A column to order by, and whether upwards. -/
structure Ordering where
  column : Value
  ascending : Value := .bool true

/-- The options of a query as they were given. -/
structure Options where
  select : Value := .text "*"
  filters : Filters := .absent
  ordering : Option Ordering := none
  limit : Value := .null
  offset : Value := .null
  single : Value := .bool false

/-- A number that bounds a page; a truth value counts as one or zero. -/
inductive Bound
  | number (n : Int)
  | flag (b : Bool)
  deriving DecidableEq

namespace Bound

def toInt : Bound → Int
  | number n => n
  | flag b => if b then 1 else 0

def toValue : Bound → Value
  | number n => .int n
  | flag b => .bool b

def ofValue? : Value → Option Bound
  | .int n => some (number n)
  | .bool b => some (flag b)
  | _ => none

end Bound

structure Checked where
  spec : Spec
  limit : Option Bound
  offset : Option Bound

/-- Reads a bound that has to be at least `least`; null is no bound. -/
def checkBound (least : Int) (refusal : String → Refusal) (v : Value) :
    Except Fault (Option Bound) :=
  if v.isNull then .ok none
  else
    match Bound.ofValue? v with
    | some bound =>
      if least ≤ bound.toInt then .ok (some bound) else v.refuse refusal
    | none => v.refuse refusal

/-- Checks the limit, the offset and the filters, in this order. -/
def Options.check (options : Options) : Except Fault Checked := do
  let limit ← checkBound 1 .limit options.limit
  let offset ← checkBound 0 .offset options.offset
  let spec ← options.filters.parse
  return ⟨spec, limit, offset⟩

end DataGateway.Query
