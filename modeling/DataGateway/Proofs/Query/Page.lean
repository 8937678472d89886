import DataGateway.Gateway.Action
import DataGateway.Gateway.Operation
import DataGateway.Proofs.Except
import DataGateway.Proofs.Value.Print

/-!
# Pages of a query

A query answers with a page of the rows that it finds, or with the first row of the page.

* `Options.check_eq_ok` — the bounds of a page that has passed its checks;
* `Page.rows`, `Page.answer` — the rows of a page, and what is answered with them;
* `finish_rows` — what a backend makes of the rows of a page that the server has cut out.
-/

namespace DataGateway.Query

/-! ## Bounds -/

theorem le_of_checkBound {least : Int} {refusal : String → Refusal} {v : Value} {found : Option Bound}
    (checked : checkBound least refusal v = .ok found) : ∀ bound ∈ found, least ≤ bound.toInt := by
  unfold checkBound at checked
  intro bound member
  split at checked
  · cases checked
    cases member
  · simp only [Value.refuse_eq] at checked
    split at checked
    · split at checked
      · cases checked
        cases member
        assumption
      · cases checked
    · cases checked

/-- Options that pass their checks: the limit asks for one row at least, the offset passes over none at
least, and the filters can be read. -/
theorem Options.check_eq_ok {options : Options} {checked : Checked}
    (valid : options.check = .ok checked) : (∀ bound ∈ checked.limit, 1 ≤ bound.toInt) ∧
      (∀ bound ∈ checked.offset, 0 ≤ bound.toInt) ∧ options.filters.parse = .ok checked.spec := by
  rcases bind_eq_ok_iff.1 valid with ⟨limit, limited, rest⟩
  rcases bind_eq_ok_iff.1 rest with ⟨offset, shifted, rest⟩
  rcases bind_eq_ok_iff.1 rest with ⟨spec, parsed, rest⟩
  cases rest
  exact ⟨le_of_checkBound limited, le_of_checkBound shifted, parsed⟩

theorem Options.parse_of_check {options : Options} {checked : Checked}
    (valid : options.check = .ok checked) : options.filters.parse = .ok checked.spec :=
  (check_eq_ok valid).2.2

/-- Are the bounds numbers, and no truth values? -/
structure Checked.IsPlain (checked : Checked) : Prop where
  limit : ∀ bound ∈ checked.limit, ∃ n, bound = .number n
  offset : ∀ bound ∈ checked.offset, ∃ n, bound = .number n

/-! ## Pages -/

/-- A page of rows: how many are passed over, and how many are taken at most. -/
structure Page where
  offset : Nat := 0
  limit : Option Nat := none
  deriving DecidableEq

/-- The page that checked options ask for. -/
def Checked.page (checked : Checked) : Page where
  offset := ((checked.offset.map Bound.toInt).getD 0).toNat
  limit := checked.limit.map fun bound => bound.toInt.toNat

namespace Page

variable {α : Type} {page other : Page}

def rows (page : Page) (all : List α) : List α :=
  match page.limit with
  | some size => (all.drop page.offset).take size
  | none => all.drop page.offset

/-- What is answered: the page, or its first row. -/
def answer (page : Page) (single : Bool) (all : List Value) : Value :=
  if single then (page.rows all).headD .null else .list (page.rows all)

/-- Where one row is wanted and there is no limit, one row is enough. -/
def forOne (single : Bool) (page : Page) : Page :=
  if single && page.limit.isNone then { page with limit := some 1 } else page

theorem offset_forOne (single : Bool) (page : Page) : (page.forOne single).offset = page.offset := by
  unfold forOne
  split <;> rfl

theorem mem_of_mem_rows (page : Page) {all : List α} {row : α} (member : row ∈ page.rows all) :
    row ∈ all := by
  unfold rows at member
  split at member
  · exact List.mem_of_mem_drop (List.mem_of_mem_take member)
  · exact List.mem_of_mem_drop member

theorem head?_rows (positive : page.limit ≠ some 0) (all : List α) :
    (page.rows all).head? = (all.drop page.offset).head? := by
  unfold rows
  split
  · rename_i size bounded
    cases size with
    | zero => exact absurd bounded positive
    | succ size => cases all.drop page.offset <;> rfl
  · rfl

/-- The first row does not depend on the limit. -/
theorem answer_single (positive : page.limit ≠ some 0) (also : other.limit ≠ some 0)
    (same : page.offset = other.offset) (all : List Value) :
    page.answer true all = other.answer true all := by
  have first := (page.head?_rows positive all).trans (same ▸ (other.head?_rows also all).symm)
  simp only [answer, if_true, List.headD_eq_head?_getD, first]

theorem answer_forOne (positive : page.limit ≠ some 0) (single : Bool) (all : List Value) :
    (page.forOne single).answer single all = page.answer single all := by
  unfold forOne
  cases single with
  | false => rfl
  | true =>
      cases bounded : page.limit.isNone with
      | false => rfl
      | true =>
          have one : ({ page with limit := some 1 } : Page).limit ≠ some 0 := by simp
          exact answer_single one positive rfl all

end Page

theorem Checked.limit_forOne (checked : Checked) (single : Bool) :
    (checked.page.forOne single).limit =
      if single && checked.limit.isNone then some 1
      else checked.limit.map fun bound => bound.toInt.toNat := by
  have same : checked.page.limit.isNone = checked.limit.isNone := Option.isNone_map ..
  rw [Page.forOne, same]
  split <;> rfl

/-- The limit of a checked page takes one row at least. -/
theorem Checked.limit_page_ne {options : Options} {checked : Checked}
    (valid : options.check = .ok checked) : checked.page.limit ≠ some 0 := by
  intro zero
  rcases Option.map_eq_some_iff.1 zero with ⟨bound, given, none⟩
  have least := (Options.check_eq_ok valid).1 bound given
  omega

/-- Without a limit the page is all that is left. -/
theorem Checked.page_of_unlimited {checked : Checked} {bound : Bound} (unlimited : checked.limit = none)
    (shifted : checked.offset = some bound) : checked.page = { offset := bound.toInt.toNat } := by
  rw [page, unlimited, shifted]
  rfl

theorem Checked.isPlain_of_unlimited {checked : Checked} {bound : Bound} (unlimited : checked.limit = none)
    (shifted : checked.offset = some bound) (number : ∃ n, bound = .number n) : checked.IsPlain where
  limit := by
    rw [unlimited]
    nofun
  offset := by
    rw [shifted]
    rintro _ ⟨⟩
    exact number

/-! ## Answers -/

theorem firstOrNull_list (rows : List Value) : firstOrNull (.list rows) = .ok (rows.headD .null) := by
  cases rows <;> rfl

theorem orElse_list (rows : List Value) : (Value.list rows).orElse (.list []) = .list rows := by
  cases rows <;> rfl

/-- It makes no difference whether an answer that counts as false is an empty list. -/
theorem firstOrNull_orElse (rows : Value) : firstOrNull (rows.orElse (.list [])) = firstOrNull rows := by
  unfold Value.orElse
  split
  · rfl
  · rename_i falsy
    exact (if_neg falsy).symm

/-- The options that want one row, whichever comes first. -/
def Options.forOne (columns : Value) (filters : Filters) : Options :=
  { select := columns, filters, single := .bool true }

theorem Options.check_forOne (columns : Value) (filters : Filters) :
    (forOne columns filters).check = (fun spec => ⟨spec, none, none⟩) <$> filters.parse := rfl

/-- What is made of rows that a server has answered. -/
def finish (single : Bool) (rows : Value) : Except Fault Value :=
  if single then firstOrNull rows else .ok rows

theorem ofExcept_finish {σ : Type} (single : Bool) (rows : Value) :
    (if single then Action.ofExcept (firstOrNull rows) else pure rows : Action σ Value) =
      Action.ofExcept (finish single rows) := by
  cases single <;> rfl

theorem finish_rows (single : Bool) (page : Page) (all : List Value) :
    finish single (.list (page.rows all)) = .ok (page.answer single all) := by
  cases single with
  | false => rfl
  | true => exact firstOrNull_list (page.rows all)

end DataGateway.Query
