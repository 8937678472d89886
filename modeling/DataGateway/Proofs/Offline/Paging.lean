import DataGateway.Proofs.Offline.Ordering

/-!
# One page after another

Each call for a page filters, orders and cuts the whole table again. As long as the query succeeds
without bounds, calls for one page after another get all of its rows, none of them twice.

* `projectAll_page` — rows can be cut before they are projected or after;
* `Pages` — a run of calls for pages of one size, up to the first empty one;
* `Pages.whole` — what such a run gets, from the answers to its calls;
* `perform_pages` — the same for queries, over all states.
-/

namespace DataGateway.Offline

theorem perm_of_ordered {ordering : Option Query.Ordering} {accepted rows : Table}
    (sorted : ordered ordering accepted = .ok rows) : rows.Perm accepted := by
  cases ordering with
  | none =>
      cases sorted
      exact .refl _
  | some ordering => exact orderRows_perm sorted

/-! ## Projected pages -/

theorem projectAll_eq_ok_iff {columns : Value} {rows taken : Table} :
    projectAll columns rows = .ok taken ↔
      List.Forall₂ (fun row item => project columns row = .ok item) rows taken := by
  induction rows generalizing taken with
  | nil => simp [projectAll, eq_comm]
  | cons row rows ih =>
      rw [List.forall₂_cons_left_iff, projectAll]
      constructor
      · intro ran
        rcases bind_eq_ok_iff.1 ran with ⟨item, first, ran⟩
        rcases bind_eq_ok_iff.1 ran with ⟨rest, others, ran⟩
        cases ran
        exact ⟨item, rest, first, ih.1 others, rfl⟩
      · rintro ⟨item, rest, first, others, rfl⟩
        rw [first, ih.2 others]
        rfl

/-- Rows can be cut before they are projected or after. -/
theorem projectAll_page {columns : Value} {rows taken : Table}
    (projected : projectAll columns rows = .ok taken) (page : Query.Page) :
    projectAll columns (page.rows rows) = .ok (page.rows taken) := by
  rw [projectAll_eq_ok_iff] at projected ⊢
  unfold Query.Page.rows
  split
  · exact List.forall₂_take _ (List.forall₂_drop _ projected)
  · exact List.forall₂_drop _ projected

/-! ## Runs of calls -/

/-- Calls for pages of one size, from an offset on, up to the first page that is empty. -/
inductive Pages (ask : Nat → Work Response) (size : Nat) :
    Nat → Host Backend → List (List Value) → Host Backend → Prop
  | last {offset : Nat} {host after : Host Backend}
      (answered : ask offset host = (.ok (.success (.list [])), after)) :
      Pages ask size offset host [] after
  | next {offset : Nat} {host middle after : Host Backend} {page : List Value}
      {rest : List (List Value)} (answered : ask offset host = (.ok (.success (.list page)), middle))
      (some : page ≠ []) (others : Pages ask size (offset + size) middle rest after) :
      Pages ask size offset host (page :: rest) after

namespace Pages

variable {ask : Nat → Work Response} {size offset : Nat} {host after : Host Backend}
  {all : List Value} {pages : List (List Value)}

/-- Does each call answer with its page of the same rows, in a state that stays? -/
def Answers (ask : Nat → Work Response) (size : Nat) (host : Host Backend) (all : List Value) : Prop :=
  ∀ offset, ask offset host = (.ok (.success (.list ((all.drop offset).take size))), host)

/-- A page with rows behind it is full. -/
theorem length_of_more (more : all.drop (offset + size) ≠ []) :
    ((all.drop offset).take size).length = size := by
  rw [Ne, List.drop_eq_nil_iff] at more
  rw [List.length_take, List.length_drop]
  omega

/-- The pages are all rows from the offset on, and only the last of them may be short. -/
theorem whole (answers : Answers ask size host all) (positive : 1 ≤ size)
    (run : Pages ask size offset host pages after) :
    after = host ∧ pages.flatten = all.drop offset ∧ ∀ page ∈ pages.dropLast, page.length = size := by
  induction run with
  | @last offset _ _ answered =>
      rcases Prod.mk.inj ((answers offset).symm.trans answered) with ⟨empty, same⟩
      have empty : (all.drop offset).take size = [] := by simpa using empty
      refine ⟨same.symm, ?_, nofun⟩
      rcases List.take_eq_nil_iff.1 empty with zero | none
      · omega
      · exact none.symm
  | @next offset _ middle _ page rest answered some others ih =>
      rw [answers offset] at answered
      cases answered
      rcases ih answers with ⟨same, behind, full⟩
      refine ⟨same, ?_, ?_⟩
      · rw [List.flatten_cons, behind, ← List.drop_drop, List.take_append_drop]
      · intro page member
        cases rest with
        | nil => cases member
        | cons second more =>
            rw [List.dropLast_cons_cons] at member
            rcases List.mem_cons.1 member with rfl | member
            · -- there is a row behind the page, so the page is full
              have first : second ≠ [] := by
                cases others
                assumption
              have more : all.drop (offset + size) ≠ [] := by
                rw [← behind, List.flatten_cons]
                exact List.append_ne_nil_of_left_ne_nil first _
              exact length_of_more more
            · exact full page member

/-- There is always such a run, since an offset beyond the last row is reached. -/
theorem exists_run (answers : Answers ask size host all) (positive : 1 ≤ size) (offset : Nat) :
    ∃ pages, Pages ask size offset host pages host := by
  rcases Nat.lt_or_ge offset all.length with inside | beyond
  · rcases exists_run answers positive (offset + size) with ⟨pages, others⟩
    refine ⟨_, .next (answers offset) ?_ others⟩
    rw [Ne, List.take_eq_nil_iff, List.drop_eq_nil_iff]
    omega
  · have none : (all.drop offset).take size = [] := by
      rw [List.drop_eq_nil_of_le beyond, List.take_nil]
    exact ⟨[], .last (none ▸ answers offset)⟩
termination_by all.length - offset

end Pages

/-! ## Queries -/

/-- A query for a page of a size. -/
def pageQuery (table columns : Value) (filters : Filters) (ordering : Option Query.Ordering)
    (size offset : Nat) : Operation :=
  .query table { select := columns, filters, ordering, limit := .int size, offset := .int offset }

theorem check_unbounded (columns : Value) (filters : Filters) (ordering : Option Query.Ordering) :
    Query.Options.check { select := columns, filters, ordering } =
      (fun spec => ⟨spec, none, none⟩) <$> filters.parse := rfl

theorem check_pageQuery {columns : Value} {filters : Filters} {ordering : Option Query.Ordering}
    {spec : Spec} (parsed : filters.parse = .ok spec) {size : Nat} (positive : 1 ≤ size) (offset : Nat) :
    Query.Options.check
        { select := columns, filters, ordering, limit := .int size, offset := .int offset } =
      .ok ⟨spec, some (.number size), some (.number offset)⟩ := by
  have least : (1 : Int) ≤ size := by exact_mod_cast positive
  have limit : Query.checkBound 1 .limit (.int size) = .ok (some (.number size)) := by
    simp [Query.checkBound, Value.isNull, Query.Bound.ofValue?, Query.Bound.toInt, least]
  have shift : Query.checkBound 0 .offset (.int offset) = .ok (some (.number offset)) := by
    simp [Query.checkBound, Value.isNull, Query.Bound.ofValue?, Query.Bound.toInt]
  rw [Query.Options.check, limit, shift, parsed]
  rfl

/-- In every state, for every selection and order with which a query succeeds without bounds: counting
answers with the number of its rows; the page at an offset is empty exactly from that number on; and
calls for one page after another, each at any moment, get all of its rows in pages of full size up to
the last one, and change nothing. -/
theorem perform_pages {host after : Host Backend} {moment : Moment} {table columns answer : Value}
    {filters : Filters} {ordering : Option Query.Ordering}
    (answered : perform moment (.query table { select := columns, filters, ordering }) host =
      (.ok (.success answer), after)) {size : Nat} (positive : 1 ≤ size) :
    ∃ all, answer = .list all ∧ after = host ∧
      (∀ moment, perform moment (.count table filters) host =
        (.ok (.success (.int all.length)), host)) ∧
      (∀ moment offset, ∃ page,
        perform moment (pageQuery table columns filters ordering size offset) host =
          (.ok (.success (.list page)), host) ∧ (page = [] ↔ all.length ≤ offset)) ∧
      ∀ moments : Nat → Moment,
        let ask offset := perform (moments offset) (pageQuery table columns filters ordering size offset)
        (∃ pages, Pages ask size 0 host pages host) ∧
        ∀ pages last, Pages ask size 0 host pages last →
          last = host ∧ pages.flatten = all ∧ ∀ page ∈ pages.dropLast, page.length = size := by
  rcases finds_of_perform_query answered with ⟨same, checked, rows, all, valid, finds, projected, rfl⟩
  rw [check_unbounded] at valid
  rcases map_eq_ok_iff.1 valid with ⟨spec, parsed, rfl⟩
  have answers (moments : Nat → Moment) : Pages.Answers
      (fun offset => perform (moments offset) (pageQuery table columns filters ordering size offset))
      size host all := fun offset =>
    perform_query (moments offset) (check_pageQuery parsed positive offset) finds
      (projectAll_page projected _)
  refine ⟨all, rfl, same, ?_, ?_, ?_⟩
  · rcases finds with ⟨name, accepted, named, filtered, sorted⟩
    have length : accepted.length = all.length := by
      rw [← (perm_of_ordered sorted).length_eq]
      exact (projectAll_eq_ok_iff.1 projected).length_eq
    intro moment
    rw [← length]
    exact perform_count moment parsed named filtered
  · intro moment offset
    refine ⟨_, answers (fun _ => moment) offset, ?_⟩
    rw [List.take_eq_nil_iff, List.drop_eq_nil_iff]
    omega
  · intro moments ask
    exact ⟨Pages.exists_run (answers moments) positive 0, fun pages last run =>
      Pages.whole (answers moments) positive run⟩

/-- Six people in pages of four. -/
theorem perform_pages_people :
    let ask offset := perform {} (pageQuery (.text "people") (.text "*") .absent none 4 offset)
    perform {} (.query (.text "people") {}) peopled = (.ok (.success (.list people)), peopled) ∧
    people.length = 6 ∧ ∃ pages, Pages ask 4 0 peopled pages peopled ∧ pages.flatten = people ∧
      ∀ page ∈ pages.dropLast, page.length = 4 := by
  intro ask
  have tested : filterRows [] people = .ok people := by
    have all : people.filter (Spec.admits []) = people := List.filter_eq_self.2 fun _ _ => rfl
    rw [filterRows_ok fun _ _ => rfl, all]
  have finds : Finds peopled (.text "people") [] none people :=
    ⟨.ofText "people", people, ofValue_text "people", rowsOf_peopled ▸ tested, rfl⟩
  have valid : Query.Options.check {} = .ok ⟨[], none, none⟩ := rfl
  have answered : perform {} (.query (.text "people") {}) peopled =
      (.ok (.success (.list people)), peopled) :=
    perform_query_all {} valid ofValue_star finds (by decide +kernel)
  have positive : 1 ≤ 4 := by decide
  rcases perform_pages answered positive with ⟨all, same, _, _, _, runs⟩
  cases same
  rcases runs fun _ => {} with ⟨⟨pages, run⟩, each⟩
  exact ⟨answered, rfl, pages, run, (each pages peopled run).2⟩

end DataGateway.Offline
