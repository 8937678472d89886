import DataGateway.Proofs.Hosted.Meaning

/-!
# Pages of a hosted database

What the calls of a query cut out of the rows that it is about: a range leaves the rows between two
positions, both included, and a limit the first ones. Behind an offset without a limit the range has a size
of its own.

* `answerTo` — what is answered to the calls of a query, if it is about certain rows;
* `hostedPage` — the page that is asked for;
* `perform_query` — a query answers with this page.
-/

namespace DataGateway.Hosted

variable {α : Type}

/-! ## Cutting -/

/-- The rows that a call leaves. -/
def Call.cut (call : Call) (rows : List α) : List α :=
  match call with
  | .range first last => (rows.drop first.toInt.toNat).take (last - first.toInt + 1).toNat
  | .limit size => rows.take size.toInt.toNat
  | _ => rows

/-- Does a call ask for one row at most? -/
def Call.isSingle : Call → Bool
  | .maybeSingle => true
  | _ => false

/-- The rows that calls leave, one after another. -/
def cutAll (calls : List Call) (rows : List α) : List α :=
  calls.foldl (fun rows call => call.cut rows) rows

/-- What is answered to the calls of a query about certain rows. Where one row is asked for at most, none
is nothing at all, and more than one are an error. -/
def answerTo (several : Fault) (calls : List Call) (rows : List Value) : Except Fault Reply :=
  let found := cutAll calls rows
  if calls.any Call.isSingle then
    match found with
    | [] => .ok .nothing
    | [row] => .ok (.attributes [("data", row)])
    | _ => .error several
  else .ok (.attributes [("data", .list found)])

theorem cutAll_append (first calls : List Call) (rows : List α) :
    cutAll (first ++ calls) rows = cutAll calls (cutAll first rows) := List.foldl_append

theorem cutAll_of_neutral {calls : List Call} (rows : List α)
    (neutral : ∀ call ∈ calls, call.cut rows = rows) : cutAll calls rows = rows := by
  induction calls with
  | nil => rfl
  | cons call calls ih =>
      have rest := ih fun c hc => neutral c (List.mem_cons_of_mem call hc)
      rw [cutAll, List.foldl_cons, neutral call (List.mem_cons_self ..)]
      exact rest

theorem Call.cut_of_isFilter {call : Call} (filters : call.isFilter = true) (rows : List α) :
    call.cut rows = rows := by
  cases call with
  | range first last => cases filters
  | limit size => cases filters
  | _ => rfl

theorem Call.isSingle_of_isFilter {call : Call} (filters : call.isFilter = true) :
    call.isSingle = false := by
  cases call with
  | maybeSingle => cases filters
  | _ => rfl

/-! ## The page of a request -/

/-- The page that the calls ask for: behind an offset there is always a limit. -/
def hostedPage (limit offset : Option Query.Bound) : Query.Page where
  offset := ((offset.map Query.Bound.toInt).getD 0).toNat
  limit :=
    if (offset.filter fun bound => bound.toInt != 0).isSome then
      some ((limit.map Query.Bound.toInt).getD defaultSize).toNat
    else limit.map fun bound => bound.toInt.toNat

/-- Only behind an offset the page without a limit is another one than the options ask for. -/
theorem hostedPage_of_bounded {options : Query.Options} {checked : Query.Checked}
    (valid : options.check = .ok checked)
    (bounded : checked.limit.isSome = true ∨ checked.page.offset = 0) :
    hostedPage checked.limit checked.offset = checked.page := by
  cases limited : checked.limit with
  | some size => simp [hostedPage, Query.Checked.page, limited]
  | none =>
      rw [limited] at bounded
      have unshifted : checked.page.offset = 0 := bounded.resolve_left Bool.false_ne_true
      have skipped : (checked.offset.filter fun bound => bound.toInt != 0).isSome = false := by
        cases shifted : checked.offset with
        | none => rfl
        | some bound =>
            have least := (Query.Options.check_eq_ok valid).2.1 bound shifted
            rw [Query.Checked.page, shifted] at unshifted
            have zero : bound.toInt = 0 := by
              dsimp only [Option.map_some, Option.getD_some] at unshifted
              omega
            simp [Option.filter, zero]
      rw [hostedPage, Query.Checked.page, limited, skipped]
      rfl

theorem cutAll_pageCalls (limit : Option Query.Bound) {offset : Option Query.Bound} (rows : List α) :
    cutAll (pageCalls limit offset) rows = (hostedPage limit offset).rows rows := by
  have unshifted : cutAll (limit.map Call.limit).toList rows =
      (Query.Page.mk 0 (limit.map fun bound => bound.toInt.toNat)).rows rows := by
    cases limit <;> rfl
  cases offset with
  | none => exact unshifted
  | some offset =>
      by_cases zero : offset.toInt = 0
      · simpa [pageCalls, hostedPage, Option.filter, zero] using unshifted
      · -- the last position of a range belongs to it
        have size (n : Int) : offset.toInt + n - 1 - offset.toInt + 1 = n := by omega
        simp [pageCalls, hostedPage, Option.filter, zero, cutAll, Call.cut, Query.Page.rows, size]

example : cutAll [.range (.number 1) 2] [10, 20, 30, 40] = [20, 30] := rfl

/-- Of all calls of a query only those for its page cut. -/
theorem cutAll_queryCalls (table : Value) (selection : Selection) {filters : List Call}
    (filter : ∀ call ∈ filters, call.isFilter = true) (ordering : Option Query.Ordering)
    (limit offset : Option Query.Bound) (rows : List α) :
    cutAll (queryCalls table selection filters ordering limit offset) rows =
      (hostedPage limit offset).rows rows := by
  have order : cutAll (orderCalls ordering) rows = rows := by cases ordering <;> rfl
  have filtering : cutAll filters rows = rows :=
    cutAll_of_neutral rows fun call member => call.cut_of_isFilter (filter call member) rows
  have opening : cutAll [.table table, .select selection.clause] rows = rows := rfl
  rw [queryCalls, cutAll_append, cutAll_append, cutAll_append, opening, filtering, order,
    cutAll_pageCalls]

/-- None of them asks for one row at most. -/
theorem any_isSingle_queryCalls (table : Value) (selection : Selection) {filters : List Call}
    (filter : ∀ call ∈ filters, call.isFilter = true) (ordering : Option Query.Ordering)
    (limit offset : Option Query.Bound) :
    (queryCalls table selection filters ordering limit offset).any Call.isSingle = false := by
  have order : (orderCalls ordering).any Call.isSingle = false := by cases ordering <;> rfl
  have filtering : filters.any Call.isSingle = false :=
    List.any_eq_false.2 fun call member => by rw [Call.isSingle_of_isFilter (filter call member)]; nofun
  have page : (pageCalls limit offset).any Call.isSingle = false := by
    unfold pageCalls
    split
    · rfl
    · cases limit <;> rfl
  rw [queryCalls, List.any_append, List.any_append, List.any_append, filtering, order, page]
  rfl

theorem any_isSingle_singleCalls (single : Bool) :
    (singleCalls single ++ [Call.execute]).any Call.isSingle = single := by
  cases single <;> rfl

/-! ## Queries -/

/-- The next answer of the client is what comes back. -/
theorem send_apply {host : Host Client} {answer : Except Fault Reply} (call : Call)
    (ready : host.backend.answers = [answer]) : ∃ after, send call host = (answer, after) := by
  have sent : (send call host).1 = host.backend.answers.headD (.ok (.attributes [("data", .list [])])) :=
    rfl
  rw [ready] at sent
  exact ⟨_, Prod.ext sent rfl⟩

/-- What comes back for calls that ask for one row at most if one is wanted, and that leave no more. -/
theorem sending_apply {host : Host Client} {several : Fault} {calls : List Call} {single : Bool}
    {rows : List Value} (asks : calls.any Call.isSingle = single)
    (enough : single = true → (cutAll calls rows).length ≤ 1)
    (ready : host.backend.answers = [answerTo several calls rows]) : ∃ after,
    sending single host =
      (.ok (if single then (cutAll calls rows).headD .null else .list (cutAll calls rows)), after) := by
  unfold answerTo at ready
  rw [asks] at ready
  generalize cutAll calls rows = found at enough ready ⊢
  cases single with
  | false =>
      rcases send_apply .execute ready with ⟨after, sent⟩
      have read : sendForRows host = (.ok (.list found), after) := by
        refine (Action.bind_of_ok sent).trans ?_
        exact congrArg (fun rows => (Except.ok rows, after)) (Query.orElse_list found)
      exact ⟨after, read⟩
  | true =>
      -- more than one row cannot come, so the client has no reason to fail
      have first : sendForSingle host = send .execute (recorded [.maybeSingle] host) :=
        (records_chain .maybeSingle).then _ host
      have still : (recorded [.maybeSingle] host).backend.answers = _ := ready
      rcases send_apply .execute still with ⟨after, sent⟩
      match found, enough rfl with
      | [], _ => exact ⟨after, Action.bind_of_ok (first.trans sent)⟩
      | [row], _ => exact ⟨after, Action.bind_of_ok (first.trans sent)⟩

section Query

variable {table : Value} {options : Query.Options} {checked : Query.Checked} {selection : Selection}
  {filters : List Call}

/-- The page that the request of a query asks for. -/
def requestPage (options : Query.Options) (checked : Query.Checked) : Query.Page :=
  hostedPage (wantedLimit options.single.truthy checked.limit) checked.offset

theorem cutAll_requestCalls (lowers : Lowers checked.spec filters) (rows : List Value) :
    cutAll (requestCalls table selection filters options checked) rows =
      (requestPage options checked).rows rows := by
  have unsent (found : List Value) :
      cutAll (singleCalls options.single.truthy ++ [.execute]) found = found := by
    cases options.single.truthy <;> rfl
  rw [requestCalls, cutAll_append, unsent, cutAll_queryCalls table selection lowers.isFilter]
  rfl

theorem any_isSingle_requestCalls (lowers : Lowers checked.spec filters) :
    (requestCalls table selection filters options checked).any Call.isSingle =
      options.single.truthy := by
  rw [requestCalls, List.any_append, any_isSingle_queryCalls table selection lowers.isFilter,
    any_isSingle_singleCalls, Bool.false_or]

/-- Where one row is wanted there is one at most. -/
theorem limit_requestPage (single : options.single.truthy = true) :
    (requestPage options checked).limit = some 1 := by
  rw [requestPage, single, wantedLimit, if_pos rfl, hostedPage]
  split <;> rfl

theorem length_rows_requestPage (single : options.single.truthy = true) (rows : List Value) :
    ((requestPage options checked).rows rows).length ≤ 1 := by
  rw [Query.Page.rows, limit_requestPage single]
  exact List.length_take_le ..

variable (table) (adapter : Adapter) (host : Host Client)

/-- A query sends its request, and if the client answers with what the calls leave of certain rows, these
are the rows of the page that is answered. -/
theorem perform_query (valid : options.check = .ok checked)
    (selected : Selection.ofValue options.select = .ok selection)
    (lowers : Lowers checked.spec filters) (several : Fault) (rows : List Value) :
    let calls := requestCalls table selection filters options checked
    (adapter.perform (.query table options) host).2.backend.asked = host.backend.asked ++ calls ∧
      (host.backend.answers = [answerTo several calls rows] → ∃ after,
        adapter.perform (.query table options) host =
          (.ok (.success ((requestPage options checked).answer options.single.truthy rows)), after)) := by
  intro calls
  have asks : Asks (adapter.body (.query table options)) calls := asks_query valid selected lowers
  refine ⟨asked_perform asks host, fun ready => ?_⟩
  have left : cutAll calls rows = (requestPage options checked).rows rows :=
    cutAll_requestCalls lowers rows
  have enough (single : options.single.truthy = true) : (cutAll calls rows).length ≤ 1 := by
    rw [left]
    exact length_rows_requestPage single rows
  -- the client has got calls, but its answers are still to come
  have still : (recorded (queryCalls table selection filters options.ordering
      (wantedLimit options.single.truthy checked.limit) checked.offset) host).backend.answers = _ := ready
  rcases sending_apply (any_isSingle_requestCalls lowers) enough still with ⟨after, sent⟩
  have ran : adapter.body (.query table options) host = _ :=
    (query_eq valid selected lowers host).trans sent
  rw [left] at ran
  rw [Adapter.perform, Profile.resolve_apply rfl, ran]
  exact ⟨after, rfl⟩

/-- Only an offset without a limit has a page of its own. -/
theorem answer_requestPage (valid : options.check = .ok checked)
    (bounded : checked.limit.isSome = true ∨ options.single.truthy = true ∨ checked.page.offset = 0)
    (rows : List Value) :
    (requestPage options checked).answer options.single.truthy rows =
      checked.page.answer options.single.truthy rows := by
  -- the first row does not depend on the limit, and with all rows wanted the pages are the same
  cases single : options.single.truthy with
  | true =>
      have one : (requestPage options checked).limit ≠ some 0 := by
        rw [limit_requestPage single]
        decide
      exact Query.Page.answer_single one (Query.Checked.limit_page_ne valid) rfl rows
  | false =>
      rw [single] at bounded
      rw [requestPage, single, wantedLimit, if_neg nofun,
        hostedPage_of_bounded valid (bounded.imp_right (·.resolve_left nofun))]

/-- The page of an offset without a limit. -/
theorem requestPage_of_unlimited {bound : Query.Bound} (unlimited : checked.limit = none)
    (many : options.single.truthy = false) (shifted : checked.offset = some bound)
    (positive : 1 ≤ bound.toInt) :
    requestPage options checked = { offset := bound.toInt.toNat, limit := some 1000 } := by
  have apart : bound.toInt ≠ 0 := by omega
  have skipped : ((some bound).filter fun bound => bound.toInt != 0).isSome = true := by
    simp [Option.filter, apart]
  rw [requestPage, many, wantedLimit, if_neg nofun, hostedPage, shifted, skipped, unlimited]
  rfl

end Query

end DataGateway.Hosted
