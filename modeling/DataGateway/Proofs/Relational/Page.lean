import DataGateway.Proofs.Gateway.Host
import DataGateway.Proofs.Sql.Bounds
import DataGateway.Relational.Adapter

/-!
# Pages of the relational adapter

The statement of a query asks for the page of its options, and the adapter answers with the rows that come
back.

* `readPage_statementOf` — the page that the text of a query asks for;
* `perform_query` — what is answered, if the database cuts out this page.
-/

namespace DataGateway.Relational.Adapter

variable {β : Type} {table : Value} {options : Query.Options} {checked : Query.Checked}
  {prepared : Sql.Prepared}

/-- A bound is written down as its number, if that can be written. -/
theorem boundOf_toValue_eq_ok_iff {bound : Query.Bound} {n : Int} :
    Sql.boundOf bound.toValue = .ok n ↔
      Numeral.isWritable bound.toInt = true ∧ n = bound.toInt := by
  have read : bound.toValue.asWhole = .ok bound.toInt := by cases bound <;> rfl
  rw [Sql.boundOf, read, ok_bind, check_eq_ok_iff, Value.requirePrintable_eq_ok_iff]
  exact and_congr_right fun _ => ⟨fun same => (Except.ok.inj same).symm, congrArg Except.ok ∘ Eq.symm⟩

theorem limitOf_boundValue_eq_ok_iff {bound : Option Query.Bound} {limit : Option Int} :
    Sql.limitOf (boundValue bound) = .ok limit ↔
      (∀ given ∈ bound, Numeral.isWritable given.toInt = true) ∧
        limit = bound.map Query.Bound.toInt := by
  cases bound with
  | none => exact ⟨fun same => ⟨nofun, (Except.ok.inj same).symm⟩, fun both => congrArg _ both.2.symm⟩
  | some bound =>
      have some : (boundValue (some bound)).isNull = false := by cases bound <;> rfl
      rw [Sql.limitOf, some, if_neg Bool.false_ne_true, map_eq_ok_iff]
      constructor
      · rintro ⟨n, stated, rfl⟩
        rcases boundOf_toValue_eq_ok_iff.1 stated with ⟨writable, rfl⟩
        exact ⟨fun given same => Option.some.inj same ▸ writable, rfl⟩
      · rintro ⟨writable, rfl⟩
        exact ⟨_, boundOf_toValue_eq_ok_iff.2 ⟨writable bound rfl, rfl⟩, rfl⟩

/-- Passing over nothing is not written down. -/
theorem offsetOf_boundValue_eq_ok_iff {bound : Option Query.Bound} {offset : Option Int} :
    Sql.offsetOf (boundValue bound) = .ok offset ↔
      (∀ given ∈ bound, Numeral.isWritable given.toInt = true) ∧
        offset = (bound.map Query.Bound.toInt).filter (· != 0) := by
  cases bound with
  | none => exact ⟨fun same => ⟨nofun, (Except.ok.inj same).symm⟩, fun both => congrArg _ both.2.symm⟩
  | some bound =>
      have truthy : (boundValue (some bound)).truthy = (bound.toInt != 0) := by
        cases bound with
        | number n => rfl
        | flag b => cases b <;> rfl
      rw [Sql.offsetOf, truthy]
      cases given : bound.toInt != 0 with
      | true =>
          rw [if_pos rfl, map_eq_ok_iff]
          have kept : (some bound.toInt).filter (· != 0) = some bound.toInt :=
            Option.filter_eq_some_iff.2 ⟨rfl, given⟩
          constructor
          · rintro ⟨n, stated, rfl⟩
            rcases boundOf_toValue_eq_ok_iff.1 stated with ⟨writable, rfl⟩
            exact ⟨fun given same => Option.some.inj same ▸ writable, kept.symm⟩
          · rintro ⟨writable, rfl⟩
            exact ⟨_, boundOf_toValue_eq_ok_iff.2 ⟨writable bound rfl, rfl⟩, kept.symm⟩
      | false =>
          have zero : bound.toInt = 0 := by simpa using given
          rw [if_neg Bool.false_ne_true, Option.map_some, zero]
          have writable : ∀ given ∈ some bound, Numeral.isWritable given.toInt = true := by
            rintro _ ⟨⟩
            rw [zero]
            rfl
          exact ⟨fun same => ⟨writable, (Except.ok.inj same).symm⟩, fun both => congrArg _ both.2.symm⟩

/-- An offset of nothing is left out, which is read as the same offset. -/
theorem toNat_offset (bound : Option Query.Bound) :
    (((bound.map Query.Bound.toInt).filter (· != 0)).map Int.toNat).getD 0 =
      ((bound.map Query.Bound.toInt).getD 0).toNat := by
  cases bound with
  | none => rfl
  | some bound =>
      by_cases zero : bound.toInt = 0 <;> simp [Option.filter, zero]

/-- The limit that is written down is the one of the page. -/
theorem limit_of_bounded (valid : options.check = .ok checked) {single : Bool} {limit : Option Int}
    (bounded : Sql.limitOf (if single && checked.limit.isNone then .int 1 else
      boundValue checked.limit) = .ok limit) :
    (∀ n ∈ limit, 0 ≤ n) ∧ limit.map Int.toNat = (checked.page.forOne single).limit := by
  rw [Query.Checked.limit_forOne]
  by_cases one : (single && checked.limit.isNone) = true
  · rw [if_pos one] at bounded ⊢
    cases bounded
    exact ⟨by decide, rfl⟩
  · rw [if_neg one] at bounded ⊢
    rcases limitOf_boundValue_eq_ok_iff.1 bounded with ⟨_, rfl⟩
    refine ⟨fun n member => ?_, Option.map_map ..⟩
    rcases Option.map_eq_some_iff.1 member with ⟨bound, there, rfl⟩
    have least := (Query.Options.check_eq_ok valid).1 bound there
    exact Int.le_trans (by decide) least

/-- The statement of a query asks for the page of its options. -/
theorem readPage_statementOf (valid : options.check = .ok checked)
    (stated : statementOf table options = .ok prepared) :
    Sql.readPage prepared.statement.text = checked.page.forOne options.single.truthy := by
  rcases Query.Options.check_eq_ok valid with ⟨_, shifted, _⟩
  rcases bind_eq_ok_iff.1 stated with ⟨again, same, built⟩
  cases Except.ok.inj (valid.symm.trans same)
  rcases bind_eq_ok_iff.1 built with ⟨⟨clauses, arguments⟩, _, built⟩
  rcases bind_eq_ok_iff.1 built with ⟨columns, _, built⟩
  rcases bind_eq_ok_iff.1 built with ⟨name, _, built⟩
  rcases bind_eq_ok_iff.1 built with ⟨order, _, built⟩
  rcases bind_eq_ok_iff.1 built with ⟨limit, bounded, built⟩
  rcases bind_eq_ok_iff.1 built with ⟨offset, passed, built⟩
  cases built
  rcases offsetOf_boundValue_eq_ok_iff.1 passed with ⟨_, rfl⟩
  have nonneg : ∀ n ∈ (checked.offset.map Query.Bound.toInt).filter (· != 0), 0 ≤ n := by
    intro n member
    rcases Option.map_eq_some_iff.1 (Option.filter_eq_some_iff.1 member).1 with ⟨bound, there, rfl⟩
    exact shifted bound there
  have start : (((checked.offset.map Query.Bound.toInt).filter (· != 0)).map Int.toNat).getD 0 =
      checked.page.offset := toNat_offset checked.offset
  have most := limit_of_bounded valid bounded
  rw [Sql.readPage_select columns name clauses order most.1 nonneg, start, most.2,
    ← Query.Page.offset_forOne options.single.truthy]

/-- The rows of the page that the text asks for are what is answered. -/
theorem perform_query (adapter : Adapter β) {token : String} {host : Host β} {backend : β}
    (valid : options.check = .ok checked) (stated : statementOf table options = .ok prepared)
    {rows : List Value} (answered : adapter.execute (.ofPrepared prepared) host.backend =
      (.ok (.list ((Sql.readPage prepared.statement.text).rows rows)), backend)) :
    adapter.perform token (.query table options) host =
      (.ok (.success (checked.page.answer options.single.truthy rows)), { host with backend }) := by
  have page := readPage_statementOf valid stated
  rw [page] at answered
  have carried : adapter.carryOut (.ofPrepared prepared) host =
      (.ok (.list ((checked.page.forOne options.single.truthy).rows rows)), { host with backend }) := by
    rw [carryOut, Host.onBackend_apply, answered]
  have fetched : adapter.rows (statementOf table options) host =
      (.ok (.list ((checked.page.forOne options.single.truthy).rows rows)), { host with backend }) := by
    have ran : adapter.run (statementOf table options) host = _ :=
      (Action.ofExcept_bind_ok stated _ host).trans carried
    refine (Action.bind_of_ok ran).trans ?_
    rw [Query.orElse_list]
    rfl
  have finished := Query.finish_rows options.single.truthy (checked.page.forOne options.single.truthy)
    rows
  rw [Query.Page.answer_forOne (Query.Checked.limit_page_ne valid)] at finished
  have ran : adapter.body token (.query table options) host =
      (.ok (checked.page.answer options.single.truthy rows), { host with backend }) := by
    refine (Action.bind_of_ok fetched).trans ?_
    rw [Query.ofExcept_finish, finished]
    rfl
  rw [perform, Profile.resolve_apply rfl, ran]

end DataGateway.Relational.Adapter
