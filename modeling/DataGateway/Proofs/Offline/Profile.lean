import DataGateway.Proofs.Offline.Failure

/-!
# Rows that a change of the profile reaches

A change of the profile goes to the rows of the table of users that have the id of the caller. Which id
that is, is asked after the new fields are there: fields that name another id turn the change on the
rows of somebody else.

* `Renews` — a row is another one with fields merged in and a later time of change;
* `OnlyOwn` — what may become of the tables;
* `updateProfile_only_own` — what becomes of them in a change of the profile;
* `updateProfile_touches_own` — and in the whole operation, by the id of the caller.
-/

namespace DataGateway.Offline

variable {moment : Moment} {host : Host Backend}

/-! ## Rows -/

/-- Does a row have an id? -/
def hasId (id : Value) : Value → Bool
  | .object fields => ((Fields.get? fields "id").getD .null).looseEq id
  | _ => false

/-- Is a row another one with fields merged in and a later time of change? -/
structure Renews (moment : Moment) (params : Record) (row new : Value) : Prop where
  merged : ∃ fields text, row = .object fields ∧
    advance moment ((Fields.get? fields "updated_at").getD .null) = .ok text ∧
    new = .object (Fields.set (Fields.merge fields params) "updated_at" (.text text))
  later : moment.InCalendar → ∃ stamp, changedAt? new = some stamp ∧
    moment.now ≤ stamp.instant ∧ ∀ before ∈ changedAt? row, before.instant < stamp.instant

theorem renews_of_change {params : Record} {row new : Value}
    (changed : change moment row (.object params) = .ok new) : Renews moment params row new where
  merged := by
    rcases change_ok changed with ⟨fields, update, text, rfl, patch, advanced, rfl⟩
    cases patch
    exact ⟨fields, text, rfl, advanced, rfl⟩
  later clock := change_later clock changed

theorem isOwn_eq_true_iff {fields : Record} {row : Value} :
    isOwn (.object fields) row = .ok true ↔
      hasId ((Fields.get? fields "id").getD .null) row = true := by
  cases row with
  | object found =>
      constructor
      · exact Except.ok.inj
      · exact congrArg Except.ok
  | _ => exact ⟨nofun, nofun⟩

theorem isOwn_eq_false {fields : Record} {row : Value}
    (apart : isOwn (.object fields) row = .ok false) :
    hasId ((Fields.get? fields "id").getD .null) row = false := by
  cases row with
  | object found => exact Except.ok.inj apart
  | _ => rfl

section Rows

variable {test : Value → Except Fault Bool} {change : Value → Except Fault Value}

/-- However far it gets, a row is the old one or a picked one that is changed. -/
theorem changeRows_rows (rows : Table) :
    List.Forall₂ (fun row new => new = row ∨ (test row = .ok true ∧ change row = .ok new))
      rows (changeRows test change rows).1 := by
  have untouched (rows : Table) :
      List.Forall₂ (fun row new => new = row ∨ (test row = .ok true ∧ change row = .ok new))
        rows rows := List.forall₂_same.2 fun _ _ => .inl rfl
  induction rows with
  | nil => exact .nil
  | cons row rows ih =>
      cases picked : test row with
      | error fault =>
          rw [changeRows_untested picked]
          exact untouched (row :: rows)
      | ok accepted =>
          cases accepted with
          | false =>
              rw [changeRows_passed picked]
              exact .cons (.inl rfl) ih
          | true =>
              cases changed : change row with
              | error fault =>
                  rw [changeRows_unchanged picked changed]
                  exact untouched (row :: rows)
              | ok new =>
                  rw [changeRows_changed picked changed]
                  exact .cons (.inr ⟨picked, changed⟩) ih

/-- When it gets to the end, every picked row is changed. -/
theorem changeRows_all {rows written : Table} (ended : (changeRows test change rows).2 = .ok written) :
    List.Forall₂ (fun row new =>
        (test row = .ok true ∧ change row = .ok new) ∨ (test row = .ok false ∧ new = row))
      rows (changeRows test change rows).1 := by
  induction rows generalizing written with
  | nil => exact .nil
  | cons row rows ih =>
      cases picked : test row with
      | error fault =>
          rw [changeRows_untested picked] at ended
          cases ended
      | ok accepted =>
          cases accepted with
          | false =>
              rw [changeRows_passed picked] at ended ⊢
              exact .cons (.inr ⟨picked, rfl⟩) (ih ended)
          | true =>
              cases changed : change row with
              | error fault =>
                  rw [changeRows_unchanged picked changed] at ended
                  cases ended
              | ok new =>
                  rw [changeRows_changed picked changed] at ended ⊢
                  cases others : (changeRows test change rows).2 with
                  | error fault =>
                      rw [others] at ended
                      cases ended
                  | ok written => exact .cons (.inl ⟨picked, changed⟩) (ih others)

end Rows

/-! ## Tables -/

/-- The rows of the table of users. -/
def users (tables : Tables) : Table := (Fields.get? tables (.ofText "users")).getD []

/-- What may become of the tables: rows with an id get new fields, and nothing else happens. -/
structure OnlyOwn (moment : Moment) (id : Value) (params : Record) (before after : Tables) : Prop where
  names : Fields.names after = Fields.names before
  others : ∀ name, (name == Key.ofText "users") = false →
    Fields.get? after name = Fields.get? before name
  rows : List.Forall₂ (fun row new => new = row ∨ (hasId id row = true ∧ Renews moment params row new))
    (users before) (users after)

/-- Have all rows with an id got new fields, and no others? -/
def AllOwn (moment : Moment) (id : Value) (params : Record) (before after : Tables) : Prop :=
  List.Forall₂ (fun row new => (hasId id row = true ∧ Renews moment params row new) ∨
    (hasId id row = false ∧ new = row)) (users before) (users after)

theorem changeUsers_absent (absent : Fields.get? host.backend.tables (.ofText "users") = none)
    (principal patch : Value) : changeUsers moment principal patch host = (.ok (), host) := by
  have none : Fields.has host.backend.tables (.ofText "users") = false := by
    rw [Fields.has, ← Fields.get?, absent]
    rfl
  rw [changeUsers, Action.bind_get, none]
  rfl

theorem changeUsers_present (moment : Moment) {rows : Table}
    (found : Fields.get? host.backend.tables (.ofText "users") = some rows) (principal patch : Value) :
    (changeUsers moment principal patch host).2.backend.tables =
        Fields.set host.backend.tables (.ofText "users")
          (changeRows (isOwn principal) (change moment · patch) rows).1 ∧
      ((changeUsers moment principal patch host).1 = .ok () → ∃ written,
        (changeRows (isOwn principal) (change moment · patch) rows).2 = .ok written) := by
  have present : Fields.has host.backend.tables (.ofText "users") = true :=
    Fields.has_eq_true_iff.2 ⟨rows, found⟩
  have read : rowsOfTable usersTable host = (.ok rows, host) := by
    rw [rowsOfTable_ok named_users, found, Option.getD_some]
  rcases putTable_ok named_users (changeRows (isOwn principal) (change moment · patch) rows).1 host with
    ⟨after, put, tables⟩
  rw [changeUsers, Action.bind_get, present, if_pos rfl, Action.bind_of_ok read]
  cases changed : (changeRows (isOwn principal) (change moment · patch) rows).2 with
  | error fault =>
      have ran : rewriteRows moment usersTable (isOwn principal) patch rows host =
          (.error fault, after) :=
        (Action.bind_of_ok put).trans (congrArg (·, after) changed)
      rw [Action.bind_of_error ran]
      refine ⟨tables, fun succeeded => ?_⟩
      cases succeeded
  | ok written =>
      have ran : rewriteRows moment usersTable (isOwn principal) patch rows host =
          (.ok written, after) :=
        (Action.bind_of_ok put).trans (congrArg (·, after) changed)
      rw [Action.bind_of_ok ran]
      exact ⟨tables, fun _ => ⟨written, rfl⟩⟩

theorem changeUsers_only_own (moment : Moment) (principal params : Record) (host : Host Backend) :
    OnlyOwn moment ((Fields.get? principal "id").getD .null) params host.backend.tables
        (changeUsers moment (.object principal) (.object params) host).2.backend.tables ∧
      ((changeUsers moment (.object principal) (.object params) host).1 = .ok () →
        AllOwn moment ((Fields.get? principal "id").getD .null) params host.backend.tables
          (changeUsers moment (.object principal) (.object params) host).2.backend.tables) := by
  cases found : Fields.get? host.backend.tables (.ofText "users") with
  | none =>
      have empty : users host.backend.tables = [] := by rw [users, found, Option.getD_none]
      rw [changeUsers_absent found]
      refine ⟨⟨rfl, fun _ _ => rfl, ?_⟩, fun _ => ?_⟩
      · rw [empty]
        exact .nil
      · rw [AllOwn, empty]
        exact .nil
  | some rows =>
      have before : users host.backend.tables = rows := by rw [users, found, Option.getD_some]
      rcases changeUsers_present moment found (.object principal) (.object params) with
        ⟨tables, ended⟩
      rw [tables]
      have after : users (Fields.set host.backend.tables (.ofText "users") (changeRows
          (isOwn (.object principal)) (change moment · (.object params)) rows).1) =
          (changeRows (isOwn (.object principal)) (change moment · (.object params)) rows).1 := by
        rw [users, Fields.get?_set_self, Option.getD_some]
      refine ⟨⟨Fields.names_set_of_get? found, fun _ other => Fields.get?_set_of_ne other, ?_⟩, ?_⟩
      · rw [before, after]
        refine (changeRows_rows rows).imp ?_
        rintro row new (same | ⟨own, changed⟩)
        · exact .inl same
        · exact .inr ⟨isOwn_eq_true_iff.1 own, renews_of_change changed⟩
      · intro succeeded
        rcases ended succeeded with ⟨written, all⟩
        rw [AllOwn, before, after]
        refine (changeRows_all all).imp ?_
        rintro row new (⟨own, changed⟩ | ⟨apart, same⟩)
        · exact .inl ⟨isOwn_eq_true_iff.1 own, renews_of_change changed⟩
        · exact .inr ⟨isOwn_eq_false apart, same⟩

/-! ## The operation -/

/-- The id that a caller has once fields are merged into the principal. -/
def mergedId (id : Value) (params : Record) : Value :=
  (Fields.get? (Fields.merge [("id", id)] params) "id").getD .null

/-- Fields that name no id leave the caller its own. -/
theorem mergedId_of_absent {id : Value} {params : Record} (absent : Fields.get? params "id" = none) :
    mergedId id params = id := by
  rw [mergedId, Fields.get?_merge_of_absent absent]
  rfl

theorem updateProfile_only_own (moment : Moment) (params : Record) {session : Session} {user : Record}
    {id : Value} (current : host.session = some session) (principal : session.principal = .object user)
    (known : Fields.get? user "id" = some id) :
    OnlyOwn moment (mergedId id params) params host.backend.tables
        (updateProfile moment (.object params) host).2.backend.tables ∧
      (∀ data, (updateProfile moment (.object params) host).1 = .ok data →
        AllOwn moment (mergedId id params) params host.backend.tables
          (updateProfile moment (.object params) host).2.backend.tables) := by
  have patch : (Value.object params).orElse (.object []) = .object params := by
    cases params <;> rfl
  have required : (Host.requireSession : Work Session) host = (.ok session, host) :=
    Host.requireSession_present current
  have spread : session.principal.spread = .ok user := by rw [principal]; rfl
  have own : Fields.get? user "id" = Fields.get? [("id", id)] "id" := known
  have merged : mergedId id params = (Fields.get? (Fields.merge user params) "id").getD .null := by
    rw [mergedId, Fields.get?_merge_congr own]
  -- the principal is renamed before the rows are looked at, and what comes after is for the store
  let renamed : Host Backend :=
    { host with session := some { session with principal := .object (Fields.merge user params) } }
  have last (_ : Unit) : KeepsTables (do
      save
      keepSession
      return .object (Fields.merge user params) : Work Value) :=
    .bind keeps_save fun _ => .bind keeps_keepSession.tables fun _ => .pure _
  have ran : updateProfile moment (.object params) host = (do
      changeUsers moment (.object (Fields.merge user params)) (.object params)
      save
      keepSession
      return .object (Fields.merge user params) : Work Value) renamed := by
    rw [updateProfile, patch, Action.bind_of_ok required, Action.ofExcept_bind_ok spread]
    rfl
  have changes := changeUsers_only_own moment (Fields.merge user params) params renamed
  rw [ran, merged, tables_bind_keeps last]
  refine ⟨changes.1, fun data succeeded => ?_⟩
  rcases succeeds : (do
      changeUsers moment (.object (Fields.merge user params)) (.object params)
      save
      keepSession
      return .object (Fields.merge user params) : Work Value) renamed with ⟨result, after⟩
  rw [succeeds] at succeeded
  cases succeeded
  rcases Action.bind_ok succeeds with ⟨_, middle, changed, _⟩
  exact changes.2 (congrArg Prod.fst changed)

/-- The id of the caller, whose session may still be in the store alone. -/
def callerId? (host : Host Backend) : Option Value :=
  match restoreSession host with
  | (.ok (), ⟨some ⟨_, .object user⟩, _, _⟩) => Fields.get? user "id"
  | _ => none

theorem exists_of_callerId? {id : Value} (caller : callerId? host = some id) :
    ∃ opened session user, restoreSession host = (.ok (), opened) ∧ opened.session = some session ∧
      session.principal = .object user ∧ Fields.get? user "id" = some id := by
  unfold callerId? at caller
  split at caller
  · rename_i token user journal backend restored
    exact ⟨_, _, user, restored, rfl, rfl, caller⟩
  · cases caller

/-- A change of the profile of the caller. -/
def profileUpdate (params : Record) : Operation :=
  .rpc (.text "update_user_profile") (.object params)

theorem body_profileUpdate (moment : Moment) (params : Record) {opened : Host Backend}
    (restored : restoreSession host = (.ok (), opened)) :
    body moment (profileUpdate params) host = updateProfile moment (.object params) opened := by
  have other : (Value.text "update_user_profile").looseEq (.text "get_user_profile") = false := by
    rw [Value.looseEq_text]
    decide
  have own : (Value.text "update_user_profile").looseEq (.text "update_user_profile") = true := by
    rw [Value.looseEq_text]
    decide
  rw [profileUpdate, body, rpc, Action.bind_of_ok restored, other, own]
  rfl

/-- A change of the profile goes to the rows with the id that the caller has after it, which is the id
that the caller had unless the new fields name another one. -/
theorem updateProfile_touches_own (moment : Moment) (params : Record) {id : Value}
    (caller : callerId? host = some id) :
    (Fields.get? params "id" = none → mergedId id params = id) ∧
      OnlyOwn moment (mergedId id params) params host.backend.tables
        (perform moment (profileUpdate params) host).2.backend.tables ∧
      (Succeeded (perform moment (profileUpdate params) host).1 →
        AllOwn moment (mergedId id params) params host.backend.tables
          (perform moment (profileUpdate params) host).2.backend.tables) := by
  rcases exists_of_callerId? caller with
    ⟨opened, session, user, restored, current, principal, known⟩
  have untouched : FixesBackend (fun backend => backend) restoreSession := fixes_restoreSession
  have same : opened.backend = host.backend := untouched.after restored
  rcases updateProfile_only_own moment params current principal known with ⟨only, all⟩
  rw [tables_perform, body_profileUpdate moment params restored, ← same]
  refine ⟨mergedId_of_absent, only, ?_⟩
  rintro ⟨data, succeeded⟩
  have ran := Profile.resolve_success rfl (Prod.ext succeeded rfl)
  rw [body_profileUpdate moment params restored] at ran
  exact all data (congrArg Prod.fst ran)

/-- A new adapter whose administrator has signed in. -/
def administrator : Host Backend :=
  (Event.run (.call {} (.signIn (.text "admin@example.com") (.text "password123"))) (fresh {})).2

/-- Is a value a certain integer? -/
def isInt (n : Int) : Value → Bool
  | .int m => m == n
  | _ => false

theorem eq_int_of_isInt {n : Int} {v : Value} (same : isInt n v = true) : v = .int n := by
  cases v with
  | int m => exact congrArg Value.int (eq_of_beq same)
  | _ => cases same

theorem callerId?_administrator : callerId? administrator = some (.int 1) := by
  have said : (callerId? administrator).any (isInt 1) = true := by decide +kernel
  cases found : callerId? administrator with
  | none =>
      rw [found] at said
      cases said
  | some id =>
      rw [found] at said
      exact congrArg some (eq_int_of_isInt said)

/-- Without an id among the new fields, the administrator's row is the one that is changed. -/
theorem updateProfile_touches_own_name :
    AllOwn {} (.int 1) [("name", .text "Renamed")] administrator.backend.tables
      (perform {} (profileUpdate [("name", .text "Renamed")]) administrator).2.backend.tables := by
  rcases updateProfile_touches_own {} [("name", .text "Renamed")] callerId?_administrator with
    ⟨same, _, all⟩
  rw [same rfl] at all
  exact all (by decide +kernel)

/-- The name in a row, as a text. -/
def nameOf : Value → String
  | .object fields => ((Fields.get? fields "name").getD .null).display
  | _ => ""

/-- With the id of another user among them, it is the row of that user. -/
theorem updateProfile_changes_other : Reachable administrator ∧
    callerId? administrator = some (.int 1) ∧ ∃ row new,
      (users administrator.backend.tables)[1]? = some row ∧ hasId (.int 1) row = false ∧
        (users (perform {} (profileUpdate [("id", .int 2), ("name", .text "Renamed")])
          administrator).2.backend.tables)[1]? = some new ∧ new ≠ row := by
  refine ⟨.step _ (reachable_fresh {}), callerId?_administrator, ?_⟩
  -- the names are enough to tell the rows apart
  have before : (users administrator.backend.tables)[1]?.map
      (fun row => (hasId (.int 1) row, nameOf row)) = some (false, "Regular User") := by
    decide +kernel
  have after : (users (perform {} (profileUpdate [("id", .int 2), ("name", .text "Renamed")])
      administrator).2.backend.tables)[1]?.map nameOf = some "Renamed" := by decide +kernel
  rcases Option.map_eq_some_iff.1 before with ⟨row, found, said⟩
  rcases Option.map_eq_some_iff.1 after with ⟨new, placed, renamed⟩
  rcases Prod.mk.inj said with ⟨other, named⟩
  refine ⟨row, new, found, other, placed, ?_⟩
  intro same
  rw [same, named] at renamed
  revert renamed
  decide

end DataGateway.Offline
