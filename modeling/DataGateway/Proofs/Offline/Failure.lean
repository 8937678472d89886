import DataGateway.Proofs.Offline.Effect
import DataGateway.Proofs.Offline.Snapshot

/-!
# What a failure leaves behind

When an operation has changed the tables by the time it ends, told from what it was asked and from the
tables that it found.

* `ChangesTables` — the operation gets as far as a change of the tables;
* `touches_perform` — these are the operations after which the tables are not the same;
* `failure_keeps_tables_iff` — the same of the operations that fail.
-/

namespace DataGateway.Offline

variable {α : Type} {host : Host Backend} {moment : Moment}

/-! ## Payloads -/

theorem touches_insert (clock : moment.InCalendar) (table data : Value) :
    Touches (insert moment table data) host ↔
      ∃ rows, rowsOf data = .ok rows ∧ Adds host.backend.tables table rows := by
  have last (inserted : Table) : KeepsTables (if data.isObject then
      (pure (inserted.headD .null) : Work Value) else pure (.list inserted)) := by
    split <;> exact .pure _
  rw [insert, touches_ofExcept_bind]
  simp only [touches_bind_keeps last, touches_insertRows clock]

theorem touches_insertMany (clock : moment.InCalendar) (table rows : Value) :
    Touches (insertMany moment table rows) host ↔
      ∃ records, batchOf rows = .ok records ∧ Adds host.backend.tables table records := by
  have last (inserted : Table) : KeepsTables (pure (.list inserted) : Work Value) := .pure _
  rw [insertMany, touches_ofExcept_bind]
  simp only [Action.map_eq_bind, touches_bind_keeps last, touches_insertRows clock]

/-! ## Filters -/

theorem touches_update (clock : moment.InCalendar) (table : Value) (filters : Filters)
    (patch : Value) : Touches (update moment table filters patch) host ↔
      ∃ spec, filters.parse = .ok spec ∧ ∃ name rows, Key.ofValue table = .ok name ∧
        Fields.get? host.backend.tables name = some rows ∧
        ChangesSome spec.accepts (change moment · patch) rows := by
  have last (changed : Table) : KeepsTables (do save; return .list changed : Work Value) :=
    .bind keeps_save fun _ => .pure _
  rw [update, touches_ofExcept_bind]
  simp only [touches_requireTable_bind, touches_bind_keeps last]
  constructor
  · rintro ⟨spec, parsed, name, rows, named, found, touched⟩
    exact ⟨spec, parsed, name, rows, named, found,
      (touches_rewriteRows clock named found _ patch).1 touched⟩
  · rintro ⟨spec, parsed, name, rows, named, found, changes⟩
    exact ⟨spec, parsed, name, rows, named, found,
      (touches_rewriteRows clock named found _ patch).2 changes⟩

theorem touches_delete (table : Value) (filters : Filters) :
    Touches (delete table filters) host ↔
      ∃ spec, filters.parse = .ok spec ∧ ∃ name rows, Key.ofValue table = .ok name ∧
        Fields.get? host.backend.tables name = some rows ∧
        ∃ kept removed, partitionRows spec rows = .ok (kept, removed) ∧ removed ≠ [] := by
  have last (removed : Table) : KeepsTables (do save; return .list removed : Work Value) :=
    .bind keeps_save fun _ => .pure _
  rw [delete, touches_ofExcept_bind]
  simp only [touches_requireTable_bind, touches_ofExcept_bind, Prod.exists]
  simp only [touches_bind_keeps fun _ => last _]
  constructor
  · rintro ⟨spec, parsed, name, rows, named, found, kept, removed, split, touched⟩
    refine ⟨spec, parsed, name, rows, named, found, kept, removed, split, ?_⟩
    intro none
    exact (touches_putTable named found).1 touched ((partitionRows_eq_self_iff split).2 none)
  · rintro ⟨spec, parsed, name, rows, named, found, kept, removed, split, some⟩
    refine ⟨spec, parsed, name, rows, named, found, kept, removed, split, ?_⟩
    refine (touches_putTable named found).2 ?_
    intro same
    exact some ((partitionRows_eq_self_iff split).1 same)

/-! ## Merging -/

/-- The table that a payload leaves: the one that was there, unless its first record fits. -/
theorem upsert_tables (clock : moment.InCalendar) {table : Value} {name : Key}
    (named : Key.ofValue table = .ok name) (data : Value) (host : Host Backend) :
    let rows := (Fields.get? host.backend.tables name).getD []
    ∃ written, (upsert moment table data host).2.backend.tables =
        Fields.set host.backend.tables name written ∧
      (written = rows ↔ ¬∃ record rest, rowsOf data = .ok (record :: rest) ∧
        Fits moment rows record) := by
  intro rows
  -- the table is opened before the payload is read, so it is there even when the payload is refused
  rcases ensureTable_ok named host with ⟨opened, first, created⟩
  have present : Fields.get? opened.backend.tables name = some rows := by
    rw [created, Fields.get?_set_self]
  rw [upsert, Action.bind_of_ok first]
  cases read : rowsOf data with
  | error fault =>
      refine ⟨rows, created, fun _ => ?_, fun _ => rfl⟩
      rintro ⟨record, rest, same, _⟩
      cases same
  | ok records =>
      have last (written : Table) : KeepsTables (do
          save
          if data.isObject then return written.headD .null else return .list written :
            Work Value) := by
        refine .bind keeps_save fun _ => ?_
        split <;> exact .pure _
      rcases upsertRows_tables clock named present records with ⟨written, tables, grown⟩
      refine ⟨written, ?_, ?_⟩
      · rw [Action.ofExcept_bind_ok rfl, tables_bind_keeps last]
        calc
          (upsertRows moment table records opened).2.backend.tables
              = Fields.set opened.backend.tables name written := tables
          _ = Fields.set host.backend.tables name written := by rw [created, Fields.set_set]
      · -- the first record decides: once it is in, the weight never comes down again
        rcases grown with ⟨same, stuck⟩ | ⟨more, record, here, fits⟩
        · refine ⟨fun _ => ?_, fun _ => same⟩
          rintro ⟨record, rest, split, fits⟩
          cases split
          exact stuck record rfl fits
        · constructor
          · intro same
            rw [same] at more
            exact absurd more (Nat.lt_irrefl _)
          · intro none
            rcases List.head?_eq_some_iff.1 here with ⟨rest, split⟩
            exact absurd ⟨record, rest, congrArg Except.ok split, fits⟩ none

theorem touches_upsert (clock : moment.InCalendar) (table data : Value) :
    Touches (upsert moment table data) host ↔ ∃ name, Key.ofValue table = .ok name ∧
      (Fields.get? host.backend.tables name = none ∨
        ∃ rows record rest, Fields.get? host.backend.tables name = some rows ∧
          rowsOf data = .ok (record :: rest) ∧ Fits moment rows record) := by
  cases named : Key.ofValue table with
  | error fault =>
      have failed : upsert moment table data host = (.error fault, host) :=
        Action.bind_of_error (Action.ofExcept_bind_error named _ host)
      constructor
      · intro touched
        exact absurd touched (not_touches_of_ran failed rfl)
      · rintro ⟨name, other, _⟩
        cases other
  | ok name =>
      rcases upsert_tables clock named data host with ⟨written, tables, unchanged⟩
      -- a write of what is there already is no change
      rw [Touches, tables, Ne, Fields.set_eq_self_iff]
      cases found : Fields.get? host.backend.tables name with
      | none =>
          refine ⟨fun _ => ⟨name, rfl, .inl found⟩, fun _ => ?_⟩
          intro same
          cases same
      | some rows =>
          rw [found, Option.getD_some] at unchanged
          rw [Option.some_inj, eq_comm, unchanged, not_not]
          constructor
          · rintro ⟨record, rest, read, fits⟩
            exact ⟨name, rfl, .inr ⟨rows, record, rest, found, read, fits⟩⟩
          · rintro ⟨other, same, absent | ⟨rows, record, rest, present, read, fits⟩⟩
            · cases same
              rw [found] at absent
              cases absent
            · cases same
              rw [found] at present
              cases present
              exact ⟨record, rest, read, fits⟩

/-! ## Accounts -/

theorem named_accounts : Key.ofValue accountsTable = .ok (.ofText "auth_users") := rfl

theorem named_users : Key.ofValue usersTable = .ok (.ofText "users") := rfl

/-- The two tables are two keys, so what is written to the one does not reach the other. -/
theorem accounts_ne_users : (Key.ofText "auth_users" == Key.ofText "users") = false := by
  rw [Key.ofText_beq]
  decide

theorem users_ne_accounts : (Key.ofText "users" == Key.ofText "auth_users") = false := by
  rw [BEq.comm]
  exact accounts_ne_users

/-- The part that comes after the checks: one more account, one more user, and a session. -/
def register (moment : Moment) (id email password name : Value) (accounts : Table) : Work Value := do
  putTable accountsTable (accounts ++ [newAccount id email password])
  let users ← ensureTable usersTable
  let user := newUser moment id email name
  putTable usersTable (users ++ [user])
  save
  profile.startSession (← Action.ofExcept (tokenFor id)) user
  keepSession
  return user

theorem signUp_eq (moment : Moment) (email password : Value) : signUp moment email password = (do
    Action.ofExcept (requireCredentials email password)
    let accounts ← ensureTable accountsTable
    Action.ofExcept (requireNewEmail email accounts)
    let id ← Value.int <$> Host.onBackend (Backend.generateId moment)
    let name ← Action.ofExcept (localPart email)
    register moment id email password name accounts) := rfl

theorem register_tables {id email password name : Value} {accounts : Table} :
    (register moment id email password name accounts host).2.backend.tables =
      Fields.set (Fields.set host.backend.tables (.ofText "auth_users")
        (accounts ++ [newAccount id email password])) (.ofText "users")
        ((Fields.get? host.backend.tables (.ofText "users")).getD [] ++
          [newUser moment id email name]) := by
  rcases putTable_ok named_accounts (accounts ++ [newAccount id email password]) host with
    ⟨enrolled, first, accounted⟩
  rcases ensureTable_ok named_users enrolled with ⟨opened, second, created⟩
  rcases putTable_ok named_users ((Fields.get? enrolled.backend.tables (.ofText "users")).getD [] ++
    [newUser moment id email name]) opened with ⟨last, third, added⟩
  have rest (_ : Unit) : KeepsTables (do
      save
      profile.startSession (← Action.ofExcept (tokenFor id)) (newUser moment id email name)
      keepSession
      return newUser moment id email name : Work Value) :=
    .bind keeps_save fun _ => .bind (.ofExcept _) fun _ =>
      .bind (Profile.fixes_startSession _ _) fun _ => .bind keeps_keepSession.tables fun _ => .pure _
  rw [register, Action.bind_of_ok first, Action.bind_of_ok second, tables_bind_keeps rest, third, added,
    created, Fields.set_set, accounted, Fields.get?_set_of_ne users_ne_accounts]

/-- The accounts get one more when the address stands the checks, and are there in any case. -/
theorem signUp_tables (clock : moment.InCalendar) {email password : Value}
    (allowed : requireCredentials email password = .ok ()) (host : Host Backend) :
    let accounts := (Fields.get? host.backend.tables (.ofText "auth_users")).getD []
    let checked := requireNewEmail email accounts = .ok () ∧ ∃ name, localPart email = .ok name
    (checked ∧ ∃ account, Fields.get? (signUp moment email password host).2.backend.tables
        (.ofText "auth_users") = some (accounts ++ [account])) ∨
      ¬checked ∧ (signUp moment email password host).2.backend.tables =
        Fields.set host.backend.tables (.ofText "auth_users") accounts := by
  intro accounts checked
  -- the accounts are opened before the address is looked at
  rcases ensureTable_ok named_accounts host with ⟨opened, first, created⟩
  rw [signUp_eq, Action.ofExcept_bind_ok allowed, Action.bind_of_ok first]
  cases unused : requireNewEmail email accounts with
  | error fault =>
      have stopped : ¬checked := by
        rintro ⟨fine, _⟩
        rw [unused] at fine
        cases fine
      exact .inr ⟨stopped, by rw [Action.ofExcept_bind_error rfl, created]⟩
  | ok _ =>
      rcases nextId_ok clock opened with ⟨id, middle, generated, kept⟩
      rw [Action.ofExcept_bind_ok rfl, Action.bind_of_ok generated]
      cases known : localPart email with
      | error fault =>
          have stopped : ¬checked := by
            rintro ⟨_, name, fine⟩
            rw [known] at fine
            cases fine
          exact .inr ⟨stopped, by rw [Action.ofExcept_bind_error rfl, kept, created]⟩
      | ok name =>
          refine .inl ⟨⟨unused, name, known⟩, newAccount id email password, ?_⟩
          rw [Action.ofExcept_bind_ok rfl, register_tables, Fields.get?_set_of_ne accounts_ne_users,
            Fields.get?_set_self]

theorem touches_signUp (clock : moment.InCalendar) (email password : Value) :
    Touches (signUp moment email password) host ↔
      requireCredentials email password = .ok () ∧
        (Fields.get? host.backend.tables (.ofText "auth_users") = none ∨
          ∃ accounts name, Fields.get? host.backend.tables (.ofText "auth_users") = some accounts ∧
            requireNewEmail email accounts = .ok () ∧ localPart email = .ok name) := by
  cases allowed : requireCredentials email password with
  | error fault =>
      have failed : signUp moment email password host = (.error fault, host) :=
        Action.ofExcept_bind_error allowed _ host
      constructor
      · intro touched
        exact absurd touched (not_touches_of_ran failed rfl)
      · rintro ⟨other, _⟩
        cases other
  | ok _ =>
      have tables := signUp_tables clock allowed host
      cases found : Fields.get? host.backend.tables (.ofText "auth_users") with
      | none =>
          refine ⟨fun _ => ⟨rfl, .inl rfl⟩, fun _ => ?_⟩
          intro same
          rcases tables with ⟨_, account, present⟩ | ⟨_, created⟩
          · rw [same, found] at present
            cases present
          · rw [same, eq_comm, Fields.set_eq_self_iff, found] at created
            cases created
      | some accounts =>
          rw [found] at tables
          rcases tables with ⟨⟨unused, name, known⟩, account, present⟩ | ⟨stopped, created⟩
          · refine ⟨fun _ => ⟨rfl, .inr ⟨accounts, name, rfl, unused, known⟩⟩, fun _ => ?_⟩
            intro same
            rw [same, found] at present
            simp at present
          · constructor
            · intro touched
              exact absurd (created.trans (Fields.set_of_get?_eq_some found)) touched
            · rintro ⟨_, none | ⟨others, name, same, unused, known⟩⟩
              · cases none
              · cases same
                exact absurd ⟨unused, name, known⟩ stopped

/-! ## Profiles -/

theorem touches_changeUsers (clock : moment.InCalendar) (principal patch : Value) :
    Touches (changeUsers moment principal patch) host ↔
      ∃ rows, Fields.get? host.backend.tables (.ofText "users") = some rows ∧
        ChangesSome (isOwn principal) (change moment · patch) rows := by
  rw [changeUsers, touches_get_bind]
  cases found : Fields.get? host.backend.tables (.ofText "users") with
  | none =>
      have absent : Fields.has host.backend.tables (.ofText "users") = false := by
        rw [Fields.has, ← Fields.get?, found]
        rfl
      rw [absent]
      constructor
      · intro touched
        exact absurd rfl touched
      · rintro ⟨rows, none, _⟩
        cases none
  | some rows =>
      have present : Fields.has host.backend.tables (.ofText "users") = true :=
        Fields.has_eq_true_iff.2 ⟨rows, found⟩
      have read : rowsOfTable usersTable host = (.ok rows, host) := by
        rw [rowsOfTable_ok named_users, found, Option.getD_some]
      -- the rows that are read are those of the table, as rewriting takes them to be
      have written := touches_rewriteRows clock named_users found (isOwn principal) patch
      have last (changed : Table) : KeepsTables (pure () : Work Unit) := .pure _
      rw [present, if_pos rfl, touches_bind_of_ok read rfl, touches_bind_keeps fun _ => .pure _,
        written]
      constructor
      · intro changes
        exact ⟨rows, rfl, changes⟩
      · rintro ⟨others, same, changes⟩
        cases same
        exact changes

/-- Does a change of the profile reach a row of the principal of a session? -/
def ChangesOwn (moment : Moment) (tables : Tables) (params : Value) (session : Session) : Prop :=
  ∃ fields update rows, session.principal.spread = .ok fields ∧
    (params.orElse (.object [])).spread = .ok update ∧
    Fields.get? tables (.ofText "users") = some rows ∧
    ChangesSome (isOwn (.object (Fields.merge fields update)))
      (change moment · (params.orElse (.object []))) rows

theorem touches_updateProfile (clock : moment.InCalendar) (params : Value) :
    Touches (updateProfile moment params) host ↔
      ∃ session ∈ host.session, ChangesOwn moment host.backend.tables params session := by
  have last (principal : Value) (_ : Unit) : KeepsTables (do
      save
      keepSession
      return principal : Work Value) :=
    .bind keeps_save fun _ => .bind keeps_keepSession.tables fun _ => .pure _
  cases present : host.session with
  | none =>
      have failed : updateProfile moment params host = (.error (.denied .noSession false), host) :=
        Action.bind_of_error (Host.requireSession_absent present)
      constructor
      · intro touched
        exact absurd touched (not_touches_of_ran failed rfl)
      · rintro ⟨session, none, _⟩
        cases none
  | some session =>
      -- the principal is renamed before the rows are looked at, and no table hears of it
      have renamed (principal : Value) (next : Unit → Work Value) :
          Touches (Host.setPrincipal session principal >>= next) host ↔
            Touches (next ()) { host with session := some { session with principal } } :=
        touches_bind_of_ok rfl rfl
      rw [updateProfile, touches_bind_of_ok (Host.requireSession_present present) rfl]
      simp only [touches_ofExcept_bind, renamed, touches_bind_keeps (last _),
        touches_changeUsers clock]
      constructor
      · rintro ⟨fields, spread, update, patch, rows, found, changes⟩
        exact ⟨session, rfl, fields, update, rows, spread, patch, found, changes⟩
      · rintro ⟨other, same, fields, update, rows, spread, patch, found, changes⟩
        cases same
        exact ⟨fields, spread, update, patch, rows, found, changes⟩

theorem touches_rpc (clock : moment.InCalendar) (name params : Value) :
    Touches (rpc moment name params) host ↔
      name.looseEq (.text "get_user_profile") = false ∧
        name.looseEq (.text "update_user_profile") = true ∧
        ∃ opened, restoreSession host = (.ok (), opened) ∧
          ∃ session ∈ opened.session, ChangesOwn moment host.backend.tables params session := by
  rcases restored : restoreSession host with ⟨result, opened⟩
  -- taking up the kept session reads the store and changes nothing of the backend
  have untouched : FixesBackend id restoreSession := fixes_restoreSession
  have same : opened.backend = host.backend := untouched.after restored
  have tables : opened.backend.tables = host.backend.tables := congrArg Backend.tables same
  cases result with
  | error fault =>
      have failed : rpc moment name params host = (.error fault, opened) :=
        Action.bind_of_error restored
      constructor
      · intro touched
        exact absurd touched (not_touches_of_ran failed tables)
      · rintro ⟨_, _, other, ran, _⟩
        cases ran
  | ok _ =>
      rw [rpc, touches_bind_of_ok restored tables]
      cases reads : name.looseEq (.text "get_user_profile") with
      | true =>
          constructor
          · intro touched
            rw [if_pos rfl] at touched
            -- the profile is only read
            refine absurd touched (not_touches_of_keeps (.bind .get fun host => ?_))
            cases host.session with
            | none => exact .pure _
            | some session => exact .ofExcept _
          · rintro ⟨other, _⟩
            cases other
      | false =>
          cases updates : name.looseEq (.text "update_user_profile") with
          | false =>
              constructor
              · intro touched
                exact absurd touched (not_touches_of_keeps (.bind (.ofExcept _) fun _ => .pure _))
              · rintro ⟨_, other, _⟩
                cases other
          | true =>
              have ran : Touches (updateProfile moment params) opened ↔
                  ∃ session ∈ opened.session, ChangesOwn moment host.backend.tables params session := by
                rw [touches_updateProfile clock, tables]
              constructor
              · intro touched
                exact ⟨rfl, rfl, opened, rfl, ran.1 touched⟩
              · rintro ⟨_, _, other, found, changes⟩
                cases found
                exact ran.2 changes

/-! ## Operations -/

/-- Does an operation get as far as a change of the tables? -/
def ChangesTables (moment : Moment) (host : Host Backend) : Operation → Prop
  | .insert table data => ∃ rows, rowsOf data = .ok rows ∧ Adds host.backend.tables table rows
  | .insertMany table data => ∃ rows, batchOf data = .ok rows ∧ Adds host.backend.tables table rows
  | .update table filters patch =>
    ∃ spec, filters.parse = .ok spec ∧ ∃ name rows, Key.ofValue table = .ok name ∧
      Fields.get? host.backend.tables name = some rows ∧
      ChangesSome spec.accepts (change moment · patch) rows
  | .delete table filters =>
    ∃ spec, filters.parse = .ok spec ∧ ∃ name rows, Key.ofValue table = .ok name ∧
      Fields.get? host.backend.tables name = some rows ∧
      ∃ kept removed, partitionRows spec rows = .ok (kept, removed) ∧ removed ≠ []
  | .upsert table data =>
    ∃ name, Key.ofValue table = .ok name ∧
      (Fields.get? host.backend.tables name = none ∨
        ∃ rows record rest, Fields.get? host.backend.tables name = some rows ∧
          rowsOf data = .ok (record :: rest) ∧ Fits moment rows record)
  | .rpc name params =>
    name.looseEq (.text "get_user_profile") = false ∧
      name.looseEq (.text "update_user_profile") = true ∧
      ∃ opened, restoreSession host = (.ok (), opened) ∧
        ∃ session ∈ opened.session, ChangesOwn moment host.backend.tables params session
  | .signUp email password =>
    requireCredentials email password = .ok () ∧
      (Fields.get? host.backend.tables (.ofText "auth_users") = none ∨
        ∃ accounts name, Fields.get? host.backend.tables (.ofText "auth_users") = some accounts ∧
          requireNewEmail email accounts = .ok () ∧ localPart email = .ok name)
  | _ => False

theorem touches_body (clock : moment.InCalendar) (operation : Operation) :
    Touches (body moment operation) host ↔ ChangesTables moment host operation := by
  have idle {step : Work Value} (keeps : KeepsContents step) : Touches step host ↔ False :=
    iff_false_intro (not_touches_of_keeps keeps.tables)
  cases operation with
  | select table columns filters => exact idle (keeps_select table columns filters)
  | selectOne table columns filters => exact idle (keeps_selectOne table columns filters)
  | query table options => exact idle (keeps_query table options)
  | count table filters => exact idle (keeps_count table filters)
  | insert table data => exact touches_insert clock table data
  | insertMany table rows => exact touches_insertMany clock table rows
  | update table filters patch => exact touches_update clock table filters patch
  | delete table filters => exact touches_delete table filters
  | upsert table data => exact touches_upsert clock table data
  | rpc name params => exact touches_rpc clock name params
  | signIn email password => exact idle (keeps_signIn email password)
  | signUp email password => exact touches_signUp clock email password
  | signOut => exact idle keeps_signOut
  | currentUser => exact idle fixes_currentUser
  | isAuthenticated => exact idle fixes_isAuthenticated

theorem touches_perform (clock : moment.InCalendar) (operation : Operation) :
    Touches (perform moment operation) host ↔ ChangesTables moment host operation := by
  rw [Touches, tables_perform, ← Touches, touches_body clock]

/-- An operation that fails leaves the tables as they were exactly when it fails before its first
change of them. -/
theorem failure_keeps_tables_iff (clock : moment.InCalendar) {operation : Operation} {text : String}
    {after : Host Backend} (failed : perform moment operation host = (.ok (.failure text), after)) :
    after.backend.tables = host.backend.tables ↔ ¬ChangesTables moment host operation := by
  rw [← touches_perform clock, Touches, failed, not_not]

theorem inCalendar_default : Moment.InCalendar {} where
  now :=
    { first := by decide
      last := by decide
      offset := by
        intro offset same
        cases same
        exact isOffset_zero }
  later := nofun

/-- A payload that is no row is refused before anything is changed. -/
theorem failure_keeps_tables_insert :
    ∃ text after, perform {} (.insert (.text "notes") (.int 5)) (fresh {}) =
        (.ok (.failure text), after) ∧
      after.backend.tables = (fresh {}).backend.tables := by
  have failed : Failed (perform {} (.insert (.text "notes") (.int 5)) (fresh {})).1 := by
    decide +kernel
  rcases failed with ⟨text, outcome⟩
  rcases ran : perform {} (.insert (.text "notes") (.int 5)) (fresh {}) with ⟨result, after⟩
  rw [ran] at outcome
  cases outcome
  refine ⟨text, after, rfl, (failure_keeps_tables_iff inCalendar_default ran).2 ?_⟩
  rintro ⟨rows, read, _⟩
  cases read

/-! ## A failure half-way -/

/-- Two rows, the second with a time of change that has no next one. -/
def lastMoment : Operation :=
  .insertMany (.text "notes") (.list [.object [("id", .int 1)],
    .object [("id", .int 2), ("updated_at", .text "9999-12-31T23:59:59.999999+00:00")]])

/-- An adapter with these rows. -/
def atLastMoment : Host Backend := (Event.run (.call {} lastMoment) (fresh {})).2

/-- A change of all rows. -/
def finishAll : Operation :=
  .update (.text "notes") (.columns []) (.object [("done", .bool true)])

/-- Is the first row of the notes done? -/
def firstIsDone (tables : Tables) : Bool :=
  match Fields.get? tables (.ofText "notes") with
  | some (.object fields :: _) => Fields.has fields "done"
  | _ => false

/-- The first row is changed, the second one cannot be, and the first one stays changed. -/
theorem failed_update_changes_tables :
    Reachable atLastMoment ∧ ∃ text after,
      perform {} finishAll atLastMoment = (.ok (.failure text), after) ∧
        after.backend.tables ≠ atLastMoment.backend.tables := by
  have failed : Failed (perform {} finishAll atLastMoment).1 := by decide +kernel
  -- one bit of the tables is enough to tell them apart
  have before : firstIsDone atLastMoment.backend.tables = false := by decide +kernel
  have done : firstIsDone (perform {} finishAll atLastMoment).2.backend.tables = true := by
    decide +kernel
  rcases failed with ⟨text, outcome⟩
  refine ⟨.step _ (reachable_fresh {}), text, _, Prod.ext outcome rfl, ?_⟩
  intro same
  rw [same, before] at done
  cases done

end DataGateway.Offline
