import DataGateway.Proofs.Offline.Members

/-!
# Accounts

A member is enrolled in the tables and in the snapshot, and stays so whatever is read, whoever signs in,
up or out, and however often the adapter is restarted. So an account stays usable, and stays the only one
with its address.

* `Member.Settled` — a member is enrolled in the tables and in the snapshot;
* `Member.Settled.run` — one event that spares the rows leaves the member so, and so do any number;
* `Member.Settled.signIn`, `signIn_other`, `signUp` — what the member is answered, and everybody else;
* `account_stays` — the same for the responses after any run.
-/

namespace DataGateway

/-- Is an operation one that reads, or one for accounts and sessions? -/
def Operation.SparesRows : Operation → Prop
  | .select .. | .selectOne .. | .query .. | .count .. => True
  | .signIn .. | .signUp .. | .signOut | .currentUser | .isAuthenticated => True
  | _ => False

namespace Offline

variable {host after : Host Backend} {moment : Moment} {email : String} {rows : Table} {member : Member}

/-! ## Members over a run -/

/-- What can be done to an adapter without touching the rows that are there. -/
def Event.SparesRows : Event → Prop
  | .call _ operation => operation.SparesRows
  | .restart _ => True
  | _ => False

/-- The member is enrolled in the tables and in the snapshot, with a user that can be saved. -/
structure Member.Settled (member : Member) (host : Host Backend) : Prop where
  password : ∃ text, member.password = .text text
  writable : Json.requireWritable (Json.levelLimit - 2) member.user = .ok ()
  live : member.Enrolled host.backend.tables
  stored : ∃ stored, host.backend.Holds stored ∧ member.Enrolled (Tables.ofNamed stored)

/-- An address that stands the check is not that of a member. -/
theorem ne_of_requireNewEmail {account : Value} (sole : Sole email account rows)
    (own : account.field "email" = .ok (.text email)) {other : String}
    (unused : requireNewEmail (.text other) rows = .ok ()) : other ≠ email := by
  rintro rfl
  have found := sole.findRow? (hasEmail_own own) fun _ apart => apart.hasEmail
  rw [requireNewEmail, found] at unused
  cases unused

/-- Whatever is done that spares the rows, the member is still in the tables. -/
theorem Member.Settled.live_run (settled : member.Settled host) {event : Event}
    (spares : event.SparesRows) : member.Enrolled (event.run host).2.backend.tables := by
  cases event with
  | restart moment =>
      -- what is read is the snapshot, and tables that are missing there come behind it
      rcases settled.stored with ⟨stored, holds, enrolled⟩
      rcases restart_cases moment holds with ⟨next, _, runs, tables, _⟩ | failed
      · rw [runs, tables]
        exact enrolled.append _
      · rw [failed]
        exact settled.live
  | call moment operation =>
      have same : ((Event.call moment operation).run host).2.backend.tables = _ :=
        tables_perform operation
      have reading {operation : Operation} (reads : ¬operation.Mutates) :
          member.Enrolled (body moment operation host).2.backend.tables := by
        have kept : (body moment operation host).2.backend.tables = host.backend.tables :=
          KeepsContents.tables (keeps_body moment reads) host
        rw [kept]
        exact settled.live
      rw [same]
      cases operation with
      | signUp email password =>
          rcases ran : signUp moment email password host with ⟨result, after⟩
          rw [body, ran]
          rcases signUp_cases ran with ⟨_, kept | opened⟩ | ⟨newcomer, rfl, _, unused, tables, _⟩
          · rw [kept]
            exact settled.live
          · rw [opened, settled.live.set_accounts]
            exact settled.live
          · rw [tables]
            exact settled.live.enrolIn (ne_of_requireNewEmail settled.live.rowsOf_accounts rfl unused)
      | insert | insertMany | update | delete | upsert | rpc => exact spares.elim
      | _ => exact reading fun mutates => mutates
  | _ => exact spares.elim

/-- Once tables with the member are saved, the member is in the snapshot too. -/
theorem settled_of_isSaved (password : ∃ text, member.password = .text text)
    (writable : Json.requireWritable (Json.levelLimit - 2) member.user = .ok ())
    (live : member.Enrolled host.backend.tables) (saved : host.backend.IsSaved)
    (distinct : host.backend.tables.Distinct) : member.Settled host := by
  have same : Json.normalize member.password = member.password := by
    rcases password with ⟨text, given⟩
    rw [given]
    rfl
  rcases saved.holds with ⟨stored, holds⟩
  exact ⟨password, writable, live, stored, holds, live.saved same saved holds distinct⟩

/-- One event, whatever it is that spares the rows, leaves the member enrolled. -/
theorem Member.Settled.run (settled : member.Settled host) (reached : Reachable host) {event : Event}
    (spares : event.SparesRows) : member.Settled (event.run host).2 := by
  have live := settled.live_run spares
  have distinct := (Reachable.step event reached).distinct
  rcases settled.stored with ⟨stored, holds, enrolled⟩
  have memory := Backend.inMemory_of_snapshot? holds.said
  have follows := run_follows memory event
  -- a restart saves what it has read, a mutation that succeeds saves, all else leaves the snapshot alone
  by_cases restarts : ∃ moment, event = .restart moment
  · rcases restarts with ⟨moment, rfl⟩
    rcases restart_cases moment holds with ⟨next, _, runs, _, saved⟩ | failed
    · rw [runs] at live distinct ⊢
      exact settled_of_isSaved settled.password settled.writable live saved distinct
    · rw [failed]
      exact settled
  · by_cases saves : event.Mutates ∧ Succeeded (event.run host).1
    · exact settled_of_isSaved settled.password settled.writable live
        (follows.saved saves.1 saves.2) distinct
    · rcases follows.kept (fun moment same => restarts ⟨moment, same⟩) saves with same | half
      · have still : (event.run host).2.backend.Holds stored :=
          ⟨by rw [same, holds.said], holds.normal, holds.writable⟩
        exact ⟨settled.password, settled.writable, live, stored, still, enrolled⟩
      · -- it would be a change of a profile, and that does not spare the rows
        rcases half.changes with ⟨moment, operation, rfl, changes⟩
        cases operation with
        | rpc name params => exact spares.elim
        | _ => exact changes.elim

/-- So does any number of them. -/
theorem Member.Settled.runs (settled : member.Settled host) (reached : Reachable host)
    (events : List Event) (spares : ∀ event ∈ events, event.SparesRows) :
    member.Settled (events.foldl (fun host event => (event.run host).2) host) := by
  induction events generalizing host with
  | nil => exact settled
  | cons event events ih =>
      rcases List.forall_mem_cons.1 spares with ⟨first, later⟩
      exact ih (settled.run reached first) (.step event reached) later

/-! ## What a member may do -/

/-- Who signs up with an address that no user has is settled from then on. -/
theorem exists_settled {email password : String} {data : Value} (reached : Reachable host)
    (accounts : ∀ row ∈ host.backend.tables.rowsOf (.ofText "auth_users"), IsPlain row)
    (users : ∀ row ∈ host.backend.tables.rowsOf (.ofText "users"),
      IsPlain row ∧ row.field "email" ≠ .ok (.text email))
    (signed : perform moment (.signUp (.text email) (.text password)) host =
      (.ok (.success data), after)) :
    ∃ member : Member, member.email = email ∧ member.password = .text password ∧
      data = member.user ∧ member.Settled after := by
  have ran : signUp moment (.text email) (.text password) host = (.ok data, after) :=
    Profile.resolve_success rfl signed
  rcases signUp_cases ran with ⟨⟨fault, failed⟩, _⟩ | ⟨member, same, given, unused, tables, found⟩
  · cases failed
  · cases same
    -- the accounts have been looked through by signing up, the users only by the caller
    have none : findRow? (hasEmail (.text member.email))
        (host.backend.tables.rowsOf (.ofText "auth_users")) = .ok none := by
      rcases bind_eq_ok_iff.1 unused with ⟨found, searched, free⟩
      cases found with
      | none => exact searched
      | some account => cases free
    have live : member.Enrolled after.backend.tables := by
      rw [tables]
      refine Member.enrolled_enrolIn (fun row there => ?_) fun row there => ?_
      · refine (accounts row there).apart fun own => ?_
        have missed := findRow?_eq_none none row there
        rw [hasEmail_own own] at missed
        cases missed
      · exact (users row there).1.apart (users row there).2
    have distinct : after.backend.tables.Distinct := by
      have next := (Reachable.step (.call moment (.signUp (.text member.email) (.text password)))
        reached).distinct
      rwa [Event.run, signed] at next
    rcases reached.holds with ⟨stored, holds⟩
    have commits : Commits (fun _ => False)
        (Offline.signUp moment (.text member.email) (.text password)) := commits_signUp moment _ _
    have saved : after.backend.IsSaved := commits.saved (Backend.inMemory_of_snapshot? holds.said) ran
    have writable : Json.requireWritable (Json.levelLimit - 2) member.user = .ok () := by
      rcases saved with ⟨snapshot, said, _⟩
      rcases live.users with ⟨rows, there, sole⟩
      exact Tables.writable_row ⟨snapshot, said⟩ there sole.mem
    exact ⟨member, rfl, given, found data rfl,
      settled_of_isSaved ⟨password, given⟩ writable live saved distinct⟩

theorem rowsOfTable_accounts : rowsOfTable accountsTable host =
    (.ok (host.backend.tables.rowsOf (.ofText "auth_users")), host) := rowsOfTable_ok named_accounts

theorem rowsOfTable_users : rowsOfTable usersTable host =
    (.ok (host.backend.tables.rowsOf (.ofText "users")), host) := rowsOfTable_ok named_users

section Answers

variable (settled : member.Settled host)

include settled

/-- Of all accounts only that of the member can be found under the address. -/
theorem Member.Settled.findRow?_login (password : Value) :
    findRow? (hasLogin (.text member.email) password)
        (host.backend.tables.rowsOf (.ofText "auth_users")) =
      .ok (if member.password.looseEq password then some member.account else none) := by
  refine settled.live.rowsOf_accounts.findRow? ?_ fun other apart => ?_
  · rw [hasLogin, hasEmail_own (rfl : member.account.field "email" = .ok (.text member.email))]
    rfl
  · rw [hasLogin, apart.hasEmail]
    rfl

theorem Member.Settled.findRow?_user :
    findRow? (hasEmail (.text member.email)) (host.backend.tables.rowsOf (.ofText "users")) =
      .ok (some member.user) :=
  settled.live.rowsOf_users.findRow? (hasEmail_own rfl) fun _ apart => apart.hasEmail

/-- Signing in with the right password finds the user, and begins a session that is kept. -/
theorem Member.Settled.signIn :
    ∃ next, signIn (.text member.email) member.password host = (.ok member.user, next) := by
  have found := settled.findRow?_login member.password
  have right : member.password.looseEq member.password = true := by
    rcases settled.password with ⟨text, given⟩
    rw [given, Value.looseEq_text, beq_self_eq_true]
  rw [right] at found
  rcases settled.stored with ⟨stored, holds, _⟩
  have printable : (Value.int member.id).isPrintable = true := Json.isPrintable_of_requireWritable
    (Json.requireFields_iff.1 settled.writable ("id", .int member.id) (List.mem_cons_self ..))
  rcases begin_ok (Backend.inMemory_of_snapshot? holds.said) (writable_keptSession settled.writable
    ("mock-token-" ++ (Value.int member.id).display)) with ⟨after, begun⟩
  refine ⟨after, ?_⟩
  rw [Offline.signIn, Action.bind_of_ok rowsOfTable_accounts, Action.ofExcept_bind_ok found]
  refine (Action.bind_of_ok rowsOfTable_users).trans ?_
  refine (Action.ofExcept_bind_ok settled.findRow?_user _ host).trans ?_
  -- the user is a record with an id, so there is nothing more to be found out about it
  exact (Action.ofExcept_bind_ok (tokenFor_ok printable) _ host).trans begun

theorem Member.Settled.signIn_other {other : Value} (wrong : other ≠ member.password) :
    Offline.signIn (.text member.email) other host = (.error (.denied .wrongLogin false), host) := by
  have found := settled.findRow?_login other
  have missed : member.password.looseEq other = false := by
    rcases settled.password with ⟨text, given⟩
    rw [given] at wrong ⊢
    exact Bool.eq_false_iff.2 (Value.text_looseEq_iff.not.2 wrong)
  rw [missed] at found
  rw [Offline.signIn, Action.bind_of_ok rowsOfTable_accounts, Action.ofExcept_bind_ok found]
  rfl

theorem Member.Settled.signUp (moment : Moment) (other : Value) :
    ∃ fault, (signUp moment (.text member.email) other host).1 = .error fault := by
  rcases ran : Offline.signUp moment (.text member.email) other host with ⟨result, after⟩
  rcases signUp_cases ran with ⟨failed, _⟩ | ⟨newcomer, _, _, unused, _, _⟩
  · exact failed
  · exact absurd rfl (ne_of_requireNewEmail settled.live.rowsOf_accounts rfl unused)

end Answers

/-- Whoever signs up with an address that no user has stays the only one to have it, over every further
run that spares the rows: may sign in with the password and is the same user each time; is turned down
with every other password; and nobody can sign up with the address again. -/
theorem account_stays {email password : String} {data : Value} (reached : Reachable host)
    (accounts : ∀ row ∈ host.backend.tables.rowsOf (.ofText "auth_users"), IsPlain row)
    (users : ∀ row ∈ host.backend.tables.rowsOf (.ofText "users"),
      IsPlain row ∧ row.field "email" ≠ .ok (.text email))
    (signed : perform moment (.signUp (.text email) (.text password)) host =
      (.ok (.success data), after))
    (events : List Event) (spares : ∀ event ∈ events, event.SparesRows) (later : Moment) :
    let last := events.foldl (fun host event => (event.run host).2) after
    (perform later (.signIn (.text email) (.text password)) last).1 = .ok (.success data) ∧
      ((∃ id, data.field "id" = .ok (.int id)) ∧ data.field "email" = .ok (.text email)) ∧
      (∀ other, other ≠ .text password →
        (perform later (.signIn (.text email) other) last).1 =
          .ok (.failure "Invalid email or password")) ∧
      (∀ other, Failed (perform later (.signUp (.text email) other) last).1) ∧
      (last.backend.tables.rowsOf (.ofText "auth_users")).countP (carries email) = 1 := by
  intro last
  rcases exists_settled reached accounts users signed with ⟨member, rfl, given, rfl, begun⟩
  have next : Reachable after := by
    have stepped := Reachable.step (.call moment (.signUp (.text member.email) (.text password))) reached
    rwa [Event.run, signed] at stepped
  have settled : member.Settled last := begun.runs next events spares
  refine ⟨?_, ⟨⟨member.id, rfl⟩, rfl⟩, fun other wrong => ?_, fun other => ?_, ?_⟩
  · rcases settled.signIn with ⟨after, ran⟩
    rw [given] at ran
    have found : body later (.signIn (.text member.email) (.text password)) last = _ := ran
    rw [perform_of_ok found]
  · have ran := settled.signIn_other (given ▸ wrong : other ≠ member.password)
    have envelope : perform later (.signIn (.text member.email) other) last = _ :=
      Profile.resolve_apply rfl "sign_in" _ last
    rw [envelope, body, ran]
    rfl
  · rcases settled.signUp later other with ⟨fault, failed⟩
    have ran : body later (.signUp (.text member.email) other) last = (.error fault, _) :=
      Prod.ext failed rfl
    rcases perform_of_error ran with ⟨text, journal, answered⟩
    rw [answered]
    exact ⟨text, rfl⟩
  · exact settled.live.rowsOf_accounts.countP_carries rfl

theorem rowsOf_fresh (moment : Moment) :
    (fresh moment).backend.tables.rowsOf (.ofText "auth_users") =
        [newAccount (.int 1) (.text "admin@example.com") (.text "password123"),
          newAccount (.int 2) (.text "user@example.com") (.text "password123")] ∧
      (fresh moment).backend.tables.rowsOf (.ofText "users") =
        [newUser moment (.int 1) (.text "admin@example.com") (.text "Admin User"),
          newUser moment (.int 2) (.text "user@example.com") (.text "Regular User")] := by
  have users : (Key.ofText "users" == Key.ofText "users") = true := BEq.rfl
  have accounts : (Key.ofText "auth_users" == Key.ofText "auth_users") = true := BEq.rfl
  rw [Tables.rowsOf, Tables.rowsOf, (start?_fresh moment).2, defaultTables]
  simp only [Fields.get?_cons, users, accounts, accounts_ne_users, if_true, Bool.false_eq_true, if_false]
  exact ⟨rfl, rfl⟩

/-- Somebody signs up with a new adapter, signs out, and finds the account after a restart and after
somebody else has signed up. -/
theorem account_stays_newcomer :
    let signed := perform {} (.signUp (.text "new@example.com") (.text "secret")) (fresh {})
    let events : List Event := [.call {} .signOut, .restart {},
      .call {} (.signUp (.text "other@example.com") (.text "secret"))]
    let last := events.foldl (fun host event => (event.run host).2) signed.2
    ∃ data, signed.1 = .ok (.success data) ∧
      (perform {} (.signIn (.text "new@example.com") (.text "secret")) last).1 =
        .ok (.success data) ∧
      (perform {} (.signIn (.text "new@example.com") (.text "guess")) last).1 =
        .ok (.failure "Invalid email or password") ∧
      (last.backend.tables.rowsOf (.ofText "auth_users")).countP (carries "new@example.com") = 1 := by
  intro signed events last
  have succeeded : Succeeded signed.1 := by decide +kernel
  rcases succeeded with ⟨data, succeeded⟩
  have accounts : ∀ row ∈ (fresh {}).backend.tables.rowsOf (.ofText "auth_users"), IsPlain row := by
    intro row there
    simp only [(rowsOf_fresh {}).1, List.mem_cons, List.not_mem_nil, or_false] at there
    rcases there with rfl | rfl
    · exact ⟨rfl, Member.normalize_account ⟨"admin@example.com", .text "password123", 1, "", {}⟩⟩
    · exact ⟨rfl, Member.normalize_account ⟨"user@example.com", .text "password123", 2, "", {}⟩⟩
  have users : ∀ row ∈ (fresh {}).backend.tables.rowsOf (.ofText "users"),
      IsPlain row ∧ row.field "email" ≠ .ok (.text "new@example.com") := by
    have apart {s : String} (other : s ≠ "new@example.com") :
        (.ok (.text s) : Except Fault Value) ≠ .ok (.text "new@example.com") :=
      fun same => other (Value.text.inj (Except.ok.inj same))
    intro row there
    simp only [(rowsOf_fresh {}).2, List.mem_cons, List.not_mem_nil, or_false] at there
    rcases there with rfl | rfl
    · exact ⟨⟨rfl, Member.normalize_user ⟨"admin@example.com", .null, 1, "Admin User", {}⟩⟩,
        apart (by decide)⟩
    · exact ⟨⟨rfl, Member.normalize_user ⟨"user@example.com", .null, 2, "Regular User", {}⟩⟩,
        apart (by decide)⟩
  have stays := account_stays (reachable_fresh {}) accounts users (Prod.ext succeeded rfl) events
    (by simp [events, Event.SparesRows, Operation.SparesRows]) {}
  have guess : Value.text "guess" ≠ .text "secret" :=
    fun same => absurd (Value.text.inj same) (by decide)
  exact ⟨data, succeeded, stays.1, stays.2.2.1 _ guess, stays.2.2.2.2⟩

end Offline

end DataGateway
