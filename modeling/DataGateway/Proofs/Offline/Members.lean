import DataGateway.Proofs.Offline.Failure
import DataGateway.Proofs.Offline.Saved
import DataGateway.Proofs.Offline.Selection

/-!
# Members

Who signs up becomes a member: a row among the accounts, with the password, and a row among the users.
Rows are looked up by the first match, and later members come behind, so a member is found as long as
nobody else has the address.

* `Sole email row rows` — of all rows only this one has the address, before and after saving;
* `Member.Enrolled` — the rows of a member are the only ones with the address in their tables;
* `Member.Enrolled.enrolIn`, `Member.Enrolled.saved` — later members and documents change nothing there;
* `signUp_cases` — what signing up does to the tables: a new member, or nothing.
-/

namespace DataGateway.Offline

variable {host after : Host Backend} {moment : Moment} {email : String} {row : Value} {rows : Table}

/-! ## Rows with an address -/

/-- Has a row the address? -/
def carries (email : String) (row : Value) : Bool :=
  (hasEmail (.text email) row).toOption.getD false

/-- A row has something else in the place of the address, and has it still when it comes out of a
document. -/
def Apart (email : String) (row : Value) : Prop :=
  ∃ v, v ≠ .text email ∧ row.field "email" = .ok v ∧ (Json.normalize row).field "email" = .ok v

theorem hasEmail_of_field {v : Value} (found : row.field "email" = .ok v) :
    hasEmail (.text email) row = .ok (v.looseEq (.text email)) := by
  rw [hasEmail, found]
  rfl

theorem hasEmail_own (own : row.field "email" = .ok (.text email)) :
    hasEmail (.text email) row = .ok true := by
  rw [hasEmail_of_field own, Value.looseEq_text, beq_self_eq_true]

theorem Apart.hasEmail (apart : Apart email row) : hasEmail (.text email) row = .ok false := by
  rcases apart with ⟨v, other, found, _⟩
  rw [hasEmail_of_field found, Bool.eq_false_iff.2 (Value.looseEq_text_iff.not.2 other)]

theorem Apart.normalize (apart : Apart email row) : Apart email (Json.normalize row) := by
  rcases apart with ⟨v, other, _, found⟩
  exact ⟨v, other, found, by rw [Json.normalize_normalize, found]⟩

/-- Is a row a record that comes out of a document as it is? -/
def IsPlain (row : Value) : Prop := row.isObject = true ∧ Json.normalize row = row

theorem IsPlain.apart (plain : IsPlain row) (other : row.field "email" ≠ .ok (.text email)) :
    Apart email row := by
  rcases plain with ⟨object, normal⟩
  cases row with
  | object fields =>
      refine ⟨(Fields.get? fields "email").getD .null, ?_, rfl, by rw [normal]; rfl⟩
      intro same
      exact other (congrArg Except.ok same)
  | _ => cases object

/-- Rows that do not pass are passed over. -/
theorem findRow?_append {test : Value → Except Fault Bool} {before rest : Table}
    (miss : ∀ row ∈ before, test row = .ok false) :
    findRow? test (before ++ rest) = findRow? test rest := by
  induction before with
  | nil => rfl
  | cons row before ih =>
      rcases List.forall_mem_cons.1 miss with ⟨first, later⟩
      rw [List.cons_append, findRow?, first]
      exact ih later

/-- Where nothing is found no row passes. -/
theorem findRow?_eq_none {test : Value → Except Fault Bool}
    (unmet : findRow? test rows = .ok none) : ∀ row ∈ rows, test row = .ok false := by
  induction rows with
  | nil => nofun
  | cons row rows ih =>
      rcases bind_eq_ok_iff.1 unmet with ⟨passed, tested, rest⟩
      cases passed with
      | true => cases rest
      | false => exact List.forall_mem_cons.2 ⟨tested, ih rest⟩

/-- Of all rows only this one has the address. -/
def Sole (email : String) (row : Value) (rows : Table) : Prop :=
  ∃ before behind, rows = before ++ row :: behind ∧ ∀ other ∈ before ++ behind, Apart email other

theorem sole_append_single (others : ∀ other ∈ rows, Apart email other) :
    Sole email row (rows ++ [row]) :=
  ⟨rows, [], rfl, by rwa [List.append_nil]⟩

namespace Sole

theorem mem (sole : Sole email row rows) : row ∈ rows := by
  rcases sole with ⟨before, behind, rfl, _⟩
  exact List.mem_append_right _ (List.mem_cons_self ..)

theorem append_single {new : Value} (sole : Sole email row rows) (apart : Apart email new) :
    Sole email row (rows ++ [new]) := by
  rcases sole with ⟨before, behind, rfl, others⟩
  refine ⟨before, behind ++ [new], by simp, fun other member => ?_⟩
  rw [← List.append_assoc, List.mem_append, List.mem_singleton] at member
  rcases member with member | rfl
  · exact others other member
  · exact apart

theorem map_normalize (sole : Sole email row rows) (normal : Json.normalize row = row) :
    Sole email row (rows.map Json.normalize) := by
  rcases sole with ⟨before, behind, rfl, others⟩
  refine ⟨before.map Json.normalize, behind.map Json.normalize, by simp [normal], ?_⟩
  rw [← List.map_append, List.forall_mem_map]
  exact fun other member => (others other member).normalize

/-- A test that no other row passes is passed by this one or by none. -/
theorem findRow? {test : Value → Except Fault Bool} {passed : Bool} (sole : Sole email row rows)
    (here : test row = .ok passed) (miss : ∀ other, Apart email other → test other = .ok false) :
    findRow? test rows = .ok (if passed then some row else none) := by
  rcases sole with ⟨before, behind, rfl, others⟩
  rcases List.forall_mem_append.1 others with ⟨first, later⟩
  rw [findRow?_append fun other member => miss other (first other member), Offline.findRow?, here]
  cases passed with
  | true => rfl
  | false =>
      rw [← List.append_nil behind, findRow?_append fun other member => miss other (later other member)]
      rfl

theorem countP_carries (sole : Sole email row rows) (own : row.field "email" = .ok (.text email)) :
    rows.countP (carries email) = 1 := by
  rcases sole with ⟨before, behind, rfl, others⟩
  rcases List.forall_mem_append.1 others with ⟨first, later⟩
  have none (rows : Table) (all : ∀ other ∈ rows, Apart email other) :
      rows.countP (carries email) = 0 := by
    refine List.countP_eq_zero.2 fun other member => ?_
    rw [carries, (all other member).hasEmail]
    nofun
  have here : carries email row = true := by
    rw [carries, hasEmail_own own]
    rfl
  rw [List.countP_append, List.countP_cons, none before first, none behind later, here]
  rfl

end Sole

/-! ## Members -/

/-- Who has signed up: what was asked for, what was given, and when. -/
structure Member where
  email : String
  password : Value
  id : Int
  name : String
  moment : Moment

namespace Member

variable {member newcomer : Member} {tables : Tables}

def account (member : Member) : Value := newAccount (.int member.id) (.text member.email) member.password

def user (member : Member) : Value :=
  newUser member.moment (.int member.id) (.text member.email) (.text member.name)

/-- The tables with a new member in both of them. -/
def enrolIn (member : Member) (tables : Tables) : Tables :=
  let accounts := tables.rowsOf (.ofText "auth_users") ++ [member.account]
  let users := tables.rowsOf (.ofText "users") ++ [member.user]
  Fields.set (Fields.set tables (.ofText "auth_users") accounts) (.ofText "users") users

/-- The member has an account and is a user, and nobody else has the address in either table. -/
structure Enrolled (member : Member) (tables : Tables) : Prop where
  accounts : ∃ rows, Fields.get? tables (.ofText "auth_users") = some rows ∧
    Sole member.email member.account rows
  users : ∃ rows, Fields.get? tables (.ofText "users") = some rows ∧
    Sole member.email member.user rows

theorem normalize_user (member : Member) : Json.normalize member.user = member.user := by
  have distinct : (Fields.names [("id", Value.int member.id), ("email", .text member.email),
      ("name", .text member.name), ("created_at", .text member.moment.stamp),
      ("updated_at", .text member.moment.stamp)]).Nodup := by simp [Fields.names]
  exact Json.normalize_object distinct

theorem normalize_account (member : Member) : Json.normalize member.account =
    newAccount (.int member.id) (.text member.email) (Json.normalize member.password) := by
  have distinct : (Fields.names [("id", Value.int member.id), ("email", .text member.email),
      ("password", member.password)]).Nodup := by simp [Fields.names]
  exact Json.normalize_object distinct

/-- The rows of a member with another address stand apart, whatever the password is. -/
theorem apart_account (other : newcomer.email ≠ member.email) :
    Apart member.email newcomer.account := by
  refine ⟨.text newcomer.email, fun same => other (Value.text.inj same), rfl, ?_⟩
  rw [normalize_account]
  rfl

theorem apart_user (other : newcomer.email ≠ member.email) : Apart member.email newcomer.user := by
  refine ⟨.text newcomer.email, fun same => other (Value.text.inj same), rfl, ?_⟩
  rw [normalize_user]
  rfl

/-! ### In the tables -/

theorem get?_enrolIn_accounts : Fields.get? (member.enrolIn tables) (.ofText "auth_users") =
    some (tables.rowsOf (.ofText "auth_users") ++ [member.account]) := by
  rw [enrolIn, Fields.get?_set_of_ne accounts_ne_users, Fields.get?_set_self]

theorem get?_enrolIn_users : Fields.get? (member.enrolIn tables) (.ofText "users") =
    some (tables.rowsOf (.ofText "users") ++ [member.user]) := by
  rw [enrolIn, Fields.get?_set_self]

/-- A member that is new to both tables is enrolled. -/
theorem enrolled_enrolIn
    (accounts : ∀ row ∈ tables.rowsOf (.ofText "auth_users"), Apart member.email row)
    (users : ∀ row ∈ tables.rowsOf (.ofText "users"), Apart member.email row) :
    member.Enrolled (member.enrolIn tables) where
  accounts := ⟨_, get?_enrolIn_accounts, sole_append_single accounts⟩
  users := ⟨_, get?_enrolIn_users, sole_append_single users⟩

namespace Enrolled

variable (enrolled : member.Enrolled tables)

include enrolled

theorem rowsOf_accounts : Sole member.email member.account (tables.rowsOf (.ofText "auth_users")) := by
  rcases enrolled.accounts with ⟨rows, found, sole⟩
  rwa [Tables.rowsOf, found]

theorem rowsOf_users : Sole member.email member.user (tables.rowsOf (.ofText "users")) := by
  rcases enrolled.users with ⟨rows, found, sole⟩
  rwa [Tables.rowsOf, found]

/-- Nobody is affected by new members with other addresses. -/
theorem enrolIn (other : newcomer.email ≠ member.email) :
    member.Enrolled (newcomer.enrolIn tables) where
  accounts := ⟨_, get?_enrolIn_accounts,
    enrolled.rowsOf_accounts.append_single (apart_account other)⟩
  users := ⟨_, get?_enrolIn_users, enrolled.rowsOf_users.append_single (apart_user other)⟩

/-- Nor by new tables. -/
theorem append (others : Tables) : member.Enrolled (tables ++ others) := by
  have still {name : Key} {rows : Table} (found : Fields.get? tables name = some rows) :
      Fields.get? (tables ++ others) name = some rows := by
    rw [Fields.get?, List.lookup_append, ← Fields.get?, found]
    rfl
  rcases enrolled with ⟨⟨accounts, there, first⟩, users, here, second⟩
  exact ⟨⟨accounts, still there, first⟩, users, still here, second⟩

/-- Nor by opening a table that is there. -/
theorem set_accounts :
    Fields.set tables (.ofText "auth_users") (tables.rowsOf (.ofText "auth_users")) = tables := by
  rcases enrolled.accounts with ⟨rows, found, _⟩
  rw [Tables.rowsOf, found]
  exact Fields.set_of_get?_eq_some found

end Enrolled

/-- Saving and reading again does nothing to a member whose password is its own normal form. -/
theorem Enrolled.saved {backend : Backend} {stored : Fields Table}
    (enrolled : member.Enrolled backend.tables)
    (same : Json.normalize member.password = member.password) (saved : backend.IsSaved)
    (holds : backend.Holds stored) (distinct : backend.tables.Distinct) :
    member.Enrolled (Tables.ofNamed stored) := by
  have account : Json.normalize member.account = member.account := by
    rw [normalize_account, same, Member.account]
  rcases enrolled with ⟨⟨accounts, there, first⟩, users, here, second⟩
  exact ⟨⟨_, get?_saved isWord_accounts saved holds distinct there, first.map_normalize account⟩,
    _, get?_saved isWord_users saved holds distinct here, second.map_normalize member.normalize_user⟩

end Member

/-! ## Signing up -/

theorem text_of_localPart {email name : Value} (known : localPart email = .ok name) :
    ∃ address part, email = .text address ∧ name = .text part := by
  cases email with
  | text address =>
      cases known
      exact ⟨address, _, rfl, rfl⟩
  | _ => cases known

theorem yields_register {id email password name : Value} {accounts : Table} :
    Action.Yields (newUser moment id email name) (register moment id email password name accounts) :=
  .bind fun _ => .bind fun _ => .bind fun _ => .bind fun _ => .bind fun _ => .bind fun _ =>
    .bind fun _ => .pure _

/-- Whatever signing up comes to, there are two cases. Either it fails before anybody is enrolled, and
there are accounts now if there were none; or the address stands the checks, and a member is enrolled in
both tables and handed out as a user, unless something fails after that. -/
theorem signUp_cases {email password : Value} {result : Except Fault Value}
    (ran : signUp moment email password host = (result, after)) :
    ((∃ fault, result = .error fault) ∧ (after.backend.tables = host.backend.tables ∨
        after.backend.tables = Fields.set host.backend.tables (.ofText "auth_users")
          (host.backend.tables.rowsOf (.ofText "auth_users")))) ∨
      ∃ member : Member, email = .text member.email ∧ member.password = password ∧
        requireNewEmail email (host.backend.tables.rowsOf (.ofText "auth_users")) = .ok () ∧
        after.backend.tables = member.enrolIn host.backend.tables ∧
        ∀ data, result = .ok data → data = member.user := by
  rw [signUp_eq] at ran
  rcases Action.bind_cases ran with ⟨fault, refused, rfl⟩ | ⟨_, middle, allowed, ran⟩
  · cases (Action.ofExcept_ran refused).2
    exact .inl ⟨⟨fault, rfl⟩, .inl rfl⟩
  cases (Action.ofExcept_ran allowed).2
  rcases ensureTable_ok named_accounts host with ⟨opened, first, created⟩
  rw [Action.bind_of_ok first] at ran
  rcases Action.bind_cases ran with ⟨fault, refused, rfl⟩ | ⟨_, middle, checked, ran⟩
  · cases (Action.ofExcept_ran refused).2
    exact .inl ⟨⟨fault, rfl⟩, .inr created⟩
  rcases Action.ofExcept_ran checked with ⟨unused, rfl⟩
  -- taking an id does nothing to the tables, whether the clock says one or not
  have fixed := Host.fixes_onBackend ((fixes_generateId moment).comp Prod.fst)
  rcases Action.bind_cases ran with ⟨fault, stopped, rfl⟩ | ⟨id, middle, taken, ran⟩
  · have same : after.backend.tables = opened.backend.tables := Action.Fixes.after (.map _ fixed) stopped
    exact .inl ⟨⟨fault, rfl⟩, .inr (same.trans created)⟩
  have same : middle.backend.tables = opened.backend.tables := Action.Fixes.after (.map _ fixed) taken
  rcases Action.bind_cases ran with ⟨fault, refused, rfl⟩ | ⟨name, next, split, ran⟩
  · cases (Action.ofExcept_ran refused).2
    exact .inl ⟨⟨fault, rfl⟩, .inr (same.trans created)⟩
  rcases Action.ofExcept_ran split with ⟨known, rfl⟩
  rw [Action.map_eq_bind] at taken
  rcases Action.bind_ok taken with ⟨number, _, _, ended⟩
  cases congrArg Prod.fst ended
  rcases text_of_localPart known with ⟨address, part, rfl, rfl⟩
  refine .inr ⟨⟨address, password, number, part, moment⟩, rfl, rfl, unused, ?_, ?_⟩
  · have left := (congrArg (·.2.backend.tables) ran).symm.trans register_tables
    rw [same, created, Fields.set_set, Fields.get?_set_of_ne users_ne_accounts] at left
    exact left
  · rintro data rfl
    exact yields_register _ _ _ ran

end DataGateway.Offline
