import DataGateway.Proofs.Gateway.Host
import DataGateway.Proofs.Sql.Alteration
import DataGateway.Relational.Adapter

/-!
# Changes that say which rows they mean

A change or a deletion reaches the database only with a condition, and a change only with columns to set.
Then the database gets one statement, and its text with its arguments says what was asked for. In all
other cases the database gets nothing.

* `Adapter.recorded` — an adapter whose executor writes down what is handed to it;
* `Unreached`, `Reached` — nothing was handed over, or just one command;
* `Adapter.perform_guarded` — what comes of a change and of a deletion.
-/

namespace DataGateway

/-- Filters that count as false are read as no conditions. -/
theorem Filters.parse_of_not_truthy {value : Value} (falsy : value.truthy = false) :
    (Filters.other value).parse = .ok [] := by
  cases value with
  | object fields =>
      cases fields with
      | nil => rfl
      | cons field fields => cases falsy
  | _ => simp [parse, falsy]

namespace Relational

variable {β : Type}

/-! ## Commands that were handed over -/

/-- A backend with the commands that were handed to it. -/
structure Recorded (β : Type) where
  commands : List Command := []
  backend : β

/-- The adapter with an executor that writes every command down before it is carried out. -/
def Adapter.recorded (adapter : Adapter β) : Adapter (Recorded β) where
  execute command := fun talk =>
    let (result, backend) := adapter.execute command talk.backend
    (result, { commands := talk.commands ++ [command], backend })
  accounts := adapter.accounts
  builder := adapter.builder

/-- A failure was answered and nothing was handed over. -/
def Unreached (host : Host (Recorded β)) (ran : Except Fault Response × Host (Recorded β)) : Prop :=
  (∃ text, ran.1 = .ok (.failure text)) ∧ ran.2.backend = host.backend

/-- One command was handed over, and it was this one. -/
def Reached (command : Command) (host : Host (Recorded β))
    (ran : Except Fault Response × Host (Recorded β)) : Prop :=
  ran.2.backend.commands = host.backend.commands ++ [command]

namespace Adapter

section Rows

variable (adapter : Adapter β) (operation : String) (host : Host (Recorded β))

/-- Without a statement nothing is handed over. -/
theorem unreached_of_error {prepared : Except Fault Sql.Prepared} {fault : Fault}
    (failed : prepared = .error fault) :
    Unreached host (profile.resolve operation (adapter.recorded.rows prepared) host) := by
  have stopped : adapter.recorded.rows prepared host = (.error fault, host) :=
    Action.bind_of_error (Action.ofExcept_bind_error failed _ host)
  rw [Profile.resolve_apply rfl, stopped]
  cases revokes : fault.classified.revokes with
  | false =>
      rcases (Profile.settle_spared operation host rfl rfl revokes : ∃ error journal, error ≠ "" ∧
        profile.settle operation fault host = _) with ⟨error, journal, _, settled⟩
      simp only [settled]
      exact ⟨⟨error, rfl⟩, rfl⟩
  | true =>
      rcases (Profile.settle_revoked operation host rfl rfl revokes rfl : ∃ error journal, error ≠ "" ∧
        profile.settle operation fault host = _) with ⟨error, journal, _, settled⟩
      simp only [settled]
      exact ⟨⟨error, rfl⟩, rfl⟩

/-- A statement is handed over once, whatever comes of it. -/
theorem reached_of_ok {prepared : Except Fault Sql.Prepared} {statement : Sql.Prepared}
    (built : prepared = .ok statement) : Reached (.ofPrepared statement) host
      (profile.resolve operation (adapter.recorded.rows prepared) host) := by
  have handed : (adapter.recorded.rows prepared host).2.backend.commands =
      host.backend.commands ++ [.ofPrepared statement] := by
    rw [rows, Action.bind_idle (fun _ _ => rfl), run, Action.ofExcept_bind_ok built]
    rfl
  rw [Profile.resolve_apply rfl]
  rcases ran : adapter.recorded.rows prepared host with ⟨result, after⟩
  rw [ran] at handed
  -- a fault of the executor is settled without another word to the backend
  cases result with
  | ok data => exact handed
  | error fault =>
      have kept : FixesBackend (fun talk : Recorded β => talk.commands)
          (profile.settle operation fault) :=
        Profile.fixes_settle rfl (.pure ()) operation fault
      exact (kept after).trans handed

end Rows

/-! ## Changes and deletions -/

/-- What a command says when it changes rows: the columns of a patch and the conditions of filters, of
which there are both. -/
def SaysChange (table : Value) (filters : Filters) (patch : Value) (command : Command) : Prop :=
  ∃ spec fields alteration, filters.parse = .ok spec ∧ spec ≠ [] ∧
    patch = .object fields ∧ fields ≠ [] ∧
    Sql.readUpdate? command.text = some alteration ∧ alteration.table.value = table ∧
      alteration.Says fields spec command.arguments

/-- What a command says when it deletes rows: the conditions of filters, of which there are some. -/
def SaysDeletion (table : Value) (filters : Filters) (command : Command) : Prop :=
  ∃ spec removal, filters.parse = .ok spec ∧ spec ≠ [] ∧
    Sql.readDelete? command.text = some removal ∧ removal.table.value = table ∧
      removal.Says spec command.arguments

section Guarded

variable (adapter : Adapter β) (token : String) (table : Value) (filters : Filters) (patch : Value)
  (host : Host (Recorded β))

theorem perform_update :
    Unreached host (adapter.recorded.perform token (.update table filters patch) host) ∨
      ∃ command,
        Reached command host (adapter.recorded.perform token (.update table filters patch) host) ∧
        SaysChange table filters patch command := by
  cases built : (do Sql.Builder.update table (← filters.parse) patch : Except Fault Sql.Prepared) with
  | error fault => exact .inl (adapter.unreached_of_error "update" host built)
  | ok prepared =>
      rcases bind_eq_ok_iff.1 built with ⟨spec, parsed, stated⟩
      rcases Sql.Builder.update_faithful stated with
        ⟨fields, alteration, given, filled, some, read, named, meant⟩
      exact .inr ⟨_, adapter.reached_of_ok "update" host built,
        spec, fields, alteration, parsed, some, given, filled, read, named, meant⟩

theorem perform_delete :
    Unreached host (adapter.recorded.perform token (.delete table filters) host) ∨
      ∃ command,
        Reached command host (adapter.recorded.perform token (.delete table filters) host) ∧
        SaysDeletion table filters command := by
  cases built : (do Sql.Builder.delete table (← filters.parse) : Except Fault Sql.Prepared) with
  | error fault => exact .inl (adapter.unreached_of_error "delete" host built)
  | ok prepared =>
      rcases bind_eq_ok_iff.1 built with ⟨spec, parsed, stated⟩
      rcases Sql.Builder.delete_faithful stated with ⟨removal, some, read, named, meant⟩
      exact .inr ⟨_, adapter.reached_of_ok "delete" host built,
        spec, removal, parsed, some, read, named, meant⟩

/-- A change and a deletion either answer a failure and hand nothing over, or hand over one command that
says what was asked for, with a condition at least. Filters without a condition, which is how all that
counts as false is read, hand nothing over, and neither does a change that sets no column. -/
theorem perform_guarded :
    (Unreached host (adapter.recorded.perform token (.update table filters patch) host) ∨
      ∃ command,
        Reached command host (adapter.recorded.perform token (.update table filters patch) host) ∧
        SaysChange table filters patch command) ∧
    (Unreached host (adapter.recorded.perform token (.delete table filters) host) ∨
      ∃ command,
        Reached command host (adapter.recorded.perform token (.delete table filters) host) ∧
        SaysDeletion table filters command) ∧
    (filters = .columns [] ∨ (∃ value, filters = .other value ∧ value.truthy = false) →
      filters.parse = .ok []) ∧
    (filters.parse = .ok [] →
      Unreached host (adapter.recorded.perform token (.update table filters patch) host) ∧
        Unreached host (adapter.recorded.perform token (.delete table filters) host)) ∧
    (patch.truthy = false →
      Unreached host (adapter.recorded.perform token (.update table filters patch) host)) := by
  have change := adapter.perform_update token table filters patch host
  have deletion := adapter.perform_delete token table filters host
  refine ⟨change, deletion, ?_, ?_, ?_⟩
  · rintro (rfl | ⟨value, rfl, falsy⟩)
    · rfl
    · exact Filters.parse_of_not_truthy falsy
  · intro none
    constructor
    · refine change.resolve_right ?_
      rintro ⟨command, _, spec, _, _, parsed, some, _⟩
      exact some (Except.ok.inj (parsed.symm.trans none))
    · refine deletion.resolve_right ?_
      rintro ⟨command, _, spec, _, parsed, some, _⟩
      exact some (Except.ok.inj (parsed.symm.trans none))
  · intro falsy
    refine change.resolve_right ?_
    rintro ⟨command, _, _, fields, _, _, _, rfl, filled, _⟩
    cases fields with
    | nil => exact filled rfl
    | cons field fields => cases falsy

end Guarded

example :
    let adapter : Adapter Database := ⟨Database.execute, ⟨"users", by decide⟩, ⟨⟨"id", by decide⟩⟩⟩
    let change : Operation := .update (.text "users")
      (.other (.object [("id", .int 7), ("left", .null)])) (.object [("name", .text "Bob")])
    (adapter.recorded.perform "t" change { backend := { backend := {} } }).2.backend.commands.map
      Command.text = ["UPDATE users SET name = $1 WHERE id = $2 AND left IS NULL RETURNING *"] := by
  decide +kernel

end Adapter

end Relational

end DataGateway
