import DataGateway.Proofs.Hosted.Meaning

/-!
# Answers of the client

A request takes the next reply of the client, whatever the calls were that have built it, and an operation
that answers with rows makes a list only of data that counts as false.

* `Client.next` — the reply that the client gives next, and `Reply.data`, the data in it;
* `AnswersRows` — a step that ends well has got the next reply and answers with its data.
-/

namespace DataGateway.Hosted

variable {α : Type}

/-- The reply that the client gives next. -/
def Client.next (client : Client) : Except Fault Reply :=
  client.answers.headD (.ok (.attributes [("data", .list [])]))

/-- The data of a reply; a reply of nothing has none. -/
def Reply.data : Reply → Value
  | .nothing => .null
  | .attributes fields => (Fields.get? fields "data").getD .null

/-! ## Steps before a request -/

/-- The step leaves the replies that are to come. -/
abbrev Waits (step : Work α) : Prop := FixesBackend (fun client : Client => client.answers) step

theorem waits_chain (call : Call) : Waits (chain call) := .modify fun _ => rfl

theorem waits_filter (spec : Spec) : Waits (filter spec) := by
  have filters : (Client.filter spec).Fixes fun client : Client => client.answers := by
    induction spec with
    | nil => exact .pure ()
    | cons entry spec ih => exact .bind (.ofExcept _) fun call => .bind (.modify fun _ => rfl) fun _ => ih
  exact Host.fixes_onBackend filters

theorem waits_selecting (table columns : Value) (spec : Spec) :
    Waits (selecting table columns spec) :=
  .bind (waits_chain _) fun _ => .bind (.ofExcept _) fun _ => .bind (waits_chain _) fun _ =>
    waits_filter spec

/-! ## Rows -/

/-- The step ends well only with the data of the next reply, or with an empty list for data that counts as
false. -/
def AnswersRows (step : Work Value) : Prop :=
  ∀ host data after, step host = (.ok data, after) → ∃ fields,
    host.backend.next = .ok (.attributes fields) ∧
      data = (Reply.attributes fields).data.orElse (.list [])

theorem answersRows_sendForRows : AnswersRows sendForRows := by
  intro host data after ran
  rcases Action.bind_ok ran with ⟨reply, middle, sent, ran⟩
  have next : host.backend.next = .ok reply := congrArg Prod.fst sent
  cases reply with
  | nothing => cases ran
  | attributes fields =>
      cases ran
      exact ⟨fields, next, rfl⟩

theorem AnswersRows.after {x : Work α} {f : α → Work Value} (waits : Waits x)
    (answers : ∀ a, AnswersRows (f a)) : AnswersRows (x >>= f) := by
  intro host data after ran
  rcases Action.bind_ok ran with ⟨a, middle, first, ran⟩
  have still : middle.backend.answers = host.backend.answers := waits.after first
  rcases answers a middle data after ran with ⟨fields, next, same⟩
  rw [Client.next, still] at next
  exact ⟨fields, next, same⟩

theorem AnswersRows.guard {c : Prop} [Decidable c] {fault : Fault} {step : Work Value}
    (answers : AnswersRows step) : AnswersRows (do
      if c then Action.fail fault
      step) := by
  split
  · exact .after (.fail fault) fun _ => answers
  · exact answers

section Operations

variable (table columns rows patch : Value) (filters : Filters)

theorem answersRows_select : AnswersRows (select table columns filters) :=
  .after (.ofExcept _) fun spec => .after (waits_selecting table columns spec) fun _ =>
    answersRows_sendForRows

theorem answersRows_insertMany : AnswersRows (insertMany table rows) :=
  .guard <| .after (waits_chain _) fun _ => .after (.ofExcept _) fun _ => .after (waits_chain _) fun _ =>
    answersRows_sendForRows

theorem answersRows_update : AnswersRows (update table filters patch) :=
  .after (.ofExcept _) fun spec => .after (waits_chain _) fun _ => .after (waits_chain _) fun _ =>
    .after (waits_filter spec) fun _ => answersRows_sendForRows

theorem answersRows_delete : AnswersRows (delete table filters) :=
  .after (.ofExcept _) fun spec => .after (waits_chain _) fun _ => .after (waits_chain _) fun _ =>
    .after (waits_filter spec) fun _ => answersRows_sendForRows

end Operations

end DataGateway.Hosted
