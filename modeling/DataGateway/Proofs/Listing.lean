import DataGateway.Proofs.Hosted.Answer
import DataGateway.Proofs.Rest.Answer

/-!
# Answers that are lists

Four operations answer with rows. What the REST adapter and the hosted one answer comes from outside; they
make an empty list of an answer that counts as false, and hand out any other answer as it came.

* `Operation.answersRows` — the operations that answer with rows;
* `data_isList_iff` — their data is a list exactly where the answer is a list or counts as false.
-/

namespace DataGateway

/-- Does an operation answer with rows? -/
def Operation.answersRows : Operation → Bool
  | .select .. | .insertMany .. | .update .. | .delete .. => true
  | _ => false

/-- Only a value that counts as true can be handed out as something other than a list. -/
theorem isList_orElse (v : Value) :
    (v.orElse (.list [])).isList = true ↔ v.isList = true ∨ v.truthy = false := by
  unfold Value.orElse
  cases truthy : v.truthy with
  | false => exact iff_of_true rfl (.inr rfl)
  | true => simp

/-! ## A server -/

namespace Rest.Adapter

variable (adapter : Adapter) {operation : Operation} {host after : Host Backend} {data : Value}

theorem body_answersRows (lists : operation.answersRows = true) :
    ∃ call, adapter.body operation = adapter.rows call := by
  cases operation with
  | select table columns filters => exact ⟨_, rfl⟩
  | insertMany table rows => exact ⟨_, rfl⟩
  | update table filters patch => exact ⟨_, rfl⟩
  | delete table filters => exact ⟨_, rfl⟩
  | _ => cases lists

theorem perform_rows (lists : operation.answersRows = true)
    (ran : adapter.perform operation host = (.ok (.success data), after)) :
    ∃ reply v, host.backend.server.next = .ok reply ∧ reply.Says v ∧ data = v.orElse (.list []) := by
  rcases adapter.body_answersRows lists with ⟨call, rows⟩
  have found := Profile.resolve_success rfl ran
  rw [rows] at found
  rcases Action.bind_ok found with ⟨v, middle, called, made⟩
  rcases adapter.callFor_ok called with ⟨reply, next, told⟩
  cases made
  exact ⟨reply, v, next, told, rfl⟩

end Rest.Adapter

/-! ## A client -/

namespace Hosted.Adapter

variable (adapter : Adapter) {operation : Operation} {host after : Host Client} {data : Value}

theorem body_answersRows (lists : operation.answersRows = true) :
    AnswersRows (adapter.body operation) := by
  cases operation with
  | select table columns filters => exact answersRows_select table columns filters
  | insertMany table rows => exact answersRows_insertMany table rows
  | update table filters patch => exact answersRows_update table patch filters
  | delete table filters => exact answersRows_delete table filters
  | _ => cases lists

theorem perform_rows (lists : operation.answersRows = true)
    (ran : adapter.perform operation host = (.ok (.success data), after)) :
    ∃ fields, host.backend.next = .ok (.attributes fields) ∧
      data = (Reply.attributes fields).data.orElse (.list []) :=
  adapter.body_answersRows lists host data after (Profile.resolve_success rfl ran)

end Hosted.Adapter

/-! ## Both -/

/-- An operation for rows that succeeds answers with what the reply says, or with an empty list if that
counts as false; so its data is a list exactly where the reply says a list or something that counts as
false. -/
theorem data_isList_iff {operation : Operation} (lists : operation.answersRows = true) {data : Value} :
    (∀ (adapter : Rest.Adapter) (host after : Host Rest.Backend),
      adapter.perform operation host = (.ok (.success data), after) → ∃ reply v,
        host.backend.server.next = .ok reply ∧ reply.Says v ∧ data = v.orElse (.list []) ∧
        (data.isList = true ↔ v.isList = true ∨ v.truthy = false)) ∧
    (∀ (adapter : Hosted.Adapter) (host after : Host Hosted.Client),
      adapter.perform operation host = (.ok (.success data), after) → ∃ fields v,
        host.backend.next = .ok (.attributes fields) ∧ v = (Hosted.Reply.attributes fields).data ∧
        data = v.orElse (.list []) ∧
        (data.isList = true ↔ v.isList = true ∨ v.truthy = false)) := by
  constructor
  · intro adapter host after ran
    rcases adapter.perform_rows lists ran with ⟨reply, v, next, told, rfl⟩
    exact ⟨reply, v, next, told, rfl, isList_orElse v⟩
  · intro adapter host after ran
    rcases adapter.perform_rows lists ran with ⟨fields, next, rfl⟩
    exact ⟨fields, _, next, rfl, rfl, isList_orElse _⟩

/-- The request for a batch of one row. -/
def batchOfOne : Operation :=
  .insertMany (.text "users") (.list [.object [("id", .int 1)]])

theorem Rest.perform_batchOfOne {v : Value} (readable : Json.Representable v) :
    ((⟨⟨"http://localhost"⟩, .null⟩ : Rest.Adapter).perform batchOfOne (Rest.answering v)).1 =
      .ok (.success ((Json.normalize v).orElse (.list []))) :=
  Rest.Adapter.response_rows _ (Rest.read_answering v) _ rfl (Rest.Reply.says_ofValue readable) _

/-- What was written comes back as a list from a server and from a client. -/
theorem data_isList_iff_batch :
    let rows : Value := .list [.object [("id", .int 1)]]
    let adapter : Rest.Adapter := ⟨⟨"http://localhost"⟩, .null⟩
    let client : Host Hosted.Client := { backend := { answers := [.ok (.attributes [("data", rows)])] } }
    batchOfOne.answersRows = true ∧
    (∃ after, adapter.perform batchOfOne (Rest.answering rows) = (.ok (.success rows), after)) ∧
    (∃ after, Hosted.Adapter.perform {} batchOfOne client = (.ok (.success rows), after)) ∧
    (∃ reply v, (Rest.answering rows).backend.server.next = .ok reply ∧ reply.Says v ∧
      rows = v.orElse (.list []) ∧ (rows.isList = true ↔ v.isList = true ∨ v.truthy = false)) ∧
    (∃ fields v, client.backend.next = .ok (.attributes fields) ∧
      v = (Hosted.Reply.attributes fields).data ∧
      rows = v.orElse (.list []) ∧ (rows.isList = true ↔ v.isList = true ∨ v.truthy = false)) := by
  intro rows adapter client
  have said : (adapter.perform batchOfOne (Rest.answering rows)).1 = .ok (.success rows) :=
    Rest.perform_batchOfOne (by decide +kernel)
  have ran : adapter.perform batchOfOne (Rest.answering rows) = (.ok (.success rows), _) :=
    Prod.ext said rfl
  have sent : Hosted.Adapter.perform {} batchOfOne client = (.ok (.success rows), _) := rfl
  rcases data_isList_iff (rfl : batchOfOne.answersRows = true) with ⟨rest, hosted⟩
  exact ⟨rfl, ⟨_, ran⟩, ⟨_, sent⟩, rest adapter _ _ ran, hosted {} _ _ sent⟩

/-- A server that answers with the one record that was written makes a record of the answer. -/
theorem data_record :
    let adapter : Rest.Adapter := ⟨⟨"http://localhost"⟩, .null⟩
    let record : Value := .object [("id", .int 1)]
    (adapter.perform batchOfOne (Rest.answering record)).1 = .ok (.success record) ∧
      record.isList = false := by
  intro adapter record
  exact ⟨Rest.perform_batchOfOne (by decide +kernel), rfl⟩

end DataGateway
