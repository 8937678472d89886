import DataGateway.Offline.Adapter

/-!
# Runs of the offline adapter

Everything that can be done to an offline adapter on a store in memory, and the states that come of
it when nobody else writes to the store.

* `Event` — an operation, a restart on the same store, or work on the database as a whole;
* `Reachable` — the states after any number of events, from a store without a snapshot on.
-/

namespace DataGateway

/-- Does an operation write the snapshot when it succeeds? -/
def Operation.Mutates : Operation → Prop
  | .insert .. | .insertMany .. | .update .. | .delete .. | .upsert .. | .signUp .. => True
  | .rpc name _ => name = .text "update_user_profile"
  | _ => False

/-- Is an operation a change of the profile? -/
def Operation.ChangesProfile : Operation → Prop
  | .rpc name _ => name = .text "update_user_profile"
  | _ => False

namespace Offline

/-- What can be done to an adapter. -/
inductive Event
  | call (moment : Moment) (operation : Operation)
  | restart (moment : Moment)
  | clear (moment : Moment)
  | exportText
  | importText (document : Value)

namespace Event

/-- Runs an event. A restart leaves nothing of the adapter but its store. -/
def run : Event → Host Backend → Except Fault Response × Host Backend
  | call moment operation, host => perform moment operation host
  | restart moment, host =>
    match Backend.start? moment host.backend.store with
    | .ok backend => (.ok (.success .null), { backend })
    | .error fault => (.error fault, host)
  | clear moment, host => (do Offline.clear moment; return .success .null : Work Response) host
  | exportText, host => ((.success <| .text ·) <$> Offline.exportText host.backend, host)
  | importText document, host =>
    (do Offline.importText document; return .success .null : Work Response) host

/-- Does an event write the snapshot when it succeeds? -/
def Mutates : Event → Prop
  | call _ operation => operation.Mutates
  | clear _ | importText _ => True
  | restart _ | exportText => False

end Event

/-- Did an event end with success? -/
def Succeeded (outcome : Except Fault Response) : Prop := ∃ data, outcome = .ok (.success data)

instance (outcome : Except Fault Response) : Decidable (Succeeded outcome) :=
  match outcome with
  | .ok (.success data) => isTrue ⟨data, rfl⟩
  | .ok (.failure _) | .error _ => isFalse nofun

/-- Did an event end with a failure? -/
def Failed (outcome : Except Fault Response) : Prop := ∃ text, outcome = .ok (.failure text)

instance (outcome : Except Fault Response) : Decidable (Failed outcome) :=
  match outcome with
  | .ok (.failure text) => isTrue ⟨text, rfl⟩
  | .ok (.success _) | .error _ => isFalse nofun

/-- A new adapter on an empty store. -/
def fresh (moment : Moment) : Host Backend where
  backend := (Backend.start? moment .empty).toOption.getD { store := .empty }

/-- The states of an adapter whose store nobody else writes to. -/
inductive Reachable : Host Backend → Prop where
  | start {moment : Moment} {entries : Store.Memory} {backend : Backend} :
      Fields.get? entries snapshotKey = none →
      Backend.start? moment (.memory entries) = .ok backend → Reachable { backend }
  | step {host : Host Backend} (event : Event) : Reachable host → Reachable (event.run host).2

end Offline

end DataGateway
