import DataGateway.Hosted.Adapter
import DataGateway.Proofs.Except
import DataGateway.Proofs.Gateway.Resolution
import DataGateway.Proofs.Offline.Sparing
import DataGateway.Relational.Adapter
import DataGateway.Rest.Adapter

/-!
# Which operations come to a response

* The offline and the relational adapter always do.
* The REST adapter does unless the server turns the session down and the store then fails to give the
  token up.
* The hosted adapter does unless an incident has a code that cannot be looked up.
-/

namespace DataGateway

variable {β : Type}

namespace Offline

theorem perform_resolved (moment : Moment) (operation : Operation) (host : Host Backend) :
    Resolved (perform moment operation host).1 := by
  refine (Profile.resolve_resolved_iff rfl _ _ host).2 ?_
  intro fault failed
  refine (Profile.settles_classified_iff rfl).2 ?_
  intro revokes
  rw [spares_body moment operation host fault failed] at revokes
  cases revokes

end Offline

namespace Relational

theorem Adapter.perform_resolved (adapter : Adapter β) (token : String) (operation : Operation)
    (host : Host β) : Resolved (adapter.perform token operation host).1 := by
  refine (Profile.resolve_resolved_iff rfl _ _ host).2 ?_
  intro fault _
  -- a session ends in the host alone
  exact (Profile.settles_classified_iff rfl).2 fun _ => rfl

end Relational

namespace Rest

theorem forget_ok_iff {backend : Backend} : (profile.forget backend).1 = .ok () ↔
    ∃ result, backend.store.remove tokenKey = .ok result := by
  cases removed : backend.store.remove tokenKey with
  | error fault =>
      have ran : profile.forget backend = (.error fault, backend) :=
        Action.ofExcept_bind_error removed _ backend
      simp [ran]
  | ok result =>
      have ran : profile.forget backend = (.ok (), { backend with store := result.2 }) :=
        Action.ofExcept_bind_ok removed _ backend
      simp [ran]

theorem Adapter.resolved_iff (adapter : Adapter) (operation : Operation) (host : Host Backend) :
    Resolved (adapter.perform operation host).1 ↔
      ∀ fault, (adapter.body operation host).1 = .error fault → fault.revokes = true →
        ∃ result, (adapter.body operation host).2.backend.store.remove tokenKey = .ok result := by
  refine (Profile.resolve_resolved_iff rfl _ _ host).trans ?_
  refine forall_congr' fun fault => imp_congr_right fun _ => ?_
  rw [Profile.settles_classified_iff rfl, forget_ok_iff]

end Rest

namespace Hosted

/-- All that can go wrong with telling whether access is denied is looking up the code. -/
theorem exists_deniesAccess_iff {code status : Value} :
    (∃ denied, deniesAccess code status = .ok denied) ↔ code.unhashablePart? = none := by
  unfold deniesAccess Key.ofValue
  split
  · rename_i part unhashable
    rw [unhashable]
    constructor
    · rintro ⟨denied, same⟩
      cases same
    · intro hashable
      cases hashable
  · rename_i hashable
    exact ⟨fun _ => hashable, fun _ => ⟨_, rfl⟩⟩

theorem exists_classify_iff {fault : Fault} : (∃ settled, classify fault = .ok settled) ↔
    ∀ incident, fault = .incident incident →
      (incident.code?.getD .null).unhashablePart? = none := by
  cases fault with
  | incident incident =>
      constructor
      · rintro ⟨settled, classified⟩ other same
        cases same
        rcases bind_eq_ok_iff.1 classified with ⟨denied, looked, _⟩
        exact exists_deniesAccess_iff.1 ⟨denied, looked⟩
      · intro hashable
        rcases exists_deniesAccess_iff.2 (hashable incident rfl) with ⟨denied, looked⟩
        rw [classify, looked]
        cases denied
        · exact ⟨_, rfl⟩
        · exact ⟨_, rfl⟩
  | _ =>
      constructor
      · intro _ incident same
        cases same
      · intro _
        exact ⟨_, rfl⟩

/-- A session ends in the host alone, so only the class of a fault counts. -/
theorem settles_iff {fault : Fault} {client : Client} : profile.Settles fault client ↔
    ∀ incident, fault = .incident incident →
      (incident.code?.getD .null).unhashablePart? = none :=
  (exists_congr fun _ => and_iff_left fun _ => rfl).trans exists_classify_iff

theorem Adapter.resolved_iff (adapter : Adapter) (operation : Operation) (host : Host Client) :
    Resolved (adapter.perform operation host).1 ↔
      ∀ incident, (adapter.body operation host).1 = .error (.incident incident) →
        (incident.code?.getD .null).unhashablePart? = none := by
  refine (Profile.resolve_resolved_iff rfl _ _ host).trans ?_
  constructor
  · intro settles incident failed
    exact settles_iff.1 (settles _ failed) incident rfl
  · intro hashable fault failed
    refine settles_iff.2 ?_
    intro incident same
    rw [same] at failed
    exact hashable incident failed

/-- A client that answers the next request with an incident whose code is a list. -/
def listCoded : Host Client where
  backend :=
    { answers := [.error (.incident
        { kind := .client, text := "permission denied", code? := some (.list [.text "42501"]) })] }

end Hosted

/-- When an operation comes to a response, for all adapters. -/
theorem perform_resolved_iff (operation : Operation) :
    (∀ moment (host : Host Offline.Backend), Resolved (Offline.perform moment operation host).1) ∧
    (∀ (β : Type) (adapter : Relational.Adapter β) token (host : Host β),
      Resolved (adapter.perform token operation host).1) ∧
    (∀ (adapter : Rest.Adapter) (host : Host Rest.Backend),
      Resolved (adapter.perform operation host).1 ↔
        ∀ fault, (adapter.body operation host).1 = .error fault → fault.revokes = true →
          ∃ result, (adapter.body operation host).2.backend.store.remove Rest.tokenKey = .ok result) ∧
    (∀ (adapter : Hosted.Adapter) (host : Host Hosted.Client),
      Resolved (adapter.perform operation host).1 ↔
        ∀ incident, (adapter.body operation host).1 = .error (.incident incident) →
          (incident.code?.getD .null).unhashablePart? = none) := by
  refine ⟨?offline, ?relational, ?rest, ?hosted⟩
  case offline => exact fun moment host => Offline.perform_resolved moment operation host
  case relational => exact fun β adapter token host => adapter.perform_resolved token operation host
  case rest => exact fun adapter host => adapter.resolved_iff operation host
  case hosted => exact fun adapter host => adapter.resolved_iff operation host

/-- A code that is a list keeps a count from coming to a response. -/
theorem count_unresolved : ¬Resolved (Hosted.Adapter.perform {}
    (.count (.text "users") (.other .null)) Hosted.listCoded).1 := by
  have escaped : (Hosted.Adapter.perform {} (.count (.text "users") (.other .null))
      Hosted.listCoded).1 = .error (.misuse (.unhashable "list")) := by rfl
  rw [escaped]
  exact not_resolved_error _

end DataGateway
