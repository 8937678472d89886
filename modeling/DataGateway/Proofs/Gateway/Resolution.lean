import DataGateway.Proofs.Fault.Sparing
import DataGateway.Proofs.Gateway.Host

/-!
# Coming to a response

The envelope guards the operation, but not its own reaction to a fault: telling its class, and ending
the session, can go wrong themselves.

* `Resolved` — an operation has come to a response that says something;
* `resolve_resolved_iff` — when it does, told from the fault that the operation ended with.
-/

namespace DataGateway

variable {β : Type}

/-- Has an operation ended with data, or with the text of an error? -/
def Resolved (outcome : Except Fault Response) : Prop :=
  (∃ data, outcome = .ok (.success data)) ∨ ∃ error, outcome = .ok (.failure error) ∧ error ≠ ""

theorem not_resolved_error (fault : Fault) : ¬Resolved (.error fault) := by
  rintro (⟨data, same⟩ | ⟨error, same, _⟩) <;> cases same

namespace Profile

variable {profile : Profile β}

/-- Does a fault have a class, and is the session forgotten if that class ends it? -/
def Settles (profile : Profile β) (fault : Fault) (backend : β) : Prop :=
  ∃ settled, profile.classify fault = .ok settled ∧
    (settled.revokes = true → (profile.forget backend).1 = .ok ())

theorem settle_resolved_iff (silent : profile.tracer = .silent) (operation : String)
    (fault : Fault) (host : Host β) :
    Resolved (profile.settle operation fault host).1 ↔ profile.Settles fault host.backend := by
  constructor
  · intro resolved
    cases classified : profile.classify fault with
    | error other =>
        rw [settle_unclassified operation host classified] at resolved
        exact absurd resolved (not_resolved_error other)
    | ok settled =>
        refine ⟨settled, classified, fun revokes => ?_⟩
        rcases forgotten : profile.forget host.backend with ⟨result, backend⟩
        cases result with
        | ok => rfl
        | error other =>
            rcases settle_unforgotten operation host silent classified revokes forgotten with
              ⟨journal, ran⟩
            rw [ran] at resolved
            exact absurd resolved (not_resolved_error other)
  · rintro ⟨settled, classified, forgets⟩
    cases revokes : settled.revokes with
    | false =>
        rcases settle_spared operation host silent classified revokes with
          ⟨error, journal, said, ran⟩
        exact .inr ⟨error, congrArg Prod.fst ran, said⟩
    | true =>
        have forgotten : profile.forget host.backend = (.ok (), (profile.forget host.backend).2) :=
          Prod.ext (forgets revokes) rfl
        rcases settle_revoked operation host silent classified revokes forgotten with
          ⟨error, journal, said, ran⟩
        exact .inr ⟨error, congrArg Prod.fst ran, said⟩

/-- All that can keep an operation from a response is what comes after its own fault. -/
theorem resolve_resolved_iff (silent : profile.tracer = .silent) (operation : String)
    (body : Action (Host β) Value) (host : Host β) :
    Resolved (profile.resolve operation body host).1 ↔
      ∀ fault, (body host).1 = .error fault → profile.Settles fault (body host).2.backend := by
  rw [resolve_apply silent]
  rcases body host with ⟨result, after⟩
  cases result with
  | ok data =>
      constructor
      · intro _ fault failed
        cases failed
      · intro _
        exact .inl ⟨data, rfl⟩
  | error fault =>
      dsimp only
      rw [settle_resolved_iff silent]
      constructor
      · intro settles other same
        cases same
        exact settles
      · intro settles
        exact settles fault rfl

/-- Without a classification of its own, an adapter only has to see to sessions that end. -/
theorem settles_classified_iff (plain : profile.classify = fun fault => .ok fault.classified)
    {fault : Fault} {backend : β} : profile.Settles fault backend ↔
      (fault.revokes = true → (profile.forget backend).1 = .ok ()) := by
  rw [Settles, plain]
  constructor
  · rintro ⟨settled, classified, forgets⟩ revokes
    cases classified
    exact forgets (fault.revokes_classified.trans revokes)
  · intro forgets
    refine ⟨fault.classified, rfl, ?_⟩
    rw [fault.revokes_classified]
    exact forgets

end Profile

end DataGateway
