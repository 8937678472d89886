import DataGateway.Proofs.Except
import DataGateway.Proofs.Gateway.Host

/-!
# What a response says

Under an envelope that nobody watches a response depends on two things: how the operation ended, and
whether the backend can forget the session, should the fault end it. The name of the operation and the
journal do not show in it.

* `Profile.responseTo` — the response to an outcome;
* `Profile.resolve_response` — the envelope answers with it;
* `Profile.responseTo_ok_iff` — data is answered exactly where the operation has found it.
-/

namespace DataGateway

/-- The text that is left of a fault. -/
def Fault.said (fault : Fault) : String :=
  if fault.message != "" then fault.message else Profile.unknownFailure

theorem Fault.said_of_message_ne {fault : Fault} (given : fault.message ≠ "") :
    fault.said = fault.message := if_pos (bne_iff_ne.2 given)

/-- What is answered to a classified fault, given how the backend would forget the session. -/
def Fault.answer (fault : Fault) (forgotten : Except Fault Unit) : Except Fault Response :=
  match fault.revokes, forgotten with
  | true, .error other => .error other
  | _, _ => .ok (.failure fault.said)

theorem Fault.answer_spared {fault : Fault} (spared : fault.revokes = false)
    (forgotten : Except Fault Unit) : fault.answer forgotten = .ok (.failure fault.said) := by
  unfold answer
  rw [spared]

theorem Fault.answer_ne_success (fault : Fault) (forgotten : Except Fault Unit) (data : Value) :
    fault.answer forgotten ≠ .ok (.success data) := by
  unfold answer
  split <;> nofun

namespace Profile

variable {β : Type} {profile : Profile β}

/-- What is answered to an outcome, given how the backend would forget the session. -/
def responseTo (profile : Profile β) (forgotten : Except Fault Unit) :
    Except Fault Value → Except Fault Response
  | .ok data => .ok (.success data)
  | .error fault => profile.classify fault >>= fun settled => settled.answer forgotten

/-! ## The envelope -/

theorem settle_response (silent : profile.tracer = .silent) (operation : String) (fault : Fault)
    (host : Host β) : (profile.settle operation fault host).1 =
      profile.responseTo (profile.forget host.backend).1 (.error fault) := by
  cases classified : profile.classify fault with
  | error other =>
      rw [settle_unclassified operation host classified, responseTo, classified]
      rfl
  | ok settled =>
      -- the journal gets a line, and then there may be a session to end
      have noted : ∃ journal, profile.settle operation fault host = (do
          if settled.revokes then profile.endSession
          return Response.failure settled.said : Action (Host β) Response) { host with journal } := by
        unfold settle
        rw [Action.ofExcept_bind_ok classified, silent]
        cases settled.isRefusal <;> exact ⟨_, rfl⟩
      have answered : profile.responseTo (profile.forget host.backend).1 (.error fault) =
          settled.answer (profile.forget host.backend).1 := by
        rw [responseTo, classified]
        rfl
      rcases noted with ⟨journal, ran⟩
      rw [ran, answered]
      unfold Fault.answer
      cases settled.revokes with
      | false => rfl
      | true =>
          rcases endSession_apply profile { host with journal } with ⟨noted, ended⟩
          cases forgotten : (profile.forget host.backend).1 with
          | error other =>
              rw [forgotten] at ended
              exact congrArg Prod.fst (Action.bind_of_error ended)
          | ok =>
              rw [forgotten] at ended
              exact congrArg Prod.fst (Action.bind_of_ok ended)

/-- What an operation resolves to is the response to its outcome. -/
theorem resolve_response (silent : profile.tracer = .silent) (operation : String)
    (body : Action (Host β) Value) (host : Host β) :
    (profile.resolve operation body host).1 =
      profile.responseTo (profile.forget (body host).2.backend).1 (body host).1 := by
  rw [resolve_apply silent]
  rcases body host with ⟨outcome, after⟩
  cases outcome with
  | ok data => rfl
  | error fault => exact settle_response silent operation fault after

/-! ## Responses to outcomes -/

section Outcome

variable {forgotten : Except Fault Unit}

/-- Data is answered exactly where the operation has found it. -/
theorem responseTo_ok_iff {outcome : Except Fault Value} {data : Value} :
    profile.responseTo forgotten outcome = .ok (.success data) ↔ outcome = .ok data := by
  cases outcome with
  | ok found => simp [responseTo]
  | error fault =>
      refine iff_of_false (fun same => ?_) nofun
      rcases bind_eq_ok_iff.1 same with ⟨settled, -, answered⟩
      exact settled.answer_ne_success forgotten data answered

/-- A fault that spares the session is answered with its text. -/
theorem responseTo_spared {fault settled : Fault} (classified : profile.classify fault = .ok settled)
    (spared : settled.revokes = false) :
    profile.responseTo forgotten (.error fault) = .ok (.failure settled.said) := by
  rw [responseTo, classified]
  exact settled.answer_spared spared forgotten

end Outcome

end Profile

end DataGateway
