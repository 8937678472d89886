import DataGateway.Gateway.Host
import DataGateway.Proofs.Gateway.Action

/-!
# The envelope

What the envelope around an operation does to the host, and how the outcome of the operation shows in
the response.

* `FixesBackend` — a step leaves a view of the backend as it was;
* `settle_spared`, `settle_revoked` — what becomes of the session after a fault, and the cases in which
  a fault cannot be settled;
* `resolve_success`, `resolve_failure` — a response comes from an outcome of the operation.
-/

namespace DataGateway

variable {β γ α : Type}

/-! ## Steps on the backend -/

/-- Whatever the step does, the view of the backend stays as it was. -/
def FixesBackend (view : β → γ) (step : Action (Host β) α) : Prop :=
  Action.Fixes (fun host => view host.backend) step

namespace Host

theorem onBackend_apply (step : Action β α) (host : Host β) :
    onBackend step host = ((step host.backend).1, { host with backend := (step host.backend).2 }) :=
  rfl

variable {view : β → γ}

theorem fixes_onBackend {step : Action β α} (h : step.Fixes view) :
    FixesBackend view (onBackend step) := fun host => h host.backend

theorem fixes_note (level : Level) (text : String) :
    FixesBackend view (note level text : Action (Host β) Unit) := .modify fun _ => rfl

theorem requireSession_absent {host : Host β} (absent : host.session = none) :
    requireSession host = (.error (.denied .noSession false), host) := by
  rw [requireSession, Action.bind_get, absent]
  rfl

theorem requireSession_present {host : Host β} {session : Session}
    (present : host.session = some session) : requireSession host = (.ok session, host) := by
  rw [requireSession, Action.bind_get, present]
  rfl

theorem fixes_requireSession : FixesBackend view (requireSession : Action (Host β) Session) := by
  refine .bind .get fun host => ?_
  cases host.session with
  | none => exact .fail _
  | some session => exact .pure session

theorem fixes_hasSession : FixesBackend view (hasSession : Action (Host β) Bool) :=
  .bind .get fun _ => .pure _

theorem fixes_setPrincipal (session : Session) (principal : Value) :
    FixesBackend view (setPrincipal session principal : Action (Host β) Unit) := .modify fun _ => rfl

end Host

/-- A fault ends the session whether it has been classified or not. -/
theorem Fault.revokes_classified (fault : Fault) : fault.classified.revokes = fault.revokes := by
  cases fault <;> rfl

/-! ## Envelopes -/

namespace Profile

variable {view : β → γ} {profile : Profile β}

theorem fixes_startSession (token principal : Value) :
    FixesBackend view (profile.startSession token principal) :=
  .bind (.modify fun _ => rfl) fun _ => Host.fixes_note _ _

theorem startSession_ok (profile : Profile β) (token principal : Value) (host : Host β) :
    ∃ after, profile.startSession token principal host = (.ok (), after) ∧
      after.session = some ⟨token, principal⟩ ∧ after.backend = host.backend :=
  ⟨_, rfl, rfl, rfl⟩

theorem fixes_endSession (forgets : profile.forget.Fixes view) :
    FixesBackend view profile.endSession := by
  have ending : FixesBackend view (do
      modify fun (host : Host β) => { host with session := none }
      Host.onBackend profile.forget) :=
    .bind (.modify fun _ => rfl) fun _ => Host.fixes_onBackend forgets
  refine .bind Host.fixes_hasSession fun present => ?_
  cases present with
  | false => exact ending
  | true => exact .bind (Host.fixes_note _ _) fun _ => ending

theorem fixes_settle (silent : profile.tracer = .silent) (forgets : profile.forget.Fixes view)
    (operation : String) (fault : Fault) : FixesBackend view (profile.settle operation fault) := by
  refine .bind (.ofExcept _) fun fault => ?_
  have ending : FixesBackend view (do
      if fault.revokes then profile.endSession
      return Response.failure (if fault.message != "" then fault.message else unknownFailure)) := by
    cases fault.revokes with
    | false => exact .pure _
    | true => exact .bind (fixes_endSession forgets) fun _ => .pure _
  cases fault.isRefusal with
  | true => exact .bind (Host.fixes_note _ _) fun _ => ending
  | false =>
      refine .bind (Host.fixes_note _ _) fun _ => .bind ?_ fun _ => ending
      rw [silent]
      exact Host.fixes_onBackend (.pure ())

/-- A fault is never settled into a success. -/
theorem settle_ok {operation : String} {fault : Fault} {host after : Host β} {response : Response}
    (h : profile.settle operation fault host = (.ok response, after)) :
    ∃ text, response = .failure text := by
  rcases Action.bind_ok h with ⟨settled, _, _, h⟩
  have ending {host : Host β} (h : (do
      if settled.revokes then profile.endSession
      return Response.failure (if settled.message != "" then settled.message else unknownFailure) :
        Action (Host β) Response) host = (.ok response, after)) :
      ∃ text, response = .failure text := by
    cases revokes : settled.revokes with
    | false =>
        rw [revokes] at h
        cases h
        exact ⟨_, rfl⟩
    | true =>
        rw [revokes] at h
        rcases Action.bind_ok h with ⟨_, _, _, h⟩
        cases h
        exact ⟨_, rfl⟩
  cases refused : settled.isRefusal with
  | true =>
      simp only [refused] at h
      rcases Action.bind_ok h with ⟨_, _, _, h⟩
      exact ending h
  | false =>
      simp only [refused] at h
      rcases Action.bind_ok h with ⟨_, _, _, h⟩
      rcases Action.bind_ok h with ⟨_, _, _, h⟩
      exact ending h

/-! ## Settling -/

/-- Whatever the backend does about it, there is no session afterwards. -/
theorem endSession_apply (profile : Profile β) (host : Host β) :
    ∃ journal, profile.endSession host = ((profile.forget host.backend).1,
      { session := none, journal, backend := (profile.forget host.backend).2 }) := by
  rcases host with ⟨session, journal, backend⟩
  cases session with
  | none => exact ⟨journal, rfl⟩
  | some session => exact ⟨_, rfl⟩

/-- A classified fault goes to the journal, ends the session if it says so, and leaves a text. -/
theorem settle_classified (silent : profile.tracer = .silent) (operation : String)
    {fault settled : Fault} (classified : profile.classify fault = .ok settled) (host : Host β) :
    ∃ error journal, error ≠ "" ∧ profile.settle operation fault host =
      (do
        if settled.revokes then profile.endSession
        return Response.failure error : Action (Host β) Response) { host with journal } := by
  have said : (if settled.message != "" then settled.message else unknownFailure) ≠ "" := by
    split
    · rename_i given
      exact bne_iff_ne.1 given
    · decide
  refine ⟨_, host.journal ++ [?_], said, ?_⟩
  · exact if settled.isRefusal then
      ⟨.warning, s!"{profile.name} {operation} rejected: {settled.message}"⟩
    else ⟨.error, s!"{profile.name} {operation} failed: {settled.label}: {settled.message}"⟩
  · rw [settle, Action.ofExcept_bind_ok classified, silent]
    cases settled.isRefusal <;> rfl

/-- A fault that spares the session and has a message leaves this message. -/
theorem settle_said (silent : profile.tracer = .silent) (operation : String)
    {fault settled : Fault} (classified : profile.classify fault = .ok settled)
    (spared : settled.revokes = false) (said : settled.message ≠ "") (host : Host β) :
    ∃ journal, profile.settle operation fault host =
      (.ok (.failure settled.message), { host with journal }) := by
  have given : (settled.message != "") = true := bne_iff_ne.2 said
  unfold settle
  rw [Action.ofExcept_bind_ok classified, silent]
  simp only [spared, given, if_true]
  cases settled.isRefusal <;> exact ⟨_, rfl⟩

section Settled

variable (operation : String) {fault settled : Fault} (host : Host β)

theorem settle_unclassified {other : Fault} (unclassified : profile.classify fault = .error other) :
    profile.settle operation fault host = (.error other, host) :=
  Action.ofExcept_bind_error unclassified _ host

theorem settle_spared (silent : profile.tracer = .silent)
    (classified : profile.classify fault = .ok settled) (spared : settled.revokes = false) :
    ∃ error journal, error ≠ "" ∧
      profile.settle operation fault host = (.ok (.failure error), { host with journal }) := by
  rcases settle_classified silent operation classified host with ⟨error, journal, said, ran⟩
  rw [spared] at ran
  exact ⟨error, journal, said, ran⟩

theorem settle_revoked {backend : β} (silent : profile.tracer = .silent)
    (classified : profile.classify fault = .ok settled) (revokes : settled.revokes = true)
    (forgotten : profile.forget host.backend = (.ok (), backend)) :
    ∃ error journal, error ≠ "" ∧ profile.settle operation fault host =
      (.ok (.failure error), { session := none, journal, backend }) := by
  rcases settle_classified silent operation classified host with ⟨error, noted, said, ran⟩
  rcases endSession_apply profile { host with journal := noted } with ⟨journal, ended⟩
  rw [forgotten] at ended
  rw [revokes] at ran
  exact ⟨error, journal, said, ran.trans (Action.bind_of_ok ended)⟩

theorem settle_unforgotten {backend : β} {other : Fault} (silent : profile.tracer = .silent)
    (classified : profile.classify fault = .ok settled) (revokes : settled.revokes = true)
    (failed : profile.forget host.backend = (.error other, backend)) :
    ∃ journal, profile.settle operation fault host =
      (.error other, { session := none, journal, backend }) := by
  rcases settle_classified silent operation classified host with ⟨error, noted, said, ran⟩
  rcases endSession_apply profile { host with journal := noted } with ⟨journal, ended⟩
  rw [failed] at ended
  rw [revokes] at ran
  exact ⟨journal, ran.trans (Action.bind_of_error ended)⟩

end Settled

/-! ## The whole envelope -/

theorem ensuring_nothing {step : Action (Host β) α} {host : Host β} :
    step.ensuring (Host.onBackend (pure ())) host = step host := by
  rcases ran : step host with ⟨result, after⟩
  have attempted : step.attempt host = (.ok result, after) := by
    rw [Action.attempt_apply, ran]
  rw [Action.ensuring, Action.bind_of_ok attempted]
  rfl

/-- Under an envelope that nobody watches, success and failure are those of the operation. -/
theorem resolve_apply (silent : profile.tracer = .silent) (operation : String)
    (body : Action (Host β) Value) (host : Host β) :
    profile.resolve operation body host =
      match body host with
      | (.ok data, after) => (.ok (.success data), after)
      | (.error fault, after) => profile.settle operation fault after := by
  -- nobody watches, so opening and closing the span do nothing
  have opened : Host.onBackend (Tracer.silent.opened operation) host = (.ok (), host) := rfl
  unfold resolve
  rw [silent, Action.bind_of_ok opened]
  refine Eq.trans ensuring_nothing ?_
  rcases ran : body host with ⟨result, after⟩
  have attempted : body.attempt host = (.ok result, after) := by
    rw [Action.attempt_apply, ran]
  rw [Action.bind_of_ok attempted]
  cases result <;> rfl

section Outcome

variable {operation : String} {body : Action (Host β) Value} {host after : Host β}

theorem resolve_success (silent : profile.tracer = .silent) {data : Value}
    (succeeded : profile.resolve operation body host = (.ok (.success data), after)) :
    body host = (.ok data, after) := by
  rw [resolve_apply silent] at succeeded
  rcases ran : body host with ⟨result, middle⟩
  rw [ran] at succeeded
  cases result with
  | ok data =>
      cases succeeded
      rfl
  | error fault =>
      rcases settle_ok succeeded with ⟨text, failure⟩
      cases failure

theorem resolve_failure (silent : profile.tracer = .silent) {text : String}
    (failed : profile.resolve operation body host = (.ok (.failure text), after)) :
    ∃ fault middle, body host = (.error fault, middle) ∧
      profile.settle operation fault middle = (.ok (.failure text), after) := by
  rw [resolve_apply silent] at failed
  rcases ran : body host with ⟨result, middle⟩
  rw [ran] at failed
  cases result with
  | ok data => cases failed
  | error fault => exact ⟨fault, middle, rfl, failed⟩

/-- All that a response can come from: data, a fault that spares the session, and one that ends it. -/
theorem resolve_cases (silent : profile.tracer = .silent) {response : Response}
    (ran : profile.resolve operation body host = (.ok response, after)) :
    (∃ data, response = .success data ∧ body host = (.ok data, after)) ∨
      ∃ error fault middle settled journal, response = .failure error ∧
        body host = (.error fault, middle) ∧ profile.classify fault = .ok settled ∧
        ((settled.revokes = false ∧ after = { middle with journal }) ∨
          (settled.revokes = true ∧ ∃ backend, profile.forget middle.backend = (.ok (), backend) ∧
            after = { session := none, journal, backend })) := by
  cases response with
  | success data => exact .inl ⟨data, rfl, resolve_success silent ran⟩
  | failure error =>
      rcases resolve_failure silent ran with ⟨fault, middle, failed, ended⟩
      refine .inr ?_
      cases classified : profile.classify fault with
      | error other =>
          rw [settle_unclassified operation middle classified] at ended
          cases ended
      | ok settled =>
          cases revokes : settled.revokes with
          | false =>
              rcases settle_spared operation middle silent classified revokes with
                ⟨text, journal, _, same⟩
              rw [same] at ended
              cases ended
              exact ⟨_, fault, middle, settled, journal, rfl, failed, classified, .inl ⟨revokes, rfl⟩⟩
          | true =>
              rcases forgotten : profile.forget middle.backend with ⟨result, backend⟩
              cases result with
              | error other =>
                  rcases settle_unforgotten operation middle silent classified revokes forgotten with
                    ⟨journal, same⟩
                  rw [same] at ended
                  cases ended
              | ok =>
                  rcases settle_revoked operation middle silent classified revokes forgotten with
                    ⟨text, journal, _, same⟩
                  rw [same] at ended
                  cases ended
                  exact ⟨_, fault, middle, settled, journal, rfl, failed, classified,
                    .inr ⟨revokes, backend, forgotten, rfl⟩⟩

end Outcome

end Profile

end DataGateway
