import DataGateway.Gateway.Operation
import DataGateway.Proofs.Gateway.Host

/-!
# How sessions begin and end

A session begins with signing in or signing up, or is taken up again from what the backend keeps of it.
It ends with signing out, or with a fault that revokes it, and with nothing else.

* `Keeping` — what a backend keeps of a session;
* `Holding`, `Resuming`, `Entering`, `Ending` — what a step may do to the session;
* `Follows` — what one operation does to it;
* `follows_resolve` — an operation whose body is of the right kind follows.
-/

namespace DataGateway

variable {β α γ : Type}

/-- The token of the session, if there is one. -/
def Host.token? (host : Host β) : Option Value := host.session.map (·.token)

/-- What a backend keeps of a session: the token that it offers to an adapter without one, whether
something is kept or all is gone, which sessions can be kept, and whether keeping these and giving up go
well from here on. Most backends keep nothing. -/
structure Keeping (β : Type) where
  offered? : β → Option Value := fun _ => none
  Kept : β → Prop := fun _ => False
  Gone : β → Prop := fun _ => True
  CanKeep : Session → Prop := fun _ => True
  Sound : β → Prop := fun _ => True

variable (keeping : Keeping β)

/-- Is the session, if there is one, of those that can be kept? -/
def Keeping.Fits (host : Host β) : Prop := ∀ session, host.session = some session → keeping.CanKeep session

/-! ## Relations between states -/

/-- What is kept is still kept. -/
structure Spared (before after : β) : Prop where
  kept : keeping.Kept before → keeping.Kept after
  sound : keeping.Sound before → keeping.Sound after

/-- The session has the same token, or is missing as before. -/
structure Holds (host after : Host β) : Prop extends Spared keeping host.backend after.backend where
  token : after.token? = host.token?

/-- The same, or the offered token has been taken up. -/
structure Resumes (host after : Host β) : Prop extends
    Spared keeping host.backend after.backend where
  token : after.token? = host.token? ∨
    (host.session = none ∧ after.token? = keeping.offered? host.backend)

/-- A session is still there, perhaps with another token. -/
structure Lives (host after : Host β) : Prop extends Spared keeping host.backend after.backend where
  lives : host.session ≠ none → after.session ≠ none

variable {keeping} {host middle after : Host β}

theorem Spared.refl (backend : β) : Spared keeping backend backend := ⟨fun h => h, fun h => h⟩

theorem Spared.trans {a b c : β} (first : Spared keeping a b) (next : Spared keeping b c) :
    Spared keeping a c :=
  ⟨fun kept => next.kept (first.kept kept), fun sound => next.sound (first.sound sound)⟩

instance : IsPreorder β (Spared keeping) where
  refl := .refl
  trans _ _ _ := .trans

/-- Where nothing is kept there is nothing to lose. -/
theorem spared_nothing (before after : β) : Spared {} before after := ⟨False.elim, fun _ => trivial⟩

instance : IsPreorder (Host β) (Holds keeping) where
  refl host := ⟨.refl host.backend, rfl⟩
  trans _ _ _ first next :=
    ⟨first.toSpared.trans next.toSpared, next.token.trans first.token⟩

theorem session_eq_none_iff {host : Host β} : host.session = none ↔ host.token? = none :=
  Option.map_eq_none_iff.symm

theorem Holds.resumes (holds : Holds keeping host after) : Resumes keeping host after :=
  ⟨holds.toSpared, .inl holds.token⟩

theorem Holds.lives (holds : Holds keeping host after) : Lives keeping host after := by
  refine ⟨holds.toSpared, fun present absent => present ?_⟩
  rw [session_eq_none_iff] at absent ⊢
  exact holds.token.symm.trans absent

theorem Resumes.holds (resumes : Resumes keeping host after) (present : host.session ≠ none) :
    Holds keeping host after :=
  ⟨resumes.toSpared, resumes.token.resolve_right fun taken => present taken.1⟩

theorem Resumes.lives (resumes : Resumes keeping host after) : Lives keeping host after :=
  ⟨resumes.toSpared, fun present => (resumes.holds present).lives.lives present⟩

theorem Resumes.trans (resumes : Resumes keeping host middle) (holds : Holds keeping middle after) :
    Resumes keeping host after := by
  refine ⟨resumes.toSpared.trans holds.toSpared, ?_⟩
  rw [holds.token]
  exact resumes.token

theorem Lives.trans (first : Lives keeping host middle) (next : Lives keeping middle after) :
    Lives keeping host after :=
  ⟨first.toSpared.trans next.toSpared, fun present => next.lives (first.lives present)⟩

/-! ## Steps that leave the session alone -/

variable (keeping)

/-- The step neither begins nor ends a session. -/
abbrev Holding (step : Action (Host β) α) : Prop := step.Moves (Holds keeping)

/-- Nor does the step in a session with a token. -/
def HoldingIn (token : Value) (step : Action (Host β) α) : Prop :=
  ∀ host, host.token? = some token → Holds keeping host (step host).2

variable {keeping} {token : Value}

theorem holding_onBackend {step : Action β α} (spares : step.Moves (Spared keeping)) :
    Holding keeping (Host.onBackend step) := fun host => ⟨spares host.backend, rfl⟩

theorem holding_hasSession : Holding keeping (Host.hasSession : Action (Host β) Bool) :=
  .bind .get fun _ => .pure _

theorem Holding.within {step : Action (Host β) α} (holding : Holding keeping step) :
    HoldingIn keeping token step := fun host _ => holding host

theorem HoldingIn.bind {x : Action (Host β) α} {f : α → Action (Host β) γ}
    (first : HoldingIn keeping token x) (next : ∀ a, HoldingIn keeping token (f a)) :
    HoldingIn keeping token (x >>= f) := by
  intro host current
  have holds := first host current
  rcases ran : x host with ⟨result, middle⟩
  rw [ran] at holds
  cases result with
  | error fault =>
      rw [Action.bind_of_error ran]
      exact holds
  | ok a =>
      rw [Action.bind_of_ok ran]
      exact trans_of (Holds keeping) holds (next a middle (holds.token.trans current))

/-- A session gets another principal, not another token. -/
theorem holdingIn_setPrincipal (session : Session) (principal : Value) :
    HoldingIn keeping session.token (Host.setPrincipal session principal) := by
  intro host current
  exact ⟨.refl host.backend, current.symm⟩

theorem holding_requireSession {next : Session → Action (Host β) α}
    (holding : ∀ session, HoldingIn keeping session.token (next session)) :
    Holding keeping (Host.requireSession >>= next) := by
  intro host
  cases present : host.session with
  | none =>
      rw [Action.bind_of_error (Host.requireSession_absent present)]
      exact refl_of (Holds keeping) host
  | some session =>
      rw [Action.bind_of_ok (Host.requireSession_present present)]
      refine holding session host ?_
      rw [Host.token?, present]
      rfl

/-! ## Steps that may begin or end a session -/

variable (keeping)

/-- The step takes up the offered token, if there is no session, and does nothing else to it. -/
abbrev Resuming (step : Action (Host β) α) : Prop := step.Moves (Resumes keeping)

/-- The step may begin a session that can be kept, but not if it fails. -/
def Starting (step : Action (Host β) α) : Prop :=
  ∀ host, keeping.Sound host.backend → Lives keeping host (step host).2 ∧
    ∀ fault, (step host).1 = .error fault → keeping.Fits (step host).2 →
      Holds keeping host (step host).2

/-- The step may begin a session that can be kept, or take up the offered token, but only the latter if it
fails. -/
def Entering (step : Action (Host β) α) : Prop :=
  ∀ host, keeping.Sound host.backend → Lives keeping host (step host).2 ∧
    ∀ fault, (step host).1 = .error fault → keeping.Fits (step host).2 →
      Resumes keeping host (step host).2

/-- The step ends the session, and nothing is kept of it. -/
def Ending (step : Action (Host β) α) : Prop :=
  ∀ host, keeping.Sound host.backend → (step host).2.session = none ∧
    keeping.Gone (step host).2.backend ∧ keeping.Sound (step host).2.backend

variable {keeping}

theorem Holding.resuming {step : Action (Host β) α} (holding : Holding keeping step) :
    Resuming keeping step := fun host => (holding host).resumes

theorem Resuming.within {step : Action (Host β) α} (resuming : Resuming keeping step) :
    HoldingIn keeping token step := by
  intro host current
  refine (resuming host).holds ?_
  intro absent
  rw [session_eq_none_iff, current] at absent
  cases absent

theorem Resuming.bind {x : Action (Host β) α} {f : α → Action (Host β) γ}
    (first : Resuming keeping x) (next : ∀ a, Holding keeping (f a)) :
    Resuming keeping (x >>= f) := by
  intro host
  have resumes := first host
  rcases ran : x host with ⟨result, middle⟩
  rw [ran] at resumes
  cases result with
  | error fault =>
      rw [Action.bind_of_error ran]
      exact resumes
  | ok a =>
      rw [Action.bind_of_ok ran]
      exact resumes.trans (next a middle)

theorem Resuming.map {x : Action (Host β) α} (g : α → γ) (first : Resuming keeping x) :
    Resuming keeping (g <$> x) := by
  rw [Action.map_eq_bind]
  exact first.bind fun _ => .pure _

/-- What is worked out before does nothing to the session. -/
theorem resuming_ofExcept {result : Except Fault α} {next : α → Action (Host β) γ}
    (resuming : ∀ a, Resuming keeping (next a)) :
    Resuming keeping (Action.ofExcept result >>= next) := by
  cases result with
  | error fault => exact Holding.resuming (.fail fault)
  | ok a => exact resuming a

theorem Holding.starting {step : Action (Host β) α} (holding : Holding keeping step) :
    Starting keeping step := fun host _ => ⟨(holding host).lives, fun _ _ _ => holding host⟩

theorem Starting.bind {x : Action (Host β) α} {f : α → Action (Host β) γ}
    (first : Holding keeping x) (next : ∀ a, Starting keeping (f a)) :
    Starting keeping (x >>= f) := by
  intro host sound
  rcases ran : x host with ⟨result, middle⟩
  have holds := first.after ran
  cases result with
  | error fault =>
      rw [Action.bind_of_error ran]
      exact ⟨holds.lives, fun _ _ _ => holds⟩
  | ok a =>
      rw [Action.bind_of_ok ran]
      rcases next a middle (holds.sound sound) with ⟨lives, failed⟩
      exact ⟨holds.lives.trans lives,
        fun fault h fits => trans_of (Holds keeping) holds (failed fault h fits)⟩

theorem Starting.entering {step : Action (Host β) α} (starting : Starting keeping step) :
    Entering keeping step := by
  intro host sound
  rcases starting host sound with ⟨lives, failed⟩
  exact ⟨lives, fun fault h fits => (failed fault h fits).resumes⟩

theorem Entering.bind {x : Action (Host β) α} {f : α → Action (Host β) γ}
    (first : Resuming keeping x) (next : ∀ a, Starting keeping (f a)) :
    Entering keeping (x >>= f) := by
  intro host sound
  rcases ran : x host with ⟨result, middle⟩
  have resumes := first.after ran
  cases result with
  | error fault =>
      rw [Action.bind_of_error ran]
      exact ⟨resumes.lives, fun _ _ _ => resumes⟩
  | ok a =>
      rw [Action.bind_of_ok ran]
      rcases next a middle (resumes.sound sound) with ⟨lives, failed⟩
      exact ⟨resumes.lives.trans lives, fun fault h fits => resumes.trans (failed fault h fits)⟩

/-- What comes after the beginning of a session has to go well, if the session can be kept. -/
theorem starting_startSession (profile : Profile β) (token principal : Value)
    {next : Unit → Action (Host β) α}
    (well : ∀ host, keeping.Sound host.backend → host.session ≠ none →
      Lives keeping host (next () host).2 ∧
        (keeping.Fits (next () host).2 → ∃ a, (next () host).1 = .ok a)) :
    Starting keeping (profile.startSession token principal >>= next) := by
  intro host sound
  rcases Profile.startSession_ok profile token principal host with ⟨begun, started, present, same⟩
  have some : begun.session ≠ none := by
    rw [present]
    nofun
  have spared : Spared keeping host.backend begun.backend := by
    rw [same]
    exact .refl host.backend
  have first : Lives keeping host begun := ⟨spared, fun _ => some⟩
  rcases well begun (first.sound sound) some with ⟨lives, ends⟩
  rw [Action.bind_of_ok started]
  refine ⟨first.trans lives, fun fault failed fits => ?_⟩
  rcases ends fits with ⟨a, ended⟩
  cases failed.symm.trans ended

/-! ## The end of a session -/

/-- The backend can be made to forget a session. -/
def Forgets (keeping : Keeping β) (profile : Profile β) : Prop :=
  ∀ backend, keeping.Sound backend → ∃ after, profile.forget backend = (.ok (), after) ∧
    keeping.Gone after ∧ keeping.Sound after

theorem ending_endSession {profile : Profile β} (forgets : Forgets keeping profile) :
    Ending keeping profile.endSession := by
  intro host sound
  rcases Profile.endSession_apply profile host with ⟨journal, ended⟩
  rcases forgets host.backend sound with ⟨backend, forgotten, gone, still⟩
  rw [forgotten] at ended
  rw [ended]
  exact ⟨rfl, gone, still⟩

/-- The session ends, whatever comes before and however that goes. -/
theorem ending_ensuring {profile : Profile β} (forgets : Forgets keeping profile)
    {step : Action (Host β) α} (resuming : Resuming keeping step) :
    Ending keeping (step.ensuring profile.endSession) := by
  intro host sound
  rw [Action.ensuring_state]
  exact ending_endSession forgets _ ((resuming host).sound sound)

theorem Ending.bind_idle {x : Action (Host β) α} {f : α → Action (Host β) γ}
    (ending : Ending keeping x) (idle : ∀ a host, (f a host).2 = host) :
    Ending keeping (x >>= f) := by
  intro host sound
  rw [Action.bind_idle idle]
  exact ending host sound

/-! ## What an operation does to the session -/

/-- Does an operation begin sessions? -/
def Operation.Enters : Operation → Prop
  | .signIn .. | .signUp .. => True
  | _ => False

/-- Does an operation fail with a fault that ends the session? -/
def Profile.Revokes (profile : Profile β) (body : Action (Host β) Value) (host : Host β) : Prop :=
  ∃ fault settled, (body host).1 = .error fault ∧ profile.classify fault = .ok settled ∧
    settled.revokes = true

/-- What becomes of the session in an operation that comes to a response.

* `changed` — when the token is another one, a session has begun by signing in or up, the offered token
  has been taken up, or the session has ended;
* `failed` — after a failure the token is the old one, or the offered one;
* `ended` — after signing out and after a fault that revokes, there is no session and nothing is kept;
* `lasts` — after everything else the session is still there, and what was kept of it is too. -/
structure Follows (keeping : Keeping β) (profile : Profile β) (operation : Operation)
    (body : Action (Host β) Value) (host : Host β) (response : Response) (after : Host β) : Prop where
  changed : after.token? ≠ host.token? →
    (operation.Enters ∧ ∃ data, response = .success data) ∨
      (host.session = none ∧ after.token? = keeping.offered? host.backend) ∨ after.session = none
  failed : ∀ error, response = .failure error → ∀ token, after.token? = some token →
    host.token? = some token ∨
      (host.session = none ∧ keeping.offered? host.backend = some token)
  ended : operation = .signOut ∨ profile.Revokes body host →
    after.session = none ∧ keeping.Gone after.backend
  lasts : operation ≠ .signOut → ¬profile.Revokes body host →
    (host.session ≠ none → after.session ≠ none) ∧
      (keeping.Kept host.backend → keeping.Kept after.backend)

/-- Is the body of an operation of the kind that the operation should be? -/
def Behaves (keeping : Keeping β) (operation : Operation) (body : Action (Host β) Value) : Prop :=
  match operation with
  | .signOut => Ending keeping body
  | .signIn .. | .signUp .. => Entering keeping body
  | _ => Resuming keeping body

section Follows

variable {profile : Profile β} {operation : Operation} {body : Action (Host β) Value}
  {response : Response}

/-- Of all operations but signing out: they live, and resume unless they succeed in entering. -/
theorem Behaves.entering (behaves : Behaves keeping operation body) (stays : operation ≠ .signOut)
    (sound : keeping.Sound host.backend) : Lives keeping host (body host).2 ∧
      (keeping.Fits (body host).2 → ¬operation.Enters ∨ (∃ fault, (body host).1 = .error fault) →
        Resumes keeping host (body host).2) := by
  have resuming (resuming : Resuming keeping body) : Lives keeping host (body host).2 ∧
      (keeping.Fits (body host).2 → ¬operation.Enters ∨ (∃ fault, (body host).1 = .error fault) →
        Resumes keeping host (body host).2) := ⟨(resuming host).lives, fun _ _ => resuming host⟩
  have entering (entering : Entering keeping body) (enters : operation.Enters) :
      Lives keeping host (body host).2 ∧
        (keeping.Fits (body host).2 → ¬operation.Enters ∨ (∃ fault, (body host).1 = .error fault) →
          Resumes keeping host (body host).2) := by
    rcases entering host sound with ⟨lives, failed⟩
    refine ⟨lives, fun fits => ?_⟩
    rintro (idle | ⟨fault, h⟩)
    · exact absurd enters idle
    · exact failed fault h fits
  cases operation with
  | signOut => exact absurd rfl stays
  | signIn email password => exact entering behaves trivial
  | signUp email password => exact entering behaves trivial
  | _ => exact resuming behaves

/-- Once a session has ended there is nothing more to say about it. -/
theorem follows_of_ended (reason : operation = .signOut ∨ profile.Revokes body host)
    (absent : after.session = none) (gone : keeping.Gone after.backend) :
    Follows keeping profile operation body host response after where
  changed _ := .inr (.inr absent)
  failed _ _ token present := by
    rw [session_eq_none_iff, present] at absent
    cases absent
  ended _ := ⟨absent, gone⟩
  lasts stays spared := absurd reason (not_or.2 ⟨stays, spared⟩)

theorem follows_of_failure {error : String} (stays : operation ≠ .signOut)
    (spared : ¬profile.Revokes body host) (resumes : Resumes keeping host after) :
    Follows keeping profile operation body host (.failure error) after where
  changed moved := .inr (.inl (resumes.token.resolve_left moved))
  failed _ _ token present := by
    rcases resumes.token with same | ⟨absent, taken⟩
    · exact .inl (same.symm.trans present)
    · exact .inr ⟨absent, taken.symm.trans present⟩
  ended reason := absurd reason (not_or.2 ⟨stays, spared⟩)
  lasts _ _ := ⟨resumes.lives.lives, resumes.kept⟩

theorem follows_of_success {data : Value} (stays : operation ≠ .signOut)
    (spared : ¬profile.Revokes body host) (lives : Lives keeping host after)
    (idle : ¬operation.Enters → Resumes keeping host after) :
    Follows keeping profile operation body host (.success data) after where
  changed moved := by
    by_cases enters : operation.Enters
    · exact .inl ⟨enters, data, rfl⟩
    · exact .inr (.inl ((idle enters).token.resolve_left moved))
  failed _ same := by cases same
  ended reason := absurd reason (not_or.2 ⟨stays, spared⟩)
  lasts _ _ := ⟨lives.lives, lives.kept⟩

theorem Behaves.ending (behaves : Behaves keeping .signOut body) (sound : keeping.Sound host.backend) :
    (body host).2.session = none ∧ keeping.Gone (body host).2.backend ∧
      keeping.Sound (body host).2.backend := behaves host sound

theorem Behaves.sound (behaves : Behaves keeping operation body)
    (sound : keeping.Sound host.backend) : keeping.Sound (body host).2.backend := by
  by_cases leaves : operation = .signOut
  · subst leaves
    exact (behaves.ending sound).2.2
  · exact (behaves.entering leaves sound).1.sound sound

/-- Whatever an operation comes to, it leaves a backend that keeps sessions well. -/
theorem sound_resolve (silent : profile.tracer = .silent) (forgets : Forgets keeping profile)
    (behaves : Behaves keeping operation body) (sound : keeping.Sound host.backend) :
    keeping.Sound (profile.resolve operation.name body host).2.backend := by
  have still := behaves.sound sound
  rw [Profile.resolve_apply silent]
  rcases ran : body host with ⟨result, middle⟩
  rw [ran] at still
  cases result with
  | ok data => exact still
  | error fault =>
      dsimp only
      cases classified : profile.classify fault with
      | error other =>
          rw [Profile.settle_unclassified operation.name middle classified]
          exact still
      | ok settled =>
          cases revokes : settled.revokes with
          | false =>
              rcases Profile.settle_spared operation.name middle silent classified revokes with
                ⟨text, journal, _, same⟩
              rw [same]
              exact still
          | true =>
              rcases forgets middle.backend still with ⟨backend, forgotten, _, last⟩
              rcases Profile.settle_revoked operation.name middle silent classified revokes forgotten
                with ⟨text, journal, _, same⟩
              rw [same]
              exact last

/-- An operation with a body of the right kind follows, on a backend that keeps sessions well, if it can
keep the session that there is in the end. -/
theorem follows_resolve (silent : profile.tracer = .silent) (forgets : Forgets keeping profile)
    (behaves : Behaves keeping operation body) (sound : keeping.Sound host.backend)
    (ran : profile.resolve operation.name body host = (.ok response, after))
    (fits : keeping.Fits after) :
    Follows keeping profile operation body host response after := by
  have left : operation = .signOut → (body host).2.session = none ∧
      keeping.Gone (body host).2.backend := by
    rintro rfl
    rcases behaves.ending sound with ⟨absent, gone, _⟩
    exact ⟨absent, gone⟩
  rcases Profile.resolve_cases silent ran with ⟨data, rfl, succeeded⟩ |
    ⟨error, fault, middle, settled, journal, rfl, failed, classified, spared | revoked⟩
  -- a success cannot have been revoked
  · rw [succeeded] at left
    have spared : ¬profile.Revokes body host := by
      rintro ⟨fault, _, failed, _⟩
      rw [succeeded] at failed
      cases failed
    by_cases leaves : operation = .signOut
    · exact follows_of_ended (.inl leaves) (left leaves).1 (left leaves).2
    · have entering := behaves.entering leaves sound
      rw [succeeded] at entering
      exact follows_of_success leaves spared entering.1 fun idle => entering.2 fits (.inl idle)
  -- a failure that spares the session leaves what the body has left
  · rcases spared with ⟨spares, rfl⟩
    rw [failed] at left
    have spared : ¬profile.Revokes body host := by
      rintro ⟨other, class', same, known, revokes⟩
      rw [failed] at same
      cases same
      rw [classified] at known
      cases known
      rw [spares] at revokes
      cases revokes
    by_cases leaves : operation = .signOut
    · exact follows_of_ended (.inl leaves) (left leaves).1 (left leaves).2
    · have entering := behaves.entering leaves sound
      rw [failed] at entering
      have resumes := entering.2 fits (.inr ⟨fault, rfl⟩)
      exact follows_of_failure leaves spared ⟨resumes.toSpared, resumes.token⟩
  -- a failure that revokes makes the backend forget, whichever operation it was
  · rcases revoked with ⟨revokes, backend, forgotten, rfl⟩
    have still := behaves.sound sound
    rw [failed] at still
    rcases forgets middle.backend still with ⟨other, same, gone, _⟩
    rw [forgotten] at same
    cases same
    have revoked : profile.Revokes body host :=
      ⟨fault, settled, congrArg Prod.fst failed, classified, revokes⟩
    exact follows_of_ended (.inr revoked) rfl gone

end Follows

end DataGateway
