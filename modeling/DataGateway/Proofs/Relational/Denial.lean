import DataGateway.Proofs.Gateway.Host
import DataGateway.Proofs.Relational.Trace

/-!
# Denied access

A database may deny access while a command is carried out. What the executor raises is decided by the
first step that fails: behind the connection a denial ends the session, at the connection nothing does.

* `firstFailure` — the first step of a trace that fails;
* `raised`, `Serves.raises` — what the executor raises for it;
* `Asks` — an operation hands at most one command over, and a fault of it is the outcome;
* `Adapter.denial_ends_session` — what becomes of the session.
-/

namespace DataGateway.Relational

/-! ## The first failure -/

/-- The first step of a trace that fails, and how. -/
def firstFailure (failure : Step → Option Fault) : List Event → Option (Step × Fault)
  | [] => none
  | event :: rest =>
    match event.step? with
    | none => firstFailure failure rest
    | some step =>
      match failure step with
      | none => firstFailure failure rest
      | some fault => some (step, fault)

theorem firstFailure_append (failure : Step → Option Fault) (before behind : List Event) :
    firstFailure failure (before ++ behind) =
      (firstFailure failure before).or (firstFailure failure behind) := by
  induction before with
  | nil => rfl
  | cons event before ih =>
      cases taken : event.step? with
      | none => simp only [List.cons_append, firstFailure, taken, ih]
      | some step =>
          cases failed : failure step with
          | none => simp only [List.cons_append, firstFailure, taken, failed, ih]
          | some fault => simp only [List.cons_append, firstFailure, taken, failed, Option.some_or]

/-- What the executor raises for a step that fails, when the connection can be given back. -/
def raised (step : Step) (fault : Fault) : Fault :=
  if step = .connect then connectionFault fault else Pool.transactionFault fault

section Executor

variable {call : Call} {text : String} {arguments : List Sql.Argument} {trace : List Event}
  {result : Except Fault Value} {step : Step} {fault : Fault}

/-- The first step of a statement that fails is the outcome. -/
theorem Works.outcome (works : Works call text arguments trace result)
    (first : firstFailure call.failure trace = some (step, fault)) :
    result = .error fault ∧ step ≠ .connect := by
  cases works with
  | unexecuted executes =>
      simp only [firstFailure, Event.step?, executes] at first
      cases first
      exact ⟨rfl, nofun⟩
  | uncommitted executes commits =>
      simp only [firstFailure, Event.step?, executes, commits] at first
      cases first
      exact ⟨rfl, nofun⟩
  | unfetched executes commits _ fetches =>
      simp only [firstFailure, Event.step?, executes, commits, fetches] at first
      cases first
      exact ⟨rfl, nofun⟩
  | silent executes commits _ =>
      simp only [firstFailure, Event.step?, executes, commits] at first
      cases first
  | unread executes commits _ fetches _ | read executes commits _ fetches _ =>
      simp only [firstFailure, Event.step?, executes, commits, fetches] at first
      cases first

/-- The failure of a statement with an open cursor is that of the statement. -/
theorem firstFailure_statement {ending : List Event} (connects : call.failure .connect = none)
    (opens : call.failure .cursor = none)
    (ended : firstFailure call.failure ending = none) :
    firstFailure call.failure ([.connected, .cursorOpened] ++ trace ++ ending) =
      firstFailure call.failure trace := by
  have before : firstFailure call.failure [.connected, .cursorOpened] = none := by
    simp only [firstFailure, Event.step?, connects, opens]
  rw [firstFailure_append, firstFailure_append, before, ended, Option.none_or, Option.or_none]

section Returning

variable (rolls : call.failure .rollback = none) (returns : call.failure .giveBack = none)

include rolls returns

/-- When neither the rollback nor the return fails, a transaction that failed raises its own fault. -/
theorem Call.handedBack_undone (behind : step ≠ .connect) (fault : Fault) :
    call.handedBack (call.undone fault) = .error (raised step fault) := by
  rw [handedBack, undone, rolls, returns, raised, if_neg behind, Option.getD_none]

/-- The executor raises what the first failure comes to. -/
theorem Serves.raises (serves : Serves call trace result)
    (first : firstFailure call.failure trace = some (step, fault)) :
    result = .error (raised step fault) := by
  cases serves with
  | refused formed => cases first
  | unconnected formed connects =>
      simp only [firstFailure, Event.step?, connects] at first
      cases first
      rfl
  | unopened formed connects opens =>
      simp only [firstFailure, Event.step?, connects, opens] at first
      cases first
      exact Call.handedBack_undone rolls returns (by decide) _
  | undone formed connects opens works =>
      have ended : firstFailure call.failure [.cursorClosed, .rolledBack, .givenBack] = none := by
        simp only [firstFailure, Event.step?, rolls, returns]
      rw [firstFailure_statement connects opens ended] at first
      rcases works.outcome first with ⟨same, behind⟩
      cases same
      exact Call.handedBack_undone rolls returns behind _
  | finished formed connects opens works =>
      have ended : firstFailure call.failure [.cursorClosed, .givenBack] = none := by
        simp only [firstFailure, Event.step?, returns]
      rw [firstFailure_statement connects opens ended] at first
      cases (works.outcome first).1

end Returning

end Executor

/-! ## Operations -/

section Asking

variable {β α γ : Type}

/-- A step hands at most one command over. A fault of the executor is its outcome. -/
inductive Asks (execute : Command → Action β Value) (host : Host β) (ran : Except Fault α × Host β) :
    Prop where
  | nothing : ran.2.backend = host.backend → Asks execute host ran
  | once (command : Command) : ran.2.backend = (execute command host.backend).2 →
      (∀ fault, (execute command host.backend).1 = .error fault →
        ran = (.error fault, { host with backend := (execute command host.backend).2 })) →
      Asks execute host ran

variable {execute : Command → Action β Value} {host : Host β}

theorem Asks.of_fixes {step : Work β α} (fixes : FixesBackend id step) (host : Host β) :
    Asks execute host (step host) := .nothing (fixes host)

/-- What is done with the answer does nothing to the backend. -/
theorem Asks.bind {step : Work β α} {next : α → Work β γ} (asks : Asks execute host (step host))
    (fixes : ∀ a, FixesBackend id (next a)) : Asks execute host ((step >>= next) host) := by
  have kept : ((step >>= next) host).2.backend = (step host).2.backend := by
    rcases ran : step host with ⟨result, middle⟩
    cases result with
    | error fault => rw [Action.bind_of_error ran]
    | ok a =>
        rw [Action.bind_of_ok ran]
        exact fixes a middle
  cases asks with
  | nothing same => exact .nothing (kept.trans same)
  | once command same outcome =>
      refine .once command (kept.trans same) fun fault failed => ?_
      exact Action.bind_of_error (outcome fault failed)

namespace Adapter

variable (adapter : Adapter β)

theorem asks_carryOut (command : Command) (host : Host β) :
    Asks adapter.execute host (adapter.carryOut command host) := by
  refine .once command rfl fun fault failed => ?_
  rw [carryOut, Host.onBackend_apply, failed]

theorem asks_run (prepared : Except Fault Sql.Prepared) (host : Host β) :
    Asks adapter.execute host (adapter.run prepared host) := by
  cases prepared with
  | error fault => exact .nothing rfl
  | ok prepared => exact adapter.asks_carryOut _ host

theorem asks_rows (prepared : Except Fault Sql.Prepared) (host : Host β) :
    Asks adapter.execute host (adapter.rows prepared host) :=
  (adapter.asks_run prepared host).bind fun _ => .pure _

theorem fixes_enter (token : String) (denial : Denial) (rows : Value) :
    FixesBackend id (enter token denial rows : Work β Value) := by
  have entering : FixesBackend id (do
      let principal ← Action.ofExcept (rows.first >>= principalOf)
      profile.startSession (.text token) principal
      return principal : Work β Value) :=
    .bind (.ofExcept _) fun _ => .bind (Profile.fixes_startSession _ _) fun _ => .pure _
  unfold enter
  split
  · exact .bind (.fail _) fun _ => entering
  · exact entering

theorem asks_signUp (token : String) (email password : Value) (host : Host β) :
    Asks adapter.execute host (adapter.signUp token email password host) := by
  have asking : Asks adapter.execute host ((do
      enter token .noUserReturned (← adapter.carryOut (adapter.signUpCommand email password)) :
        Work β Value) host) :=
    (adapter.asks_carryOut _ host).bind fun _ => fixes_enter token _ _
  unfold signUp
  split
  · exact .nothing rfl
  · exact asking

theorem asks_query (table : Value) (options : Query.Options) (host : Host β) :
    Asks adapter.execute host (adapter.query table options host) := by
  refine (adapter.asks_rows _ host).bind fun rows => ?_
  cases options.single.truthy with
  | false => exact .pure _
  | true => exact .ofExcept _

theorem asks_rpc (name params : Value) (host : Host β) :
    Asks adapter.execute host (adapter.rpc name params host) := by
  refine (adapter.asks_run _ host).bind fun rows => ?_
  cases rows.truthy with
  | false => exact .pure _
  | true => exact .ofExcept _

theorem asks_body (token : String) (operation : Operation) (host : Host β) :
    Asks adapter.execute host (adapter.body token operation host) := by
  cases operation with
  | select table columns filters => exact adapter.asks_rows _ host
  | selectOne table columns filters => exact (adapter.asks_run _ host).bind fun _ => .ofExcept _
  | query table options => exact adapter.asks_query table options host
  | count table filters => exact (adapter.asks_run _ host).bind fun _ => .ofExcept _
  | insert table data => exact (adapter.asks_rows _ host).bind fun _ => .ofExcept _
  | insertMany table rows => exact adapter.asks_rows _ host
  | update table filters patch => exact adapter.asks_rows _ host
  | delete table filters => exact adapter.asks_rows _ host
  | upsert table data => exact (adapter.asks_rows _ host).bind fun _ => .ofExcept _
  | rpc name params => exact adapter.asks_rpc name params host
  | signIn email password => exact (adapter.asks_carryOut _ host).bind fun _ => fixes_enter token _ _
  | signUp email password => exact adapter.asks_signUp token email password host
  | signOut =>
      exact .of_fixes (.bind (Profile.fixes_endSession (.pure ())) fun _ => .pure _) host
  | currentUser =>
      exact .of_fixes (.bind Host.fixes_requireSession fun _ => .map _ (.ofExcept _)) host
  | isAuthenticated => exact .of_fixes (.map _ Host.fixes_hasSession) host

end Adapter

end Asking

/-! ## Sessions -/

/-- Does a fault of the driver deny access? -/
def denies : Fault → Bool
  | .incident incident => incident.kind.isDenial
  | _ => false

/-- The text of a fault of the driver. -/
def incidentText : Fault → String
  | .incident incident => incident.text
  | fault => fault.message

theorem raised_of_denies {step : Step} {fault : Fault} (behind : step ≠ .connect)
    (denied : denies fault = true) :
    raised step fault = .denied (.reported (Text.trim (incidentText fault))) true := by
  cases fault with
  | incident incident =>
      have kind : incident.kind.isDenial = true := denied
      rw [raised, if_neg behind, Pool.transactionFault, if_pos kind]
      rfl
  | _ => cases denied

theorem revokes_raised {step : Step} {fault : Fault} (outside : fault.revokes = false) :
    (raised step fault).revokes = (decide (step ≠ .connect) && denies fault) := by
  cases fault with
  | incident incident =>
      by_cases here : step = .connect
      · rw [raised, if_pos here, connectionFault]
        cases incident.kind.isOperational <;> simp [here, Fault.revokes]
      · rw [raised, if_neg here, Pool.transactionFault]
        cases kind : incident.kind.isDenial <;> simp [here, denies, kind, Fault.revokes]
  | _ =>
      -- faults that the driver did not raise go through both handlers
      cases step <;> simpa [raised, connectionFault, Pool.transactionFault, denies] using outside

/-- A fault is answered as a failure, and the session ends if the fault says so. -/
theorem settle_session {β : Type} (operation : String) (fault : Fault) (host : Host β) :
    ∃ text after, profile.settle operation fault host = (.ok (.failure text), after) ∧
      after.session = if fault.revokes then none else host.session := by
  cases revokes : fault.revokes with
  | false =>
      have spared : fault.classified.revokes = false := fault.revokes_classified.trans revokes
      rcases (Profile.settle_spared operation host rfl rfl spared : ∃ error journal, error ≠ "" ∧
        profile.settle operation fault host = _) with ⟨text, journal, _, settled⟩
      exact ⟨text, _, settled, rfl⟩
  | true =>
      have ended : fault.classified.revokes = true := fault.revokes_classified.trans revokes
      rcases (Profile.settle_revoked operation host rfl rfl ended rfl : ∃ error journal, error ≠ "" ∧
        profile.settle operation fault host = _) with ⟨text, journal, _, settled⟩
      exact ⟨text, _, settled, rfl⟩

/-- What happened to the pool of a host between two states. -/
def eventsBetween (host after : Host Pool) : List Event :=
  after.backend.history.drop host.backend.history.length

namespace Adapter

variable {adapter : Adapter Pool}

/-- Whatever operation hands a command to the pool, the first step that fails decides when the rollback and
the return do not fail. A denial behind the connection is raised as one that ends the session, and no
session is left when the failure has been answered. Every other fault of a driver, and a denial of the
connection, leaves the session as it was. -/
theorem denial_ends_session (pooled : adapter.execute = Pool.execute) (token : String)
    (operation : Operation) {host : Host Pool} {step : Step} {fault : Fault}
    (first : firstFailure host.backend.failure
      (eventsBetween host (adapter.perform token operation host).2) = some (step, fault))
    (rolls : host.backend.failure .rollback = none) (returns : host.backend.failure .giveBack = none)
    (outside : fault.revokes = false) :
    ∃ command text after, (Pool.execute command host.backend).1 = .error (raised step fault) ∧
      adapter.perform token operation host = (.ok (.failure text), after) ∧
      (step ≠ .connect → denies fault = true →
        raised step fault = .denied (.reported (Text.trim (incidentText fault))) true ∧
          after.session = none) ∧
      (step = .connect ∨ denies fault = false →
        (raised step fault).revokes = false ∧ after.session = host.session) := by
  have silent : profile.tracer = (.silent : Tracer Pool) := rfl
  have applied := Profile.resolve_apply silent operation.name (adapter.body token operation) host
  have kept : (adapter.perform token operation host).2.backend =
      (adapter.body token operation host).2.backend := by
    rw [perform, applied]
    rcases adapter.body token operation host with ⟨result, middle⟩
    cases result with
    | ok data => rfl
    | error fault =>
        have fixed : FixesBackend id (profile.settle operation.name fault : Work Pool Response) :=
          Profile.fixes_settle silent (.pure ()) operation.name fault
        exact fixed middle
  cases adapter.asks_body token operation host with
  | nothing same =>
      -- where nothing happened nothing has failed
      rw [eventsBetween, kept, same, List.drop_length] at first
      cases first
  | once command same outcome =>
      rw [pooled] at same outcome
      let call : Call := ⟨command, host.backend.failure, host.backend.rows⟩
      have trace : eventsBetween host (adapter.perform token operation host).2 =
          host.backend.traceOf call := by
        rw [eventsBetween, kept, same]
        rfl
      rw [trace] at first
      have failed : (Pool.execute command host.backend).1 = .error (raised step fault) :=
        (host.backend.serves_serve call).1.raises rolls returns first
      rcases settle_session operation.name (raised step fault)
        { host with backend := (Pool.execute command host.backend).2 } with
        ⟨text, after, settled, session⟩
      have answered : adapter.perform token operation host = (.ok (.failure text), after) := by
        rw [perform, applied, outcome _ failed]
        exact settled
      rw [revokes_raised outside] at session
      refine ⟨command, text, after, failed, answered, fun behind denied => ?_, fun spared => ?_⟩
      · exact ⟨raised_of_denies behind denied, by simpa [behind, denied] using session⟩
      · have mild : (decide (step ≠ .connect) && denies fault) = false := by
          rcases spared with rfl | spared
          · rfl
          · rw [spared, Bool.and_false]
        rw [mild] at session
        exact ⟨(revokes_raised outside).trans mild, session⟩

/-- An adapter on a pool. -/
def onPool : Adapter Pool := ⟨Pool.execute, ⟨"users", rfl⟩, ⟨⟨"id", rfl⟩⟩⟩

/-- A host with a session and a pool of which one step fails. -/
def failingAt (step : Step) (kind : Incident.Kind) (text : String) : Host Pool where
  session := some ⟨.text "token", .object [("id", .int 1)]⟩
  backend := { failure := fun other => if other = step then some (.incident { kind, text }) else none }

/-- A session ends with a privilege that is missing when a statement is committed. -/
theorem denial_ends_session_commit :
    let host := failingAt .commit .privilege "permission denied\n"
    ∃ text after, onPool.perform "" (.select (.text "notes") (.text "*") .absent) host =
        (.ok (.failure text), after) ∧ after.session = none := by
  intro host
  have first : firstFailure host.backend.failure (eventsBetween host (onPool.perform ""
      (.select (.text "notes") (.text "*") .absent) host).2) =
        some (.commit, .incident { kind := .privilege, text := "permission denied\n" }) := rfl
  rcases denial_ends_session rfl "" _ first rfl rfl rfl with ⟨_, text, after, _, ran, ended, _⟩
  exact ⟨text, after, ran, (ended (by decide) rfl).2⟩

/-- A role that may not log in does not end it. -/
theorem denial_spares_session :
    let host := failingAt .connect .authorization "role is not permitted to log in"
    ∃ command text after, (Pool.execute command host.backend).1 =
        .error (.network (.database "role is not permitted to log in")) ∧
      onPool.perform "" (.select (.text "notes") (.text "*") .absent) host =
        (.ok (.failure text), after) ∧ after.session ≠ none := by
  intro host
  refine ⟨.ofPrepared ⟨.select none ⟨"notes", rfl⟩ [] none none none, []⟩, _, _, rfl, rfl, ?_⟩
  exact Option.some_ne_none _

end Adapter

end DataGateway.Relational
