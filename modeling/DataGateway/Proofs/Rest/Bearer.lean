import DataGateway.Proofs.Rest.Call

/-!
# The token that requests bear

A token is issued by signing in or signing up, and is gone as soon as the server turns it down or the
session is closed. It does not matter how often the adapter is restarted in between.

* `tokenAfter` — the current token after an operation;
* `Runs` — a run from an empty store, with the current token and all requests so far;
* `Runs.carries` — the adapter carries the current token;
* `requests_bear_current` — every request bears the token that was current when it was sent.
-/

namespace DataGateway.Rest

variable {current later : Option String} {operation : Operation} {answer : Except Fault Reply}
  {host middle after : Host Backend}

/-! ## The current token -/

/-- The token that a reply carries. -/
def Reply.token? (reply : Reply) : Option String :=
  match Json.decode reply.content.toList with
  | .ok v =>
    match Adapter.grantOf? v with
    | some (.text token, _) => some token
    | _ => none
  | .error _ => none

/-- Is the token that a successful reply carries a text? -/
def Reply.IssuesTexts (reply : Reply) : Prop :=
  200 ≤ reply.status → reply.status < 300 → ∀ v token user,
    Json.decode reply.content.toList = .ok v → Adapter.grantOf? v = some (token, user) →
      ∃ s, token = .text s

/-- Does a reply turn the token down? -/
def isDenied (reply? : Option Reply) : Bool := reply?.any (·.status == 401)

/-- The current token after an operation, which may have got a reply. -/
def tokenAfter (operation : Operation) (outcome : Except Fault Response) (reply? : Option Reply)
    (current : Option String) : Option String :=
  match operation with
  | .signOut => none
  | .signIn .. | .signUp .. =>
    if isDenied reply? then none
    else
      match outcome with
      | .ok (.success _) => (reply?.bind Reply.token?).or current
      | _ => current
  | _ => if isDenied reply? then none else current

/-- The reply that an operation has got, if it has sent a request. -/
def replyTo (sent : List Request) (answer : Except Fault Reply) : Option Reply :=
  if sent.isEmpty then none else answer.toOption

/-- What has been sent between two states. -/
def sentBetween (host after : Host Backend) : List Request :=
  after.backend.server.asked.drop host.backend.server.asked.length

theorem sentBetween_of_asked {sent : List Request}
    (asked : after.backend.server.asked = host.backend.server.asked ++ sent) :
    sentBetween host after = sent := by
  rw [sentBetween, asked, List.drop_left]

/-! ## Runs -/

/-- The runs of an adapter whose store nobody else writes to: the state, the current token, and every
request so far with the token that was current when it was sent. -/
inductive Adapter.Runs (adapter : Adapter) :
    Host Backend → Option String → List (Request × Option String) → Prop where
  | start {host : Host Backend} : host.session = none → host.backend.server.asked = [] →
      host.backend.store.Dependable [tokenKey] → host.backend.store.read tokenKey = .ok .null →
      adapter.Runs host none []
  | call {host after : Host Backend} {current : Option String}
      {log : List (Request × Option String)} {operation : Operation} {answer : Except Fault Reply}
      {outcome : Except Fault Response} : adapter.Runs host current log → Arrives answer →
      (operation.Enters → ∀ reply, answer = .ok reply → reply.IssuesTexts) →
      adapter.perform operation (expecting answer host) = (outcome, after) →
      adapter.Runs after
        (tokenAfter operation outcome (replyTo (sentBetween host after) answer) current)
        (log ++ (sentBetween host after).map (·, current))
  | restart {host : Host Backend} {current : Option String} {log : List (Request × Option String)} :
      adapter.Runs host current log → adapter.Runs { backend := host.backend } current log

/-! ## Ends of sessions -/

/-- What becomes of a token whose session ends, or goes on. -/
theorem Carries.settle (carried : Carries later middle) (name : String) (fault : Fault) :
    ∃ error after, profile.settle name fault middle = (.ok (.failure error), after) ∧
      after.backend.server = middle.backend.server ∧
      Carries (if fault.revokes then none else later) after := by
  have classified : profile.classify fault = .ok fault.classified := rfl
  cases revokes : fault.revokes with
  | false =>
      rw [← fault.revokes_classified] at revokes
      rcases Profile.settle_spared name middle rfl classified revokes with ⟨error, journal, _, ran⟩
      exact ⟨error, _, ran, rfl, carried.congr rfl carried.held⟩
  | true =>
      rw [← fault.revokes_classified] at revokes
      rcases forget_ok carried.dependable with ⟨store, forgotten, lacks, still⟩
      rcases Profile.settle_revoked name middle rfl classified revokes forgotten with
        ⟨error, journal, _, ran⟩
      exact ⟨error, _, ran, rfl, still, lacks.read, nofun, nofun⟩

/-- The end of a session leaves no token. -/
theorem Carries.endSession (carried : Carries current middle) :
    ∃ after, profile.endSession middle = (.ok (), after) ∧
      after.backend.server = middle.backend.server ∧ Carries none after := by
  rcases Profile.endSession_apply profile middle with ⟨journal, ended⟩
  rcases forget_ok carried.dependable with ⟨store, forgotten, lacks, still⟩
  rw [forgotten] at ended
  exact ⟨_, ended, rfl, still, lacks.read, nofun, nofun⟩

/-- A token that is kept is the current one from then on. -/
theorem Carries.keepToken (carried : Carries current middle) {s : String} (given : s ≠ "")
    (user : Value) : ∃ after, Rest.keepToken (.text s) user middle = (.ok (), after) ∧
      after.backend.server = middle.backend.server ∧ Carries (some s) after := by
  have writable : Json.Writable (.text s) := rfl
  rcases carried.dependable.exists_write (List.mem_singleton_self tokenKey) writable with
    ⟨store, written, still⟩
  rcases keepToken_ok written with ⟨journal, began⟩
  have copyable : Store.Memory.Copyable (.text s) := rfl
  have read : store.read tokenKey = .ok (.text s) := Store.read_of_write written copyable
  refine ⟨_, began, rfl, still, read, ?_, ?_⟩
  · rintro token ⟨⟩
    rfl
  · rintro token ⟨⟩
    exact given

/-! ## Replies -/

theorem replyTo_cons (request : Request) (sent : List Request) (reply : Reply) :
    replyTo (request :: sent) (.ok reply) = some reply := rfl

theorem isDenied_replyTo {sent : List Request} :
    isDenied (replyTo sent answer) = true ↔ sent ≠ [] ∧ Denies answer := by
  cases sent with
  | nil => exact iff_of_false nofun fun h => h.1 rfl
  | cons request sent =>
      cases answer with
      | error fault => exact iff_of_false nofun fun h => nomatch h.2
      | ok reply => simp [isDenied, replyTo, Except.toOption, Denies]

theorem tokenAfter_of_failure {error : String} {reply? : Option Reply} (stays : operation ≠ .signOut) :
    tokenAfter operation (.ok (.failure error)) reply? current =
      if isDenied reply? then none else current := by
  cases operation with
  | signOut => exact absurd rfl stays
  | _ => rfl

theorem tokenAfter_of_success {data : Value} {reply? : Option Reply} (enters : ¬operation.Enters)
    (stays : operation ≠ .signOut) : tokenAfter operation (.ok (.success data)) reply? current =
      if isDenied reply? then none else current := by
  cases operation with
  | signOut => exact absurd rfl stays
  | signIn email password => exact absurd trivial enters
  | signUp email password => exact absurd trivial enters
  | _ => rfl

theorem tokenAfter_of_entered {data : Value} {reply? : Option Reply} (enters : operation.Enters)
    (allowed : isDenied reply? = false) :
    tokenAfter operation (.ok (.success data)) reply? current =
      (reply?.bind Reply.token?).or current := by
  cases operation with
  | signIn email password => rw [tokenAfter, allowed]; rfl
  | signUp email password => rw [tokenAfter, allowed]; rfl
  | _ => exact enters.elim

/-- What a reply says that is no fault: the document that it has, or nothing. -/
theorem readReply_ok {reply : Reply} {url : String} {v : Value}
    (said : readReply url reply = .ok v) : (200 ≤ reply.status ∧ reply.status < 300) ∧
      (Json.decode reply.content.toList = .ok v ∨ (reply.content = "" ∧ v = .null)) := by
  unfold readReply at said
  dsimp only at said
  split at said
  · cases said
  · split at said
    · cases said
    · rename_i fine
      refine ⟨by simpa using fine, ?_⟩
      split at said
      · rename_i empty
        cases said
        exact .inr ⟨eq_of_beq empty, rfl⟩
      · split at said
        · rename_i decoded
          cases said
          exact .inl decoded
        · cases said
        · cases said

/-- The token of a grant counts as true. -/
theorem truthy_of_grant {v token user : Value} (granted : Adapter.grantOf? v = some (token, user)) :
    token.truthy = true := by
  cases v with
  | object fields =>
      unfold Adapter.grantOf? at granted
      dsimp only at granted
      split at granted
      · rename_i truthy
        cases granted
        exact truthy
      · cases granted
  | _ => cases granted

theorem token?_of_no_grant {reply : Reply} {url : String} {v : Value}
    (said : readReply url reply = .ok v) (nothing : Adapter.grantOf? v = none) :
    reply.token? = none := by
  unfold Reply.token?
  rcases (readReply_ok said).2 with decoded | ⟨empty, rfl⟩
  · rw [decoded]
    dsimp only
    rw [nothing]
  · rw [empty]
    rfl

/-- The token of a grant is the one that the reply carries. -/
theorem token?_of_grant {reply : Reply} {url : String} {v token user : Value}
    (issues : reply.IssuesTexts) (said : readReply url reply = .ok v)
    (granted : Adapter.grantOf? v = some (token, user)) :
    ∃ s, token = .text s ∧ s ≠ "" ∧ reply.token? = some s := by
  rcases readReply_ok said with ⟨⟨least, most⟩, decoded | ⟨_, rfl⟩⟩
  · rcases issues least most v token user decoded granted with ⟨s, rfl⟩
    refine ⟨s, rfl, bne_iff_ne.1 (truthy_of_grant granted), ?_⟩
    unfold Reply.token?
    rw [decoded]
    dsimp only
    rw [granted]
  · cases granted

/-! ## Operations -/

namespace Adapter

variable (adapter : Adapter)

/-- What is sent in an operation bears the current token, and afterwards the adapter carries the next
one. -/
def Conveys (operation : Operation) (answer : Except Fault Reply) (current : Option String)
    (host : Host Backend) : Prop :=
  ∃ outcome after sent, adapter.perform operation host = (outcome, after) ∧
    after.backend.server.asked = host.backend.server.asked ++ sent ∧
    (∀ request ∈ sent, request.Bears current) ∧
    Carries (tokenAfter operation outcome (replyTo sent answer) current) after

variable {adapter}

section Outcomes

variable {sent : List Request}

theorem conveys_of_ok {data : Value} (ran : adapter.body operation host = (.ok data, middle))
    (told : Asked current answer host (.ok data : Except Fault Value) middle sent)
    (carries : Carries (tokenAfter operation (.ok (.success data)) (replyTo sent answer) current)
      middle) : adapter.Conveys operation answer current host := by
  have outcome : adapter.perform operation host = (.ok (.success data), middle) := by
    rw [perform, Profile.resolve_apply rfl, ran]
  exact ⟨_, middle, sent, outcome, told.asked, told.bears, carries⟩

theorem conveys_of_error {fault : Fault} (ran : adapter.body operation host = (.error fault, middle))
    (stays : operation ≠ .signOut)
    (told : Asked current answer host (.error fault : Except Fault Value) middle sent)
    (carries : Carries current middle) : adapter.Conveys operation answer current host := by
  rcases carries.settle operation.name fault with ⟨error, after, settled, server, carried⟩
  have outcome : adapter.perform operation host = (.ok (.failure error), after) := by
    rw [perform, Profile.resolve_apply rfl, ran]
    exact settled
  have revokes : fault.revokes = isDenied (replyTo sent answer) := by
    rw [Bool.eq_iff_iff, isDenied_replyTo, ← told.revoked, revoked_error_iff]
  refine ⟨_, after, sent, outcome, ?_, told.bears, ?_⟩
  · rw [server]
    exact told.asked
  · rw [tokenAfter_of_failure stays, ← revokes]
    exact carried

end Outcomes

/-! ### Answers of signing in and signing up -/

section Entering

variable {request : Request} {reply : Reply}

/-- An answer without a grant: whether what follows fails or not, the token that was there stays. -/
theorem conveys_of_ungranted {result : Except Fault Value} (enters : operation.Enters)
    (nothing : reply.token? = none) (undenied : isDenied (replyTo [request] (.ok reply)) = false)
    (ran : adapter.body operation host = (result, middle))
    (told : Asked current (.ok reply) host result middle [request])
    (carried : Carries current middle) : adapter.Conveys operation (.ok reply) current host := by
  have stays : operation ≠ .signOut := by
    rintro rfl
    exact enters
  cases result with
  | error fault => exact conveys_of_error ran stays told carried
  | ok data =>
      refine conveys_of_ok ran told ?_
      have none : (replyTo [request] (.ok reply)).bind Reply.token? = none := nothing
      rw [tokenAfter_of_entered enters undenied, none]
      exact carried

/-- A grant: its token is the current one from then on. -/
theorem conveys_of_granted {s : String} {user : Value} (enters : operation.Enters) (given : s ≠ "")
    (issued : reply.token? = some s) (undenied : isDenied (replyTo [request] (.ok reply)) = false)
    (ran : adapter.body operation host =
      (do Rest.keepToken (.text s) user; return user : Work Value) middle)
    (asked : middle.backend.server.asked = host.backend.server.asked ++ [request])
    (bears : request.Bears current) (carried : Carries current middle) :
    adapter.Conveys operation (.ok reply) current host := by
  rcases carried.keepToken given user with ⟨after, began, server, carries⟩
  have entered : adapter.body operation host = (.ok user, after) := by
    rw [ran]
    exact Action.bind_of_ok began
  have allowed : ¬Denies (.ok reply) := by
    intro denied
    have turned := isDenied_replyTo.2 ⟨List.cons_ne_nil request [], denied⟩
    rw [undenied] at turned
    cases turned
  have unrevoked : ¬Revoked (.ok user) := not_revoked_of_spares (.ok user)
  rw [← server] at asked
  have told : Asked current (.ok reply) host (.ok user : Except Fault Value) after [request] :=
    .single asked bears (iff_of_false unrevoked allowed)
  refine conveys_of_ok entered told ?_
  have said : (replyTo [request] (.ok reply)).bind Reply.token? = some s := issued
  rw [tokenAfter_of_entered enters undenied, said]
  exact carries

end Entering

variable (carries : Carries current host) (ready : host.backend.server.answers = [answer])

include carries ready

theorem conveys_of_asks (asks : Asks current answer (adapter.body operation))
    (enters : ¬operation.Enters) (stays : operation ≠ .signOut) :
    adapter.Conveys operation answer current host := by
  rcases asks host carries ready with ⟨carried, sent, told⟩
  rcases ran : adapter.body operation host with ⟨result, middle⟩
  rw [ran] at carried told
  cases result with
  | error fault => exact conveys_of_error ran stays told carried
  | ok data =>
      have allowed : ¬isDenied (replyTo sent answer) = true := by
        rw [isDenied_replyTo, ← told.revoked]
        exact not_revoked_of_spares (.ok data)
      refine conveys_of_ok ran told ?_
      rw [tokenAfter_of_success enters stays, if_neg allowed]
      exact carried

/-- Signing in and signing up: the token of a grant is kept, and anything else is left to a step that
does nothing. -/
theorem conveys_of_enters {call : Call} {otherwise : Value → Work Value} (bare : call.Bare)
    (quiet : ∀ v, Quiet (otherwise v)) (enters : operation.Enters)
    (body : adapter.body operation = do
      let v ← adapter.call call
      match grantOf? v with
      | some (token, user) =>
        keepToken token user
        return user
      | none => otherwise v)
    (arrives : Arrives answer) (issues : ∀ reply, answer = .ok reply → reply.IssuesTexts) :
    adapter.Conveys operation answer current host := by
  have stays : operation ≠ .signOut := by
    rintro rfl
    exact enters
  rcases adapter.call_apply bare carries ready with
    ⟨request, url, middle, bears, ran, asked, _, carried⟩
  have revoked := revoked_readAnswer_iff arrives url
  cases read : readAnswer url answer with
  | error fault =>
      rw [read] at ran revoked
      refine conveys_of_error ?_ stays (.single asked bears revoked) carried
      rw [body]
      exact Action.bind_of_error ran
  | ok v =>
      cases answer with
      | error fault => cases read
      | ok reply =>
          rw [read] at ran revoked
          have allowed : ¬Denies (.ok reply) := fun denied =>
            not_revoked_of_spares (.ok v) (revoked.2 denied)
          have undenied : isDenied (replyTo [request] (.ok reply)) = false := by
            rw [← Bool.not_eq_true, isDenied_replyTo]
            exact fun denied => allowed denied.2
          cases granted : grantOf? v with
          | none =>
              have left : adapter.body operation host = otherwise v middle := by
                rw [body, Action.bind_of_ok ran, granted]
              rcases quiet v middle with ⟨same, spares⟩
              rcases ended : otherwise v middle with ⟨result, after⟩
              rw [ended] at left same spares
              subst same
              exact conveys_of_ungranted enters (token?_of_no_grant read granted) undenied left
                (.single asked bears (iff_of_false (not_revoked_of_spares spares) allowed)) carried
          | some grant =>
              rcases grant with ⟨token, user⟩
              rcases token?_of_grant (issues reply rfl) read granted with ⟨s, rfl, given, issued⟩
              have kept : adapter.body operation host =
                  (do Rest.keepToken (.text s) user; return user : Work Value) middle := by
                rw [body, Action.bind_of_ok ran, granted]
              exact conveys_of_granted enters given issued undenied kept asked bears carried

theorem conveys_signOut : adapter.Conveys .signOut answer current host := by
  have bare : Call.Bare { method := .post, path := "/auth/logout" } := rfl
  rcases adapter.call_apply bare carries ready with
    ⟨request, url, middle, bears, ran, asked, _, carried⟩
  rcases carried.endSession with ⟨after, ended, server, gone⟩
  -- the session is closed even where the call has failed
  have ensured := Action.ensuring_apply ran ended
  rw [← server] at asked
  cases read : readAnswer url answer with
  | ok v =>
      rw [read] at ensured
      have closed : adapter.body .signOut host = (.ok .null, after) := Action.bind_of_ok ensured
      refine ⟨.ok (.success .null), after, [request], ?_, asked, by simpa using bears, gone⟩
      rw [perform, Profile.resolve_apply rfl, closed]
  | error fault =>
      rw [read] at ensured
      have failed : adapter.body .signOut host = (.error fault, after) := Action.bind_of_error ensured
      rcases gone.settle Operation.signOut.name fault with ⟨error, last, settled, same, carries⟩
      refine ⟨.ok (.failure error), last, [request], ?_, ?_, by simpa using bears, ?_⟩
      · rw [perform, Profile.resolve_apply rfl, failed]
        exact settled
      · rw [same, asked]
      · rwa [ite_self] at carries

/-- One operation: what it sends bears the current token, and it leaves the next one. -/
theorem conveys_perform (arrives : Arrives answer)
    (issues : operation.Enters → ∀ reply, answer = .ok reply → reply.IssuesTexts) :
    adapter.Conveys operation answer current host := by
  have asking (enters : ¬operation.Enters) (stays : operation ≠ .signOut) :
      adapter.Conveys operation answer current host :=
    conveys_of_asks carries ready (adapter.asks_body arrives enters stays) enters stays
  cases operation with
  | signIn email password =>
      have bare : Call.Bare ⟨.post, "/auth/login", [], credentials email password, []⟩ := rfl
      have quiet (v : Value) : Quiet (Action.fail (.denied .noTokenReturned false) : Work Value) :=
        fun _ => ⟨rfl, .error rfl⟩
      exact conveys_of_enters carries ready bare quiet trivial rfl arrives (issues trivial)
  | signUp email password =>
      have bare : Call.Bare ⟨.post, "/auth/register", [], credentials email password, []⟩ := rfl
      exact conveys_of_enters carries ready bare .pure trivial rfl arrives (issues trivial)
  | signOut => exact conveys_signOut carries ready
  | _ => exact asking id nofun

end Adapter

/-! ## Runs -/

variable {adapter : Adapter} {log : List (Request × Option String)}

/-- The adapter carries the current token, and the log has all requests, each with its token. -/
theorem Adapter.Runs.carries (runs : adapter.Runs host current log) : Carries current host ∧
    log.map (·.1) = host.backend.server.asked ∧ ∀ entry ∈ log, entry.1.Bears entry.2 := by
  induction runs with
  | start absent silent dependable empty =>
      refine ⟨⟨dependable, empty, ?_, nofun⟩, silent.symm, nofun⟩
      rw [session_eq_none_iff.1 absent]
      nofun
  | @call host after current log operation answer outcome runs arrives issues ran ih =>
      rcases ih with ⟨carries, all, bear⟩
      have ready : Carries current (expecting answer host) := carries.congr rfl carries.held
      rcases Adapter.conveys_perform ready rfl arrives issues with
        ⟨ended, last, sent, performed, asked, bears, carried⟩
      cases ran.symm.trans performed
      have between : sentBetween host after = sent := sentBetween_of_asked asked
      rw [between]
      -- the log grows by what was sent, all of it under the token from before the operation
      have named : (sent.map (·, current)).map (·.1) = sent := by simp [Function.comp_def]
      refine ⟨carried, ?_, ?_⟩
      · rw [List.map_append, named, all]
        exact asked.symm
      · rw [List.forall_mem_append]
        refine ⟨bear, ?_⟩
        rintro entry member
        rcases List.mem_map.1 member with ⟨request, listed, rfl⟩
        exact bears request listed
  | restart runs ih =>
      rcases ih with ⟨carries, all, bear⟩
      exact ⟨carries.congr rfl nofun, all, bear⟩

/-- Every request bears the token that was current when it was sent, or none if there was none. -/
theorem requests_bear_current (runs : adapter.Runs host current log) :
    log.map (·.1) = host.backend.server.asked ∧
      ∀ request token?, (request, token?) ∈ log →
        Fields.get? request.headers "Authorization" = token?.map ("Bearer " ++ ·) :=
  ⟨runs.carries.2.1, fun _ _ member => runs.carries.2.2 _ member⟩

/-! ## A run -/

/-- An empty store of either kind will do to start with. -/
theorem Adapter.runs_fresh (adapter : Adapter) {store : Store}
    (empty : store = .memory [] ∨ store = .directory {}) :
    adapter.Runs { backend := { store } } none [] := by
  rcases empty with rfl | rfl
  · exact .start rfl rfl (Store.dependable_memory _ _) rfl
  · have storable : Store.Directory.Storable tokenKey := ⟨by decide, by decide, by decide⟩
    exact .start rfl rfl (Store.dependable_files (by simpa using storable) ⟨_, rfl, nofun⟩) rfl

/-- A reply with a token and nothing else. -/
def granting : Reply := ⟨200, "", "\x7b\"token\": \"t\"\x7d"⟩

theorem decode_granting :
    Json.decode granting.content.toList = .ok (.object [("token", .text "t")]) := by
  -- a list of characters is read faster than the text that it is the list of
  have chars : granting.content.toList =
      ['\x7b', '"', 't', 'o', 'k', 'e', 'n', '"', ':', ' ', '"', 't', '"', '\x7d'] := by rfl
  rw [chars]
  rfl

/-- An adapter for a server on this machine. -/
def nearby : Adapter := ⟨⟨"http://localhost"⟩, .null⟩

/-- The request of signing in. -/
def loginRequest : Request where
  method := .post
  url := "http://localhost/auth/login"
  body := Adapter.credentials (.text "a") (.text "b")
  headers := [("Content-Type", "application/json")]
  timeout := .null

/-- The request for the rows of a table. -/
def usersRequest : Request where
  method := .get
  url := "http://localhost/users"
  body := .null
  headers := [("Content-Type", "application/json"), ("Authorization", "Bearer t")]
  timeout := .null

/-- What signing in leaves. -/
def signedIn : Host Backend where
  session := some ⟨.text "t", .object []⟩
  journal := [⟨.info, "http: session started"⟩]
  backend := { server := ⟨[loginRequest], []⟩, store := .memory [(tokenKey, .text "t")] }

/-- What asking for the rows of a table leaves, in an adapter that has been restarted in between. -/
def restored : Host Backend where
  session := some ⟨.text "t", .object []⟩
  journal := [⟨.info, "http: session started"⟩]
  backend :=
    { server := ⟨[loginRequest, usersRequest], []⟩, store := .memory [(tokenKey, .text "t")] }

theorem select_restored : nearby.perform (.select (.text "users") (.text "*") (.other .null))
    (expecting (.ok emptyReply) { backend := signedIn.backend }) =
      (.ok (.success (.list [])), restored) := by rfl

theorem signIn_granting : nearby.perform (.signIn (.text "a") (.text "b"))
    (expecting (.ok granting) { backend := { store := .memory [] } }) =
      (.ok (.success (.object [])), signedIn) := by
  have said : readReply "http://localhost/auth/login" granting =
      .ok (.object [("token", .text "t")]) := by
    unfold readReply
    rw [decode_granting]
    rfl
  have called : nearby.call ⟨.post, "/auth/login", [], loginRequest.body, []⟩
      (expecting (.ok granting) { backend := { store := .memory [] } }) =
        (.ok (.object [("token", .text "t")]),
          { backend := { signedIn.backend with store := .memory [] } }) := by
    rw [← said]
    rfl
  have ran : nearby.body (.signIn (.text "a") (.text "b"))
      (expecting (.ok granting) { backend := { store := .memory [] } }) =
        (.ok (.object []), signedIn) := (Action.bind_of_ok called).trans rfl
  rw [Adapter.perform, Profile.resolve_apply rfl, ran]

theorem issuesTexts_granting : granting.IssuesTexts := by
  intro _ _ v token user decoded granted
  rw [decode_granting] at decoded
  cases decoded
  cases granted
  exact ⟨"t", rfl⟩

theorem issued_granting : granting.token? = some "t" := by
  rw [Reply.token?, decode_granting]
  rfl

/-- Signing in sends no token; after a restart the next request bears the one that was issued. -/
theorem requests_bear_current_restart :
    nearby.Runs restored (some "t") [(loginRequest, none), (usersRequest, some "t")] ∧
      Fields.get? loginRequest.headers "Authorization" = none ∧
      Fields.get? usersRequest.headers "Authorization" = some "Bearer t" := by
  have arrives (reply : Reply) : Arrives (.ok reply) := trivial
  have enters : Operation.Enters (.signIn (.text "a") (.text "b")) := trivial
  have issues (_ : Operation.Enters (.signIn (.text "a") (.text "b"))) (reply : Reply)
      (same : (.ok granting : Except Fault Reply) = .ok reply) : reply.IssuesTexts := by
    cases same
    exact issuesTexts_granting
  have signed := (nearby.runs_fresh (.inl rfl)).call (arrives granting) issues signIn_granting
  have login : sentBetween { backend := { store := .memory [] } } signedIn = [loginRequest] := rfl
  rw [login, tokenAfter_of_entered enters rfl, replyTo_cons, Option.bind_some,
    issued_granting] at signed
  have asked := signed.restart.call (arrives emptyReply) False.elim select_restored
  have users : sentBetween { backend := signedIn.backend } restored = [usersRequest] := rfl
  rw [users] at asked
  have bears := (requests_bear_current asked).2
  refine ⟨asked, ?_, ?_⟩
  · exact bears loginRequest none (by simp)
  · exact bears usersRequest (some "t") (by simp)

end DataGateway.Rest
