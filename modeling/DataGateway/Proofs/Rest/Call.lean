import DataGateway.Proofs.Fault.Sparing
import DataGateway.Proofs.Rest.Session

/-!
# What a call says and what comes back

A call sends one request, and the request carries the token of the session in its header. The token may
be in memory, in the store, or in both: `Carries` says that both agree.

* `Carries` — which token an adapter carries from one operation to the next;
* `Adapter.call_apply` — the request of a call, and what is made of the answer;
* `Asks` — a step that carries a token, says it in all of its requests, and fails with a fault that
  revokes exactly when the server denies the token;
* `asks_body` — all operations but those that begin or end a session ask.
-/

namespace DataGateway.Rest

variable {α β : Type} {current : Option String} {answer : Except Fault Reply}
  {host middle after : Host Backend}

/-! ## Tokens -/

/-- The token in the store, null if there is none. -/
def storedToken (current : Option String) : Value := (current.map Value.text).getD .null

/-- Does a request carry a token, or none if there is none? -/
def Request.Bears (request : Request) (current : Option String) : Prop :=
  Fields.get? request.headers "Authorization" = current.map ("Bearer " ++ ·)

/-- The store has the token, and so has the session, if there is one. -/
structure Carries (current : Option String) (host : Host Backend) : Prop where
  dependable : host.backend.store.Dependable [tokenKey]
  stored : host.backend.store.read tokenKey = .ok (storedToken current)
  held : ∀ token ∈ host.token?, current.map Value.text = some token
  given : ∀ token ∈ current, token ≠ ""

theorem Carries.congr (carries : Carries current host)
    (store : after.backend.store = host.backend.store)
    (held : ∀ token ∈ after.token?, current.map Value.text = some token) : Carries current after where
  dependable := by
    rw [store]
    exact carries.dependable
  stored := by
    rw [store]
    exact carries.stored
  held := held
  given := carries.given

theorem tokenOf?_storedToken (given : ∀ token ∈ current, token ≠ "") :
    tokenOf? (storedToken current) = current.map Value.text := by
  cases current with
  | none => rfl
  | some token => exact tokenOf?_eq_some_iff.2 ⟨token, rfl, given token rfl, rfl⟩

/-- After the token has been taken up, the session has it. -/
theorem Carries.restore (carries : Carries current host) :
    ∃ session journal, restoreSession host = (.ok (), { host with session, journal }) ∧
      session.map (·.token) = current.map Value.text := by
  have offered := tokenOf?_storedToken carries.given
  cases present : host.session with
  | some session =>
      have token : host.token? = some session.token := by rw [Host.token?, present]; rfl
      refine ⟨host.session, host.journal, restoreSession_present present, ?_⟩
      rw [carries.held _ token]
      exact token
  | none =>
      cases said : current.map Value.text with
      | none =>
          rw [said] at offered
          refine ⟨host.session, host.journal, restoreSession_nothing present carries.stored offered, ?_⟩
          rw [present]
          rfl
      | some token =>
          rw [said] at offered
          rcases restoreSession_offered present carries.stored offered with ⟨journal, ran⟩
          exact ⟨_, journal, ran, rfl⟩

/-! ## Answers -/

/-- What a call makes of an answer. -/
def readAnswer (url : String) : Except Fault Reply → Except Fault Value
  | .ok reply => readReply url reply
  | .error fault => .error (sendFault url fault)

/-- Does an answer turn the token down? -/
def Denies (answer : Except Fault Reply) : Prop := ∃ reply, answer = .ok reply ∧ reply.status = 401

/-- Is there a reply, or has the network failed? -/
def Arrives : Except Fault Reply → Prop
  | .ok _ => True
  | .error fault => ∃ incident, fault = .incident incident ∧ incident.kind.isTransport = true

/-- Is it a fault that ends the session? -/
def Revoked (result : Except Fault α) : Prop := ∃ fault, result = .error fault ∧ fault.revokes = true

theorem not_revoked_of_spares {result : Except Fault α} (spares : Spares result) : ¬Revoked result := by
  rintro ⟨fault, failed, revokes⟩
  rw [spares fault failed] at revokes
  cases revokes

theorem revoked_error_iff {fault : Fault} :
    Revoked (.error fault : Except Fault α) ↔ fault.revokes = true := by
  constructor
  · rintro ⟨_, same, revokes⟩
    cases same
    exact revokes
  · exact fun revokes => ⟨fault, rfl, revokes⟩

theorem readReply_denied {reply : Reply} (denied : reply.status = 401) (url : String) :
    ∃ denial, readReply url reply = .error (.denied denial true) := by
  unfold readReply
  dsimp only
  rw [if_pos (beq_iff_eq.2 denied)]
  exact ⟨_, rfl⟩

theorem readReply_allowed {reply : Reply} (allowed : reply.status ≠ 401) (url : String) :
    Spares (readReply url reply) := by
  unfold readReply
  dsimp only
  rw [if_neg (by simpa using allowed)]
  refine .ite (.error rfl) (.ite (.ok _) ?_)
  split
  · exact .ok _
  · exact .error rfl
  · exact .error rfl

/-- A call revokes the session exactly when the server says so. -/
theorem revoked_readAnswer_iff (arrives : Arrives answer) (url : String) :
    Revoked (readAnswer url answer) ↔ Denies answer := by
  cases answer with
  | error fault =>
      rcases arrives with ⟨incident, rfl, transport⟩
      have spared : Spares (readAnswer url (.error (.incident incident))) := by
        rw [readAnswer, sendFault, if_pos transport]
        exact .error rfl
      exact iff_of_false (not_revoked_of_spares spared) nofun
  | ok reply =>
      by_cases denied : reply.status = 401
      · rcases readReply_denied denied url with ⟨denial, said⟩
        rw [readAnswer, said]
        exact iff_of_true ⟨_, rfl, rfl⟩ ⟨reply, rfl, denied⟩
      · refine iff_of_false (not_revoked_of_spares (readReply_allowed denied url)) ?_
        rintro ⟨_, same, other⟩
        cases same
        exact denied other

/-! ## Calls -/

/-- Has an operation of its own nothing to say about access? -/
def Call.Bare (call : Call) : Prop := Fields.get? call.headers "Authorization" = none

theorem headersFor_bears {session : Option Session} {call : Call} (bare : call.Bare)
    (given : ∀ token ∈ current, token ≠ "")
    (token : session.map (·.token) = current.map Value.text) :
    Fields.get? (headersFor session call.headers) "Authorization" = current.map ("Bearer " ++ ·) := by
  have plain : Fields.get? (Fields.merge [("Content-Type", "application/json")] call.headers)
      "Authorization" = none := Fields.get?_merge_of_absent bare
  cases session with
  | none =>
      cases current with
      | none => exact plain
      | some said => cases token
  | some session =>
      cases current with
      | none => cases token
      | some said =>
          have same : session.token = .text said := Option.some.inj token
          have truthy : session.token.truthy = true := by
            rw [same]
            exact bne_iff_ne.2 (given said rfl)
          unfold headersFor
          dsimp only
          rw [if_pos truthy, Fields.get?_set_self, same]
          rfl

theorem send_apply {backend : Backend} (request : Request)
    (ready : backend.server.answers = [answer]) : Backend.send request backend =
      (answer, { backend with server := ⟨backend.server.asked ++ [request], []⟩ }) := by
  rcases backend with ⟨⟨asked, answers⟩, store⟩
  cases ready
  cases answer <;> rfl

namespace Adapter

variable (adapter : Adapter)

/-- The request of a call. -/
def requestFor (session : Option Session) (call : Call) : Request where
  method := call.method
  url := adapter.base.url call.path call.pairs
  body := call.body
  headers := headersFor session call.headers
  timeout := adapter.timeout

/-- Once the token has been taken up, a call sends its request and reads the answer. -/
theorem call_of_restored {session : Option Session} {journal : List LogLine}
    (restored : restoreSession host = (.ok (), { host with session, journal })) (call : Call) :
    let sent := Backend.send (adapter.requestFor session call) host.backend
    adapter.call call host = (readAnswer (adapter.base.url call.path call.pairs) sent.1,
      { session, journal, backend := sent.2 }) := by
  intro sent
  rcases answered : sent with ⟨result, backend⟩
  have step : (Host.onBackend (Backend.send (adapter.requestFor session call))).attempt
      { host with session, journal } = (.ok result, { session, journal, backend }) := by
    rw [Action.attempt_apply, Host.onBackend_apply]
    exact congrArg (fun sent : Except Fault Reply × Backend =>
      (Except.ok sent.1, ({ session, journal, backend := sent.2 } : Host Backend))) answered
  unfold Adapter.call
  rw [Action.bind_of_ok restored, Action.bind_get]
  refine (Action.bind_of_ok step).trans ?_
  cases result <;> rfl

/-- A call sends one request, which bears the token, and makes a value or a fault of the answer. -/
theorem call_apply {call : Call} (bare : call.Bare)
    (carries : Carries current host) (ready : host.backend.server.answers = [answer]) :
    ∃ request url after, request.Bears current ∧
      adapter.call call host = (readAnswer url answer, after) ∧
      after.backend.server.asked = host.backend.server.asked ++ [request] ∧
      after.token? = current.map Value.text ∧ Carries current after := by
  rcases carries.restore with ⟨session, journal, restored, token⟩
  have ran := adapter.call_of_restored restored call
  rw [send_apply _ ready] at ran
  exact ⟨adapter.requestFor session call, _, _, headersFor_bears bare carries.given token, ran, rfl,
    token, carries.congr rfl fun said has => token.symm.trans has⟩

end Adapter

/-! ## Steps that ask -/

/-- What was sent between two states, and what became of it. -/
structure Asked (current : Option String) (answer : Except Fault Reply) (host : Host Backend)
    (result : Except Fault α) (after : Host Backend) (sent : List Request) : Prop where
  asked : after.backend.server.asked = host.backend.server.asked ++ sent
  bears : ∀ request ∈ sent, request.Bears current
  revoked : Revoked result ↔ sent ≠ [] ∧ Denies answer

/-- The step carries the token, says it in its requests, and is revoked when the server says so. -/
def Asks (current : Option String) (answer : Except Fault Reply) (step : Work α) : Prop :=
  ∀ host, Carries current host → host.backend.server.answers = [answer] →
    Carries current (step host).2 ∧ ∃ sent, Asked current answer host (step host).1 (step host).2 sent

/-- The step does nothing, and its faults spare the session. -/
def Quiet (step : Work α) : Prop := ∀ host, (step host).2 = host ∧ Spares (step host).1

theorem Quiet.pure (a : α) : Quiet (Pure.pure a) := fun _ => ⟨rfl, .ok a⟩

theorem Quiet.ofExcept {result : Except Fault α} (spares : Spares result) :
    Quiet (Action.ofExcept result) := fun _ => ⟨rfl, spares⟩

/-- Where nothing was sent, nothing can have been turned down. -/
theorem Asked.silent {result : Except Fault α} (spares : Spares result)
    (same : after.backend = host.backend) : Asked current answer host result after [] where
  asked := by rw [same, List.append_nil]
  bears := nofun
  revoked := iff_of_false (not_revoked_of_spares spares) fun h => h.1 rfl

/-- Of one request that bears the token, all there is to know is whether it was turned down. -/
theorem Asked.single {result : Except Fault α} {request : Request}
    (asked : after.backend.server.asked = host.backend.server.asked ++ [request])
    (bears : request.Bears current) (revoked : Revoked result ↔ Denies answer) :
    Asked current answer host result after [request] where
  asked := asked
  bears := by simpa using bears
  revoked := by simpa using revoked

theorem Quiet.asks {step : Work α} (quiet : Quiet step) : Asks current answer step := by
  intro host carries _
  rcases quiet host with ⟨same, spares⟩
  rw [same]
  exact ⟨carries, [], .silent spares rfl⟩

/-- What is done with the result does not matter, as long as it does nothing itself. -/
theorem Asks.bind {x : Work α} {f : α → Work β} (first : Asks current answer x)
    (next : ∀ a, Quiet (f a)) : Asks current answer (x >>= f) := by
  intro host carries ready
  rcases first host carries ready with ⟨carried, sent, told⟩
  rcases ran : x host with ⟨result, middle⟩
  rw [ran] at carried told
  cases result with
  | error fault =>
      rw [Action.bind_of_error ran]
      have revoked := revoked_error_iff.symm.trans told.revoked
      exact ⟨carried, sent, told.asked, told.bears, revoked_error_iff.trans revoked⟩
  | ok a =>
      rcases next a middle with ⟨same, spares⟩
      have allowed : ¬(sent ≠ [] ∧ Denies answer) := fun denied =>
        not_revoked_of_spares (.ok a) (told.revoked.2 denied)
      rw [Action.bind_of_ok ran, same]
      exact ⟨carried, sent, told.asked, told.bears,
        iff_of_false (not_revoked_of_spares spares) allowed⟩

theorem Asks.map {x : Work α} (g : α → β) (first : Asks current answer x) :
    Asks current answer (g <$> x) := by
  rw [Action.map_eq_bind]
  exact first.bind fun a => .pure (g a)

/-! ## Arguments -/

theorem spares_operandText (operand : Value) : Spares (operandText operand) := by
  unfold operandText
  split
  · exact .ok _
  · exact operand.spares_printed

theorem spares_pairsOf (spec : Spec) : Spares (pairsOf spec) := by
  induction spec with
  | nil => exact .ok _
  | cons entry spec ih =>
      rcases entry with ⟨column, condition⟩
      cases condition with
      | eq operand => exact .bind (spares_operandText operand) fun _ => .bind ih fun _ => .ok _
      | _ => exact .error rfl

theorem spares_selectionPairs (columns : Value) : Spares (selectionPairs columns) := by
  refine .bind (Selection.spares_ofValue columns) fun selection => ?_
  cases selection <;> exact .ok _

theorem spares_orderPairs (ordering : Option Query.Ordering) : Spares (orderPairs ordering) := by
  cases ordering with
  | none => exact .ok _
  | some ordering => exact .bind ordering.column.spares_printed fun _ => .ok _

theorem spares_boundPairs (name : String) (bound : Option Query.Bound) :
    Spares (boundPairs name bound) := by
  cases bound with
  | none => exact .ok _
  | some bound => exact .bind bound.toValue.spares_printed fun _ => .ok _

theorem spares_pagePairs (single : Bool) (limit offset : Option Query.Bound) :
    Spares (pagePairs single limit offset) :=
  .bind (spares_boundPairs _ _) fun _ => .bind (spares_boundPairs _ _) fun _ => .ok _

theorem spares_segmentOf (missing : Refusal) (name : Value) : Spares (segmentOf missing name) := by
  refine .ite (.error rfl) ?_
  cases name with
  | text s => exact .ok _
  | octets bytes => exact .ok _
  | _ => exact .error rfl

theorem spares_tablePath (table : Value) : Spares (tablePath table) :=
  .bind (spares_segmentOf _ table) fun _ => .ok _

theorem spares_functionPath (name : Value) : Spares (functionPath name) :=
  .bind (spares_segmentOf _ name) fun _ => .ok _

theorem spares_countOf (answer : Value) : Spares (Adapter.countOf answer) :=
  .bind (Value.spares_asWhole _) fun _ => .ok _

/-- Does working out a call spare the session, and has the call nothing to say about access? -/
structure Fair (call : Except Fault Call) : Prop where
  spares : Spares call
  bare : ∀ c, call = .ok c → c.Bare

namespace Fair

theorem ok {call : Call} (bare : call.Bare) : Fair (.ok call) where
  spares := .ok call
  bare := by
    rintro _ ⟨⟩
    exact bare

theorem bind {x : Except Fault α} {f : α → Except Fault Call} (first : Spares x)
    (next : ∀ a, Fair (f a)) : Fair (x >>= f) where
  spares := first.bind fun a => (next a).spares
  bare c said := by
    rcases bind_eq_ok_iff.1 said with ⟨a, _, said⟩
    exact (next a).bare c said

end Fair

/-! ## Operations -/

theorem asks_isAuthenticated : Asks current answer Adapter.isAuthenticated := by
  intro host carries ready
  rcases carries.restore with ⟨session, journal, restored, token⟩
  have carried : Carries current { host with session, journal } :=
    carries.congr rfl fun said has => token.symm.trans has
  unfold Adapter.isAuthenticated
  rw [Action.bind_of_ok restored]
  exact ⟨carried, [], .silent (.ok _) rfl⟩

namespace Adapter

variable (adapter : Adapter) (arrives : Arrives answer)

include arrives

theorem asks_call {call : Call} (bare : call.Bare) : Asks current answer (adapter.call call) := by
  intro host carries ready
  rcases adapter.call_apply bare carries ready with
    ⟨request, url, after, bears, ran, asked, _, carried⟩
  rw [ran]
  exact ⟨carried, [request], .single asked bears (revoked_readAnswer_iff arrives url)⟩

theorem asks_callFor {call : Except Fault Call} (fair : Fair call) :
    Asks current answer (adapter.callFor call) := by
  cases call with
  | error fault => exact Quiet.asks (.ofExcept (.error (fair.spares fault rfl)))
  | ok call => exact adapter.asks_call arrives (fair.bare call rfl)

theorem asks_rows {call : Except Fault Call} (fair : Fair call) :
    Asks current answer (adapter.rows call) :=
  (adapter.asks_callFor arrives fair).bind fun _ => .pure _

/-- Where nobody is signed in nothing is sent, and a user who comes back is nobody else's token. -/
theorem asks_currentUser : Asks current answer adapter.currentUser := by
  intro host carries ready
  rcases carries.restore with ⟨session, journal, restored, token⟩
  have carried : Carries current { host with session, journal } :=
    carries.congr rfl fun said has => token.symm.trans has
  unfold currentUser
  rw [Action.bind_of_ok restored]
  cases session with
  | none => exact ⟨carried, [], .silent (.error rfl) rfl⟩
  | some session =>
      have found : Host.requireSession { host with session := some session, journal } =
          (.ok session, { host with session := some session, journal }) := rfl
      have bare : Call.Bare { method := .get, path := "/auth/me" } := rfl
      rcases adapter.call_apply bare carried ready with
        ⟨request, url, after, bears, ran, asked, _, carries⟩
      have revoked := revoked_readAnswer_iff arrives url
      rw [Action.bind_of_ok found]
      cases read : readAnswer url answer with
      | error fault =>
          rw [read] at ran revoked
          rw [Action.bind_of_error ran]
          exact ⟨carries, [request], .single asked bears revoked⟩
      | ok user =>
          rw [read] at ran revoked
          rw [Action.bind_of_ok ran]
          -- the session that is renewed is the one from before the call, with its token
          exact ⟨carries.congr rfl fun said has => token.symm.trans has, [request],
            .single asked bears revoked⟩

theorem asks_select (table columns : Value) (filters : Filters) :
    Asks current answer (adapter.select table columns filters) :=
  adapter.asks_rows arrives <| .bind filters.spares_parse fun _ => .bind (spares_pairsOf _) fun _ =>
    .bind (spares_selectionPairs columns) fun _ => .bind (spares_tablePath table) fun _ => .ok rfl

theorem asks_selectOne (table columns : Value) (filters : Filters) :
    Asks current answer (adapter.selectOne table columns filters) :=
  Asks.map _ <| adapter.asks_callFor arrives <| .bind filters.spares_parse fun _ =>
    .bind (spares_pairsOf _) fun _ => .bind (spares_selectionPairs columns) fun _ =>
      .bind (spares_tablePath table) fun _ => .ok rfl

theorem asks_query (table : Value) (options : Query.Options) :
    Asks current answer (adapter.query table options) := by
  have fair : Fair (do
      let checked ← options.check
      let filterPairs ← pairsOf checked.spec
      let pairs := filterPairs ++ (← selectionPairs options.select) ++
        (← orderPairs options.ordering) ++
        (← pagePairs options.single.truthy checked.limit checked.offset)
      return { method := .get, path := ← tablePath table, pairs }) :=
    .bind options.spares_check fun _ => .bind (spares_pairsOf _) fun _ =>
      .bind (spares_selectionPairs _) fun _ => .bind (spares_orderPairs _) fun _ =>
        .bind (spares_pagePairs _ _ _) fun _ => .bind (spares_tablePath table) fun _ => .ok rfl
  refine (adapter.asks_rows arrives fair).bind fun rows => ?_
  cases options.single.truthy with
  | false => exact .pure _
  | true => exact .ofExcept (spares_firstOrNull rows)

theorem asks_count (table : Value) (filters : Filters) :
    Asks current answer (adapter.count table filters) := by
  refine Asks.bind (adapter.asks_callFor arrives ?_) fun answer => .ofExcept (spares_countOf answer)
  exact .bind filters.spares_parse fun _ => .bind (spares_pairsOf _) fun _ =>
    .bind (spares_tablePath table) fun _ => .ok rfl

theorem asks_insertMany (table rows : Value) :
    Asks current answer (adapter.insertMany table rows) := by
  refine adapter.asks_rows arrives ?_
  have listed : Fair (do
      return { method := .post, path := ← tablePath table, body := .list (← rows.elements) }) :=
    .bind (spares_tablePath table) fun _ => .bind rows.spares_elements fun _ => .ok rfl
  cases rows.isObject with
  | true => exact .bind (.error rfl) fun _ => listed
  | false => exact listed

/-- All operations but those that begin or end a session ask. -/
theorem asks_body {operation : Operation} (enters : ¬operation.Enters) (stays : operation ≠ .signOut) :
    Asks current answer (adapter.body operation) := by
  cases operation with
  | select table columns filters => exact adapter.asks_select arrives table columns filters
  | selectOne table columns filters => exact adapter.asks_selectOne arrives table columns filters
  | query table options => exact adapter.asks_query arrives table options
  | count table filters => exact adapter.asks_count arrives table filters
  | insert table data =>
      exact adapter.asks_callFor arrives (.bind (spares_tablePath table) fun _ => .ok rfl)
  | insertMany table rows => exact adapter.asks_insertMany arrives table rows
  | update table filters patch =>
      exact adapter.asks_rows arrives <| .bind filters.spares_parse fun _ =>
        .bind (spares_pairsOf _) fun _ => .bind (spares_tablePath table) fun _ => .ok rfl
  | delete table filters =>
      exact adapter.asks_rows arrives <| .bind filters.spares_parse fun _ =>
        .bind (spares_pairsOf _) fun _ => .bind (spares_tablePath table) fun _ => .ok rfl
  | upsert table data =>
      exact adapter.asks_callFor arrives (.bind (spares_tablePath table) fun _ => .ok rfl)
  | rpc name params =>
      exact adapter.asks_callFor arrives (.bind (spares_functionPath name) fun _ => .ok rfl)
  | signIn email password => exact absurd trivial enters
  | signUp email password => exact absurd trivial enters
  | signOut => exact absurd rfl stays
  | currentUser => exact adapter.asks_currentUser arrives
  | isAuthenticated => exact asks_isAuthenticated

end Adapter

end DataGateway.Rest
