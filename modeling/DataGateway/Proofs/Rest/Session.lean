import DataGateway.Proofs.Gateway.Session
import DataGateway.Proofs.Rest.Run
import DataGateway.Proofs.Store.Entry

/-!
# Sessions of the REST adapter

The token of a session is kept in a store under one key. Every request takes it up again if there is no
session, so a failed request can have one behind it that did not begin before.

* `keeping` — what the store keeps of a session;
* `Idle` — a step that neither begins nor ends a session;
* `behaves_body` — what each operation does to the session.
-/

namespace DataGateway.Rest

variable {α : Type} {host : Host Backend}

/-! ## The token in the store -/

/-- The token that a value from the store says. -/
def tokenOf? : Value → Option Value
  | .text token => if token != "" then some (.text token) else none
  | _ => none

theorem tokenOf?_eq_some_iff {v token : Value} :
    tokenOf? v = some token ↔ ∃ s, v = .text s ∧ s ≠ "" ∧ token = .text s := by
  cases v with
  | text s =>
      by_cases empty : s = ""
      · simp [tokenOf?, empty]
      · have said : tokenOf? (.text s) = some (.text s) := by simp [tokenOf?, empty]
        rw [said]
        constructor
        · intro same
          cases same
          exact ⟨s, rfl, empty, rfl⟩
        · rintro ⟨other, same, _, rfl⟩
          rw [same]
  | _ => simp [tokenOf?]

/-- The token is offered, listed, or out of the store. -/
def keeping : Keeping Backend where
  offered? backend := (backend.store.read tokenKey).toOption.bind tokenOf?
  Kept backend := backend.store.Lists tokenKey
  Gone backend := backend.store.Lacks tokenKey
  Sound backend := backend.store.Dependable [tokenKey]

/-- A step that neither begins nor ends a session. -/
abbrev Idle (step : Work α) : Prop := Holding keeping step

theorem spared_of_store {before after : Backend} (same : after.store = before.store) :
    Spared keeping before after := by
  rcases before with ⟨server, store⟩
  rcases after with ⟨other, _⟩
  cases same
  exact ⟨fun kept => kept, fun sound => sound⟩

theorem forget_apply (backend : Backend) : profile.forget backend = (do
    let gone ← Action.ofExcept (backend.store.remove tokenKey)
    set { backend with store := gone.2 } : Action Backend Unit) backend := rfl

theorem forget_ok {backend : Backend} (sound : keeping.Sound backend) :
    ∃ store, profile.forget backend = (.ok (), { backend with store }) ∧
      store.Lacks tokenKey ∧ store.Dependable [tokenKey] := by
  rcases Store.Dependable.exists_remove sound (List.mem_singleton_self tokenKey) with
    ⟨removed, store, gone, still, lacks⟩
  exact ⟨store, Action.ofExcept_bind_ok gone _ backend, lacks, still⟩

theorem forgets : Forgets keeping profile := by
  intro backend sound
  rcases forget_ok sound with ⟨store, forgotten, lacks, still⟩
  exact ⟨{ backend with store }, forgotten, lacks, still⟩

section Restoring

theorem restoreSession_present {session : Session} (present : host.session = some session) :
    restoreSession host = (.ok (), host) := by
  unfold restoreSession
  rw [Action.bind_get, present]
  rfl

variable (absent : host.session = none)

include absent

theorem restoreSession_unread {fault : Fault}
    (failed : host.backend.store.read tokenKey = .error fault) : restoreSession host = (.error fault, host) := by
  unfold restoreSession
  rw [Action.bind_get, absent]
  exact Action.ofExcept_bind_error failed _ host

theorem restoreSession_nothing {v : Value} (found : host.backend.store.read tokenKey = .ok v)
    (nothing : tokenOf? v = none) : restoreSession host = (.ok (), host) := by
  unfold restoreSession
  rw [Action.bind_get, absent]
  refine (Action.ofExcept_bind_ok found _ host).trans ?_
  cases v with
  | text s =>
      by_cases empty : s = ""
      · subst empty
        rfl
      · cases nothing.symm.trans (tokenOf?_eq_some_iff.2 ⟨s, rfl, empty, rfl⟩)
  | _ => rfl

theorem restoreSession_offered {v token : Value} (found : host.backend.store.read tokenKey = .ok v)
    (offered : tokenOf? v = some token) : ∃ journal, restoreSession host =
      (.ok (), { host with session := some ⟨token, .object []⟩, journal }) := by
  rcases tokenOf?_eq_some_iff.1 offered with ⟨s, rfl, given, rfl⟩
  have start : restoreSession host = profile.startSession (.text s) (.object []) host := by
    unfold restoreSession
    rw [Action.bind_get, absent]
    refine (Action.ofExcept_bind_ok found _ host).trans ?_
    simp only [bne_iff_ne.2 given, if_true]
  exact ⟨_, start⟩

end Restoring

/-- The session that there is goes on, and without one the offered token is taken up. -/
theorem resuming_restoreSession : Resuming keeping restoreSession := by
  intro host
  have idle {result : Except Fault Unit} (ran : restoreSession host = (result, host)) :
      Resumes keeping host (restoreSession host).2 := by
    rw [ran]
    exact Holds.resumes (refl_of (Holds keeping) host)
  cases current : host.session with
  | some session => exact idle (restoreSession_present current)
  | none =>
      cases found : host.backend.store.read tokenKey with
      | error fault => exact idle (restoreSession_unread current found)
      | ok v =>
          cases offered : tokenOf? v with
          | none => exact idle (restoreSession_nothing current found offered)
          | some token =>
              rcases restoreSession_offered current found offered with ⟨journal, ran⟩
              have offers : keeping.offered? host.backend = some token := by
                simp only [keeping, found, Except.toOption, Option.bind_some, offered]
              rw [ran]
              exact ⟨.refl host.backend, .inr ⟨current, offers.symm⟩⟩

/-- A token that can be stored begins a session. -/
theorem keepToken_ok {token user : Value} {store : Store}
    (written : host.backend.store.write tokenKey token = .ok store) :
    ∃ journal, keepToken token user host =
      (.ok (), { session := some ⟨token, user⟩, journal, backend := { host.backend with store } }) := by
  unfold keepToken
  rw [Action.bind_get, Action.ofExcept_bind_ok written]
  exact ⟨_, rfl⟩

theorem starting_keepToken (token user data : Value) : Starting keeping (do
    keepToken token user
    return data) := by
  intro host sound
  cases written : host.backend.store.write tokenKey token with
  | error fault =>
      -- a token that cannot be stored changes nothing
      have ran : keepToken token user host = (.error fault, host) := by
        unfold keepToken
        rw [Action.bind_get, Action.ofExcept_bind_error written]
      rw [Action.bind_of_error ran]
      have same := refl_of (Holds keeping) host
      exact ⟨same.lives, fun _ _ _ => same⟩
  | ok store =>
      rcases keepToken_ok written with ⟨journal, ran⟩
      rw [Action.bind_of_ok ran]
      have still := sound.step (.write (List.mem_singleton_self tokenKey) written)
      exact ⟨⟨⟨fun kept => Store.lists_write written kept, fun _ => still⟩, fun _ => nofun⟩, nofun⟩

/-! ## Requests -/

theorem idle_send (request : Request) : Idle (Host.onBackend (Backend.send request)) :=
  holding_onBackend fun _ => spared_of_store rfl

namespace Adapter

variable (adapter : Adapter)

theorem resuming_call (call : Call) : Resuming keeping (adapter.call call) := by
  refine Resuming.bind resuming_restoreSession fun _ => .bind .get fun _ => ?_
  refine .bind (.attempt (idle_send _)) fun result => ?_
  cases result with
  | error fault => exact .fail _
  | ok reply => exact .ofExcept _

theorem resuming_callFor (call : Except Fault Call) : Resuming keeping (adapter.callFor call) :=
  resuming_ofExcept adapter.resuming_call

theorem resuming_rows (call : Except Fault Call) : Resuming keeping (adapter.rows call) :=
  Resuming.bind (adapter.resuming_callFor call) fun _ => .pure _

theorem resuming_query (table : Value) (options : Query.Options) :
    Resuming keeping (adapter.query table options) := by
  refine Resuming.bind (adapter.resuming_rows _) fun rows => ?_
  cases options.single.truthy with
  | false => exact .pure _
  | true => exact .ofExcept _

theorem resuming_count (table : Value) (filters : Filters) :
    Resuming keeping (adapter.count table filters) :=
  Resuming.bind (adapter.resuming_callFor _) fun _ => .ofExcept _

/-! ## Accounts -/

theorem entering_signIn (email password : Value) :
    Entering keeping (adapter.signIn email password) := by
  refine Entering.bind (adapter.resuming_call _) fun answer => ?_
  cases grantOf? answer with
  | none => exact Holding.starting (.fail _)
  | some grant => exact starting_keepToken grant.1 grant.2 grant.2

theorem entering_signUp (email password : Value) :
    Entering keeping (adapter.signUp email password) := by
  refine Entering.bind (adapter.resuming_call _) fun answer => ?_
  cases grantOf? answer with
  | none => exact Holding.starting (.pure _)
  | some grant => exact starting_keepToken grant.1 grant.2 grant.2

theorem ending_signOut : Ending keeping adapter.signOut :=
  Ending.bind_idle (ending_ensuring forgets (adapter.resuming_call _)) fun _ _ => rfl

theorem resuming_currentUser : Resuming keeping adapter.currentUser := by
  refine Resuming.bind resuming_restoreSession fun _ => holding_requireSession fun session => ?_
  refine .bind (adapter.resuming_call _).within fun user => ?_
  exact .bind (holdingIn_setPrincipal session _) fun _ => Holding.within (.pure _)

theorem resuming_isAuthenticated : Resuming keeping isAuthenticated :=
  Resuming.bind resuming_restoreSession fun _ => .bind holding_hasSession fun _ => .pure _

/-! ## Operations -/

theorem behaves_body (operation : Operation) : Behaves keeping operation (adapter.body operation) := by
  cases operation with
  | select table columns filters => exact adapter.resuming_rows _
  | selectOne table columns filters => exact (adapter.resuming_callFor _).map _
  | query table options => exact adapter.resuming_query table options
  | count table filters => exact adapter.resuming_count table filters
  | insert table data => exact adapter.resuming_callFor _
  | insertMany table rows => exact adapter.resuming_rows _
  | update table filters patch => exact adapter.resuming_rows _
  | delete table filters => exact adapter.resuming_rows _
  | upsert table data => exact adapter.resuming_callFor _
  | rpc name params => exact adapter.resuming_callFor _
  | signIn email password => exact adapter.entering_signIn email password
  | signUp email password => exact adapter.entering_signUp email password
  | signOut => exact adapter.ending_signOut
  | currentUser => exact adapter.resuming_currentUser
  | isAuthenticated => exact resuming_isAuthenticated

theorem follows_perform {adapter : Adapter} {operation : Operation} {host after : Host Backend}
    {response : Response} (sound : host.backend.store.Dependable [tokenKey])
    (ran : adapter.perform operation host = (.ok response, after)) :
    Follows keeping profile operation (adapter.body operation) host response after :=
  follows_resolve rfl forgets (adapter.behaves_body operation) sound ran fun _ _ => trivial

/-- A store that is dependable stays so, whatever is done to the adapter. -/
theorem Leads.dependable {adapter : Adapter} {start host : Host Backend}
    (leads : adapter.Leads start host) (sound : start.backend.store.Dependable [tokenKey]) :
    host.backend.store.Dependable [tokenKey] := by
  induction leads with
  | refl => exact sound
  | tail _ last ih =>
      rcases last with ⟨event, rfl⟩
      cases event with
      | call operation answer =>
          have ready : keeping.Sound (expecting answer _).backend := ih
          exact sound_resolve rfl forgets (adapter.behaves_body operation) ready
      | restart => exact ih

end Adapter

end DataGateway.Rest
