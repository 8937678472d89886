import DataGateway.Proofs.Gateway.Session
import DataGateway.Proofs.Offline.Run
import DataGateway.Proofs.Offline.Work
import DataGateway.Proofs.Store.Entry
import Mathlib.Logic.Relation

/-!
# Sessions of the offline adapter

The session is kept in the store next to the snapshot of the tables. Calls of functions, and questions
about the session, take it up again if there is none.

* `keeping` — what the store keeps of a session;
* `Idle` — a step that neither begins nor ends a session;
* `behaves_body` — what each operation does to the session.
-/

namespace DataGateway.Offline

variable {α : Type} {host : Host Backend} (moment : Moment)

/-! ## The session in the store -/

/-- The session that the store offers. -/
def offeredSession? (backend : Backend) : Option Session :=
  (backend.store.read sessionKey).toOption.bind sessionOf?

/-- The session is offered, listed, or out of the store. -/
def keeping : Keeping Backend where
  offered? backend := (offeredSession? backend).map (·.token)
  Kept backend := backend.store.Lists sessionKey
  Gone backend := backend.store.Lacks sessionKey
  CanKeep session := Json.Writable (keptSession session)
  Sound backend := backend.store.Dependable [snapshotKey, sessionKey]

/-- A step that neither begins nor ends a session. -/
abbrev Idle (step : Work α) : Prop := Holding keeping step

theorem spared_of_store {before after : Backend} (same : after.store = before.store) :
    Spared keeping before after := by
  rcases before with ⟨tables, lastId, store⟩
  rcases after with ⟨others, otherId, _⟩
  cases same
  exact ⟨fun kept => kept, fun sound => sound⟩

theorem drop_ok (key : String) {backend : Backend} (known : key ∈ [snapshotKey, sessionKey])
    (sound : keeping.Sound backend) : ∃ after, Backend.drop key backend = (.ok (), after) ∧
      after.store.Lacks key ∧ keeping.Sound after := by
  rcases Store.Dependable.exists_remove sound known with ⟨removed, store, gone, still, lacks⟩
  exact ⟨{ backend with store }, Action.ofExcept_bind_ok gone _ backend, lacks, still⟩

theorem forgets : Forgets keeping profile := fun _ sound => drop_ok sessionKey (by decide) sound

theorem spares_keep_of_mem {key : String} (known : key ∈ [snapshotKey, sessionKey]) (v : Value) :
    (Backend.keep key v).Moves (Spared keeping) := by
  intro backend
  cases written : backend.store.write key v with
  | error fault =>
      have ran : Backend.keep key v backend = (.error fault, backend) :=
        Action.ofExcept_bind_error written _ backend
      rw [ran]
      exact .refl backend
  | ok store =>
      have ran : Backend.keep key v backend = (.ok (), { backend with store }) :=
        Action.ofExcept_bind_ok written _ backend
      rw [ran]
      exact ⟨fun kept => Store.lists_write written kept, fun sound => sound.step (.write known written)⟩

theorem spares_backend_save : Backend.save.Moves (Spared keeping) :=
  .bind .get fun _ => .bind (.ofExcept _) fun _ => spares_keep_of_mem (by decide) _

theorem spares_seed : (Backend.seed moment).Moves (Spared keeping) := by
  refine .bind .get fun backend => ?_
  dsimp only
  split
  · exact .bind (.modify fun _ => spared_of_store rfl) fun _ => spares_backend_save
  · exact .pure _

/-! ## Taking a session up again -/

section Restoring

theorem restoreSession_present {session : Session} (present : host.session = some session) :
    restoreSession host = (.ok (), host) := by
  unfold restoreSession
  rw [Action.bind_get, present]
  rfl

variable (absent : host.session = none)

include absent

theorem restoreSession_nothing (nothing : offeredSession? host.backend = none) :
    ∃ result, restoreSession host = (result, host) := by
  unfold restoreSession
  rw [Action.bind_get, absent]
  cases found : host.backend.store.read sessionKey with
  | error fault => exact ⟨_, rfl⟩
  | ok v =>
      have none : sessionOf? v = none := by
        simpa [offeredSession?, found, Except.toOption] using nothing
      refine ⟨.ok (), (Action.ofExcept_bind_ok rfl _ host).trans ?_⟩
      rw [none]
      rfl

theorem restoreSession_offered {session : Session}
    (offered : offeredSession? host.backend = some session) : ∃ journal, restoreSession host =
      (.ok (), { host with session := some session, journal }) := by
  cases found : host.backend.store.read sessionKey with
  | error fault =>
      rw [offeredSession?, found] at offered
      cases offered
  | ok v =>
      have some : sessionOf? v = some session := by
        simpa [offeredSession?, found, Except.toOption] using offered
      have start : restoreSession host =
          profile.startSession session.token session.principal host := by
        unfold restoreSession
        rw [Action.bind_get, absent]
        refine (Action.ofExcept_bind_ok found _ host).trans ?_
        rw [some]
      exact ⟨_, start⟩

end Restoring

theorem resuming_restoreSession : Resuming keeping restoreSession := by
  intro host
  have idle {result : Except Fault Unit} (ran : restoreSession host = (result, host)) :
      Resumes keeping host (restoreSession host).2 := by
    rw [ran]
    exact Holds.resumes (refl_of (Holds keeping) host)
  cases current : host.session with
  | some session => exact idle (restoreSession_present current)
  | none =>
      cases offered : offeredSession? host.backend with
      | none =>
          rcases restoreSession_nothing current offered with ⟨result, ran⟩
          exact idle ran
      | some session =>
          rcases restoreSession_offered current offered with ⟨journal, ran⟩
          have offers : keeping.offered? host.backend = some session.token := by
            simp only [keeping, offered, Option.map_some]
          rw [ran]
          exact ⟨.refl host.backend, .inr ⟨current, offers.symm⟩⟩

/-! ## Keeping a session -/

theorem idle_keepSession : Idle keepSession := by
  refine .bind .get fun host => ?_
  cases host.session with
  | none => exact .pure _
  | some session => exact holding_onBackend (spares_keep_of_mem (by decide) _)

/-- A session that has begun is kept, if it can be. -/
theorem keepSession_lives {data : Value} (sound : keeping.Sound host.backend)
    (present : host.session ≠ none) :
    Lives keeping host ((do
      keepSession
      return data : Work Value) host).2 ∧ (keeping.Fits ((do
      keepSession
      return data : Work Value) host).2 → ∃ a, ((do
      keepSession
      return data : Work Value) host).1 = .ok a) := by
  have known : sessionKey ∈ [snapshotKey, sessionKey] := by decide
  have idle : Idle (do
      keepSession
      return data : Work Value) := .bind idle_keepSession fun _ => .pure data
  refine ⟨(idle host).lives, fun fits => ?_⟩
  rw [Action.bind_idle fun _ _ => rfl] at fits
  rcases Option.ne_none_iff_exists'.1 present with ⟨session, current⟩
  have writable := fits session ((session_keepSession host).trans current)
  rcases Store.Dependable.exists_write sound known writable with ⟨store, written, _⟩
  have kept : Backend.keep sessionKey (keptSession session) host.backend =
      (.ok (), { host.backend with store }) := Action.ofExcept_bind_ok written _ host.backend
  have ran : keepSession host = (.ok (), { host with backend := { host.backend with store } }) := by
    refine (keepSession_apply current).trans ((Host.onBackend_apply _ host).trans ?_)
    rw [kept, current]
  exact ⟨data, congrArg Prod.fst (Action.bind_of_ok ran)⟩

/-! ## Work on tables -/

/-- Work on tables has nothing to do with sessions, and the store goes on keeping them. -/
theorem covers_holds : Covers (fun _ => True) (Holds keeping) where
  put _ _ _ _ := ⟨spared_of_store rfl, rfl⟩
  counted _ _ := ⟨spared_of_store rfl, rfl⟩
  saved _ v store written :=
    ⟨⟨fun kept => Store.lists_write written kept,
      fun sound => sound.step (.write (by decide) written)⟩, rfl⟩

/-- So any table may be written. -/
theorem own_any {table : Value} (name : Key) (_ : Key.ofValue table = .ok name) : True := trivial

theorem idle_save : Idle save := moves_save covers_holds

/-! ## Functions -/

/-- A change of the profile gives the session another principal. -/
theorem idle_updateProfile (params : Value) : Idle (updateProfile moment params) := by
  refine holding_requireSession fun session => ?_
  refine .bind (Holding.within (.ofExcept _)) fun fields => ?_
  refine .bind (Holding.within (.ofExcept _)) fun update => ?_
  refine .bind (holdingIn_setPrincipal session _) fun _ => ?_
  exact Holding.within (.bind (moves_changeUsers covers_holds trivial _ _) fun _ =>
    .bind idle_save fun _ => .bind idle_keepSession fun _ => .pure _)

theorem resuming_rpc (name params : Value) : Resuming keeping (rpc moment name params) := by
  refine Resuming.bind resuming_restoreSession fun _ => ?_
  split
  · refine .bind .get fun host => ?_
    cases host.session with
    | none => exact .pure _
    | some session => exact .ofExcept _
  · split
    · exact idle_updateProfile moment params
    · exact .bind (.ofExcept _) fun _ => .pure _

/-! ## Accounts -/

theorem entering_signIn (email password : Value) : Entering keeping (signIn email password) := by
  refine Starting.entering ?_
  refine .bind (moves_rowsOfTable _) fun accounts => .bind (.ofExcept _) fun account => ?_
  cases account with
  | none => exact Holding.starting (.fail _)
  | some account =>
      refine .bind (moves_rowsOfTable _) fun users => .bind (.ofExcept _) fun user => ?_
      refine .bind (.ofExcept _) fun principal => .bind (.ofExcept _) fun id => ?_
      refine .bind (.ofExcept _) fun token => ?_
      exact starting_startSession _ _ _ fun _ sound present => keepSession_lives sound present

theorem entering_signUp (email password : Value) : Entering keeping (signUp moment email password) := by
  refine Starting.entering ?_
  refine .bind (.ofExcept _) fun _ => .bind (moves_ensureTable covers_holds own_any) fun accounts => ?_
  refine .bind (.ofExcept _) fun _ => .bind (.map _ (moves_generateId covers_holds)) fun id => ?_
  refine .bind (.ofExcept _) fun name => .bind (moves_putTable covers_holds own_any _) fun _ => ?_
  refine .bind (moves_ensureTable covers_holds own_any) fun users => ?_
  refine .bind (moves_putTable covers_holds own_any _) fun _ => ?_
  refine .bind idle_save fun _ => .bind (.ofExcept _) fun token => ?_
  exact starting_startSession _ _ _ fun _ sound present => keepSession_lives sound present

theorem ending_signOut : Ending keeping signOut :=
  Ending.bind_idle (ending_endSession forgets) fun _ _ => rfl

theorem resuming_currentUser : Resuming keeping currentUser :=
  Resuming.bind resuming_restoreSession fun _ => holding_requireSession fun _ =>
    Holding.within (.ofExcept _)

theorem resuming_isAuthenticated : Resuming keeping isAuthenticated :=
  Resuming.bind resuming_restoreSession fun _ => .bind holding_hasSession fun _ => .pure _

/-! ## Operations -/

theorem behaves_body (operation : Operation) : Behaves keeping operation (body moment operation) := by
  cases operation with
  | select table columns filters =>
      exact Holding.resuming (moves_select table columns filters)
  | selectOne table columns filters =>
      exact Holding.resuming (moves_selectOne table columns filters)
  | query table options => exact Holding.resuming (moves_query table options)
  | count table filters => exact Holding.resuming (moves_count table filters)
  | insert table data => exact Holding.resuming (moves_insert covers_holds own_any data)
  | insertMany table rows => exact Holding.resuming (moves_insertMany covers_holds own_any rows)
  | update table filters patch =>
      exact Holding.resuming (moves_update covers_holds own_any filters patch)
  | delete table filters => exact Holding.resuming (moves_delete covers_holds own_any filters)
  | upsert table data => exact Holding.resuming (moves_upsert covers_holds own_any data)
  | rpc name params => exact resuming_rpc moment name params
  | signIn email password => exact entering_signIn email password
  | signUp email password => exact entering_signUp moment email password
  | signOut => exact ending_signOut
  | currentUser => exact resuming_currentUser
  | isAuthenticated => exact resuming_isAuthenticated

theorem follows_perform {operation : Operation} {after : Host Backend} {response : Response}
    (sound : host.backend.store.Dependable [snapshotKey, sessionKey])
    (ran : perform moment operation host = (.ok response, after))
    (fits : ∀ session, after.session = some session → Json.Writable (keptSession session)) :
    Follows keeping profile operation (body moment operation) host response after :=
  follows_resolve rfl forgets (behaves_body moment operation) sound ran fits

/-! ## Runs -/

/-- Does a state come of another by events? -/
def Leads : Host Backend → Host Backend → Prop :=
  Relation.ReflTransGen fun host after => ∃ event : Event, after = (event.run host).2

theorem sound_clear (sound : keeping.Sound host.backend) :
    keeping.Sound (clear moment host).2.backend := by
  let emptied : Backend := { host.backend with tables := [] }
  have ready : keeping.Sound emptied := sound
  rcases drop_ok snapshotKey (by decide) ready with ⟨dropped, ran, _, still⟩
  have seeded : (clear moment host).2.backend = (Backend.seed moment dropped).2 :=
    congrArg Prod.snd (Action.bind_of_ok (f := fun _ => Backend.seed moment) ran)
  rw [seeded]
  exact (spares_seed moment dropped).sound still

theorem idle_importText (document : Value) : Idle (importText document) := by
  refine .bind (.ofExcept _) fun chars => ?_
  cases Json.decode chars with
  | error problem =>
      rcases problem with ⟨cause, place⟩
      cases cause <;> exact .fail _
  | ok v =>
      dsimp only
      cases tablesOf? v with
      | none => exact .fail _
      | some tables =>
          exact .bind (holding_onBackend (.modify fun _ => spared_of_store rfl)) fun _ => idle_save

theorem sound_start {store : Store} {backend : Backend}
    (sound : store.Dependable [snapshotKey, sessionKey])
    (started : Backend.start? moment store = .ok backend) : keeping.Sound backend := by
  rcases bind_eq_ok_iff.1 started with ⟨stored, _, seeded⟩
  let plain : Backend := { tables := Backend.tablesOfStored stored, store }
  have spared := (spares_seed moment).after (s := plain) rfl
  change (Backend.seed moment plain).1 >>= (fun _ => .ok (Backend.seed moment plain).2) = .ok backend
    at seeded
  rcases bind_eq_ok_iff.1 seeded with ⟨_, _, same⟩
  cases same
  exact spared.sound sound

theorem sound_run (event : Event) (sound : keeping.Sound host.backend) :
    keeping.Sound (event.run host).2.backend := by
  cases event with
  | call moment operation =>
      exact sound_resolve rfl forgets (behaves_body moment operation) sound
  | restart moment =>
      unfold Event.run
      dsimp only
      cases started : Backend.start? moment host.backend.store with
      | error fault => exact sound
      | ok backend => exact sound_start moment sound started
  | clear moment =>
      have cleared := sound_clear moment sound
      rwa [Event.run, Action.bind_idle fun _ _ => rfl]
  | exportText => exact sound
  | importText document =>
      have imported := (idle_importText document host).sound sound
      rwa [Event.run, Action.bind_idle fun _ _ => rfl]

/-- A store that is dependable stays so, whatever is done to the adapter. -/
theorem Leads.dependable {start : Host Backend} (leads : Leads start host)
    (sound : start.backend.store.Dependable [snapshotKey, sessionKey]) :
    host.backend.store.Dependable [snapshotKey, sessionKey] := by
  induction leads with
  | refl => exact sound
  | tail _ last ih =>
      rcases last with ⟨event, rfl⟩
      exact sound_run event ih

end DataGateway.Offline
