import DataGateway.Proofs.Gateway.Response
import DataGateway.Proofs.Offline.Session
import DataGateway.Proofs.Offline.Snapshot
import DataGateway.Proofs.Offline.Sparing
import DataGateway.Proofs.Offline.Transfer

/-!
# The mirror of the session

The store has an entry for the session. Every step that begins, changes or ends a session writes the
entry or removes it on its own, and a session is taken up from it only when somebody asks. Nevertheless
the entry tells at any time which session there is, as long as no change of a profile fails, and unless
the session has no document: keeping such a session fails after it has begun.

* `Mirrors current host` — the store has the entry of the current session, and the adapter is in this
  session, has not taken it up yet, or is in one that cannot be kept;
* `mirrored_body`, `mirrored_run` — every operation, and every event, leaves a mirror;
* `session_mirrored` — what the mirror has of the session in memory, and what a restarted adapter makes
  of it.
-/

namespace DataGateway

/-- The entry of the session in a store in memory. -/
def Store.sessionEntry? : Store → Option (Option Value)
  | memory entries => some (Fields.get? entries Offline.sessionKey)
  | directory _ => none

/-- A response with its data in the normal form of JSON. -/
def Response.normal : Response → Response
  | .success data => .success (Json.normalize data)
  | .failure error => .failure error

/-- Does an operation only ask for the session? -/
def Operation.AsksSession (operation : Operation) : Prop :=
  operation = .isAuthenticated ∨ operation = .currentUser

/-! ## Sessions that are kept -/

namespace Session

/-- A session that a store gives back: the token is a text and the principal an object. -/
structure Plain (session : Session) : Prop where
  token : ∃ text, session.token = .text text
  principal : ∃ fields, session.principal = .object fields

/-- The session as a document gives it back. -/
def normal (session : Session) : Session :=
  { session with principal := Json.normalize session.principal }

variable {session : Session}

theorem Plain.normal (plain : session.Plain) : session.normal.Plain := by
  rcases plain.principal with ⟨fields, object⟩
  exact ⟨plain.token, _, by rw [Session.normal, object, Json.normalize]⟩

theorem normal_normal (session : Session) : session.normal.normal = session.normal := by
  rw [normal, normal, Json.normalize_normalize]

theorem Plain.normalize_kept (plain : session.Plain) :
    Json.normalize (Offline.keptSession session) = Offline.keptSession session.normal := by
  rcases plain.token with ⟨text, token⟩
  have distinct : (Fields.names [("token", session.token), ("user", session.principal)]).Nodup := by
    simp [Fields.names]
  rw [Offline.keptSession, Json.normalize_object distinct, token]
  simp [Fields.mapValues, Offline.keptSession, Session.normal, token, Json.normalize]

theorem Plain.sessionOf?_kept (plain : session.Plain) :
    Offline.sessionOf? (Offline.keptSession session) = some session := by
  rcases session with ⟨token, principal⟩
  rcases plain.token with ⟨text, rfl⟩
  rcases plain.principal with ⟨fields, rfl⟩
  -- an empty token stands for itself
  have same : (Value.text text).orElse (.text "") = .text text := by
    by_cases given : text = ""
    · rw [given]
      rfl
    · exact if_pos (bne_iff_ne.2 given)
  have found : Offline.sessionOf? (Offline.keptSession ⟨.text text, .object fields⟩) =
      some ⟨(Value.text text).orElse (.text ""), .object fields⟩ := rfl
  rw [found, same]

end Session

namespace Offline

variable {host after : Host Backend} {current : Option Session} {session : Session} {moment : Moment}

/-! ## The mirror -/

/-- Is a session plain, and one that cannot be kept? -/
def Stray (session : Session) : Prop := session.Plain ∧ ¬Json.Writable (keptSession session)

/-- The store has the entry of the current session. The adapter is in this session or has not taken it up
yet, or it is in one that cannot be kept. -/
structure Mirrors (current : Option Session) (host : Host Backend) : Prop where
  entry : host.backend.store.sessionEntry? =
    some (current.map fun session => Json.normalize (keptSession session))
  plain : ∀ session ∈ current, session.Plain
  taken : host.session = none ∨ host.session = current ∨
    ∃ session, host.session = some session ∧ Stray session

/-- Is some session, or none, mirrored? -/
def Mirrored (host : Host Backend) : Prop := ∃ current, Mirrors current host

/-- What is mirrored before is mirrored afterwards. -/
abbrev Carries : Host Backend → Host Backend → Prop := Action.Keeps Mirrored

theorem Mirrors.of_view (mirrors : Mirrors current host) (session : after.session = host.session)
    (entry : after.backend.store.sessionEntry? = host.backend.store.sessionEntry?) :
    Mirrors current after where
  entry := entry.trans mirrors.entry
  plain := mirrors.plain
  taken := by
    rw [session]
    exact mirrors.taken

theorem Carries.of_view (session : after.session = host.session)
    (entry : after.backend.store.sessionEntry? = host.backend.store.sessionEntry?) :
    Carries host after := fun ⟨current, mirrors⟩ => ⟨current, mirrors.of_view session entry⟩

theorem sessionEntry?_write_snapshot {store next : Store} {v : Value}
    (written : store.write snapshotKey v = .ok next) :
    next.sessionEntry? = store.sessionEntry? := by
  cases store with
  | memory entries =>
      rcases Store.write_memory_eq_ok_iff.1 written with ⟨_, rfl⟩
      exact congrArg some (Fields.get?_set_of_ne (by decide))
  | directory entries =>
      rcases map_eq_ok_iff.1 written with ⟨others, _, rfl⟩
      rfl

theorem sessionEntry?_remove_snapshot {store next : Store} {removed : Bool}
    (gone : store.remove snapshotKey = .ok (removed, next)) :
    next.sessionEntry? = store.sessionEntry? := by
  cases store with
  | memory entries =>
      cases gone
      exact congrArg some (Fields.get?_erase_of_ne (by decide))
  | directory entries =>
      rcases bind_eq_ok_iff.1 gone with ⟨⟨removed, others⟩, _, same⟩
      cases same
      rfl

/-- Work on tables does not show in the mirror. -/
theorem covers_carries : Covers (fun _ => True) Carries where
  put _ _ _ _ := .of_view rfl rfl
  counted _ _ := .of_view rfl rfl
  saved _ _ _ written := .of_view rfl (sessionEntry?_write_snapshot written)

theorem Mirrors.exists_memory (mirrors : Mirrors current host) :
    ∃ entries, host.backend.store = .memory entries ∧ Fields.get? entries sessionKey =
      current.map fun session => Json.normalize (keptSession session) := by
  have entry := mirrors.entry
  cases store : host.backend.store with
  | memory entries =>
      rw [store] at entry
      exact ⟨entries, rfl, Option.some.inj entry⟩
  | directory entries =>
      rw [store] at entry
      cases entry

/-! ## Writing the mirror -/

/-- The adapter is in a session that a store gives back. -/
structure Live (host : Host Backend) : Prop where
  memory : host.backend.InMemory
  plain : ∃ session, host.session = some session ∧ session.Plain

theorem Mirrors.taken_kept (mirrors : Mirrors current host) (kept : ¬Unkept host) :
    host.session = none ∨ host.session = current := by
  rcases mirrors.taken with absent | same | ⟨session, there, _, unwritable⟩
  · exact .inl absent
  · exact .inr same
  · exact absurd ⟨session, there, unwritable⟩ kept

theorem Mirrors.eq_some (mirrors : Mirrors current host) (present : host.session = some session)
    (kept : ¬Unkept host) : current = some session := by
  rcases mirrors.taken_kept kept with absent | same
  · rw [present] at absent
    cases absent
  · exact same.symm.trans present

/-- Every session there is is plain. -/
theorem Mirrors.plain_present (mirrors : Mirrors current host) (present : host.session = some session) :
    session.Plain := by
  rcases mirrors.taken with absent | same | ⟨other, there, plain, _⟩
  · rw [present] at absent
    cases absent
  · exact mirrors.plain session (same.symm.trans present)
  · cases present.symm.trans there
    exact plain

theorem keep_eq (key : String) (v : Value) (backend : Backend) :
    Backend.keep key v backend = match backend.store.write key v with
      | .ok store => (.ok (), { backend with store })
      | .error fault => (.error fault, backend) := by
  cases written : backend.store.write key v with
  | ok store => exact Action.ofExcept_bind_ok written _ backend
  | error fault => exact Action.ofExcept_bind_error written _ backend

/-- Keeping a session makes the mirror, whatever the store had before; or else it does nothing. -/
theorem Live.keepSession (live : Live host) : Mirrored (keepSession host).2 ∨
    (∃ fault, keepSession host = (.error fault, host)) ∧ Unkept host := by
  rcases live with ⟨⟨entries, memory⟩, session, present, plain⟩
  rw [keepSession_apply present, Host.onBackend_apply, keep_eq, memory]
  by_cases writable : Json.Writable (keptSession session)
  · rw [Store.write_memory_eq_ok_iff.2 ⟨writable, rfl⟩]
    refine .inl ⟨some session, ?_, ?_, .inr (.inl present)⟩
    · exact congrArg some Fields.get?_set_self
    · rintro other ⟨⟩
      exact plain
  · refine .inr ⟨?_, session, present, writable⟩
    cases written : (Store.memory entries).write sessionKey (keptSession session) with
    | ok store => exact absurd (Store.writable_of_write written) writable
    | error fault =>
        exact ⟨fault, rfl⟩

/-- A state in which the session is live is left live by work on tables. -/
theorem covers_live : Covers (fun _ => True) (Action.Keeps Live) where
  put _ _ _ _ live := ⟨live.memory, live.plain⟩
  counted _ _ live := ⟨live.memory, live.plain⟩
  saved host v store written live := by
    rcases live with ⟨⟨entries, memory⟩, plain⟩
    rw [memory] at written
    exact ⟨⟨_, (Store.write_memory_eq_ok_iff.1 written).2⟩, plain⟩

/-- A session that begins is kept before anything else happens, or it cannot be kept. -/
theorem carries_begin {id data : Value} {principal : Record} :
    (do
      profile.startSession (← Action.ofExcept (tokenFor id)) (.object principal)
      keepSession
      return data : Work Value).Moves Carries := by
  rintro host ⟨current, mirrors⟩
  cases named : tokenFor id with
  | error fault => exact ⟨current, mirrors⟩
  | ok token =>
      rcases mirrors.exists_memory with ⟨entries, memory, _⟩
      rcases profile.startSession_ok token (.object principal) host with
        ⟨begun, started, present, same⟩
      have plain : Session.Plain ⟨token, .object principal⟩ := by
        rcases bind_eq_ok_iff.1 named with ⟨text, _, given⟩
        cases given
        exact ⟨⟨_, rfl⟩, principal, rfl⟩
      have live : Live begun := ⟨⟨entries, by rw [same, memory]⟩, _, present, plain⟩
      rw [Action.ofExcept_bind_ok rfl, Action.bind_of_ok started, Action.bind_idle fun _ _ => rfl]
      rcases live.keepSession with mirrored | ⟨⟨fault, failed⟩, session, there, unwritable⟩
      · exact mirrored
      · cases present.symm.trans there
        rw [failed]
        exact ⟨current, by rw [same, mirrors.entry], mirrors.plain,
          .inr (.inr ⟨_, present, plain, unwritable⟩)⟩

/-! ## Reading the mirror -/

/-- Can the stored session be read? -/
def Backend.Resumable (backend : Backend) : Prop :=
  ∀ v, backend.store.sessionEntry?.join = some v → Store.Memory.Copyable v

instance (backend : Backend) : Decidable backend.Resumable :=
  inferInstanceAs (Decidable (∀ v ∈ backend.store.sessionEntry?.join, Store.Memory.Copyable v))

/-- An adapter that is asked for the session, and can read it, is in the current one afterwards. -/
theorem Mirrors.restoreSession (mirrors : Mirrors current host) (resumable : host.backend.Resumable) :
    ∃ after, restoreSession host = (.ok (), after) ∧ after.backend = host.backend ∧
      after.session = (host.session <|> current.map Session.normal) := by
  cases present : host.session with
  | some session => exact ⟨host, restoreSession_present present, rfl, present⟩
  | none =>
      rcases mirrors.exists_memory with ⟨entries, memory, entry⟩
      have read : host.backend.store.read sessionKey =
          .ok (((current.map fun session => Json.normalize (keptSession session))).getD .null) := by
        rw [memory, Store.read, Store.Memory.read, entry]
        cases current with
        | none => rfl
        | some session => exact (resumable _ (congrArg Option.join mirrors.entry)).copyOut
      cases current with
      | none =>
          have idle : Offline.restoreSession host = (.ok (), host) := by
            unfold Offline.restoreSession
            rw [Action.bind_get, present]
            exact Action.ofExcept_bind_ok read _ host
          exact ⟨host, idle, rfl, present⟩
      | some session =>
          have plain := mirrors.plain session rfl
          have offered : offeredSession? host.backend = some session.normal := by
            rw [offeredSession?, read, Option.map_some, Option.getD_some, plain.normalize_kept]
            exact plain.normal.sessionOf?_kept
          rcases restoreSession_offered present offered with ⟨journal, ran⟩
          exact ⟨_, ran, rfl, rfl⟩

/-- A session that cannot be read is not taken up. -/
theorem restoreSession_deep (present : host.session = none) (deep : ¬host.backend.Resumable) :
    Offline.restoreSession host = (.error (.misuse .copyNesting), host) := by
  have failed : host.backend.store.read sessionKey = .error (.misuse .copyNesting) := by
    rcases not_forall.1 deep with ⟨v, unread⟩
    rcases Classical.not_imp.1 unread with ⟨stored, tooDeep⟩
    cases memory : host.backend.store with
    | directory entries =>
        rw [memory] at stored
        cases stored
    | memory entries =>
        rw [memory] at stored
        have found : Fields.get? entries sessionKey = some v := stored
        rw [Store.read, Store.Memory.read, found]
        exact if_neg tooDeep
  unfold Offline.restoreSession
  rw [Action.bind_get, present]
  exact Action.ofExcept_bind_error failed _ host

theorem carries_restoreSession : Offline.restoreSession.Moves Carries := by
  rintro host ⟨current, mirrors⟩
  by_cases idle : (Offline.restoreSession host).2 = host
  · rw [idle]
    exact ⟨current, mirrors⟩
  have resumable : host.backend.Resumable := by
    by_contra deep
    cases present : host.session with
    | none => exact idle (by rw [restoreSession_deep present deep])
    | some session => exact idle (by rw [restoreSession_present present])
  rcases mirrors.restoreSession resumable with ⟨after, ran, backend, restored⟩
  rw [ran]
  cases present : host.session with
  | some _ =>
      -- who is in a session stays in it
      rw [present] at restored
      exact ⟨current, mirrors.of_view (restored.trans present.symm) (by rw [backend])⟩
  | none =>
      rw [present] at restored
      refine ⟨current.map Session.normal, ?_, ?_, .inr (.inl restored)⟩
      · -- the entry of a session is also that of the session given back
        rw [backend, mirrors.entry]
        cases current with
        | none => rfl
        | some session =>
            have plain := mirrors.plain session rfl
            simp only [Option.map_some, plain.normalize_kept, plain.normal.normalize_kept,
              Session.normal_normal]
      · rintro other member
        rcases Option.map_eq_some_iff.1 member with ⟨session, rfl, rfl⟩
        exact (mirrors.plain session rfl).normal

/-! ## Operations -/

theorem carries_signIn (email password : Value) : (signIn email password).Moves Carries := by
  refine .bind (moves_rowsOfTable _) fun accounts => .bind (.ofExcept _) fun account => ?_
  cases account with
  | none => exact .fail _
  | some account =>
      refine .bind (moves_rowsOfTable _) fun users => .bind (.ofExcept _) fun user => ?_
      refine .bind (.ofExcept _) fun principal => .bind (.ofExcept _) fun id => ?_
      exact carries_begin

theorem carries_signUp (email password : Value) : (signUp moment email password).Moves Carries := by
  refine .bind (.ofExcept _) fun _ => .bind (moves_ensureTable covers_carries own_any) fun _ => ?_
  refine .bind (.ofExcept _) fun _ => .bind (.map _ (moves_generateId covers_carries)) fun id => ?_
  refine .bind (.ofExcept _) fun name => .bind (moves_putTable covers_carries own_any _) fun _ => ?_
  refine .bind (moves_ensureTable covers_carries own_any) fun users => ?_
  refine .bind (moves_putTable covers_carries own_any _) fun _ => ?_
  exact .bind (moves_save covers_carries) fun _ => carries_begin

theorem carries_signOut : signOut.Moves Carries := by
  refine .bind ?_ fun _ => .pure _
  rintro host ⟨current, mirrors⟩
  rcases mirrors.exists_memory with ⟨entries, memory, _⟩
  rcases Profile.endSession_apply profile host with ⟨journal, ended⟩
  have gone : host.backend.store.remove sessionKey =
      .ok (Fields.has entries sessionKey, .memory (Fields.erase entries sessionKey)) := by
    rw [memory]
    rfl
  have forgotten : profile.forget host.backend = (.ok (), { host.backend with
      store := .memory (Fields.erase entries sessionKey) }) := Action.ofExcept_bind_ok gone _ _
  rw [ended, forgotten]
  exact ⟨none, congrArg some Fields.get?_erase_self, nofun, .inl rfl⟩

theorem carries_requireSession : (Host.requireSession : Work Session).Moves Carries := by
  refine .bind .get fun host => ?_
  cases host.session with
  | none => exact .fail _
  | some session => exact .pure session

theorem carries_currentUser : currentUser.Moves Carries :=
  .bind carries_restoreSession fun _ => .bind carries_requireSession fun _ => .ofExcept _

theorem carries_isAuthenticated : isAuthenticated.Moves Carries :=
  .bind carries_restoreSession fun _ => .bind (.bind .get fun _ => .pure _) fun _ => .pure _

/-- Functions that change nothing do not change the mirror. -/
theorem carries_rpc {name : Value} (params : Value) (other : name ≠ .text "update_user_profile") :
    (rpc moment name params).Moves Carries := by
  refine .bind carries_restoreSession fun _ => ?_
  split
  · refine .bind .get fun host => ?_
    cases host.session with
    | none => exact .pure _
    | some session => exact .ofExcept _
  · split
    · rename_i changes
      exact absurd (Value.looseEq_text_iff.1 changes) other
    · exact .bind (.ofExcept _) fun _ => .pure _

theorem rpc_update (params : Value) :
    rpc moment (.text "update_user_profile") params =
      restoreSession >>= fun _ => updateProfile moment params := by
  have other : (Value.text "update_user_profile").looseEq (.text "get_user_profile") = false := by
    rw [Value.looseEq_text]
    decide
  have this : (Value.text "update_user_profile").looseEq (.text "update_user_profile") = true := by
    rw [Value.looseEq_text]
    decide
  simp only [rpc, other, this, if_true, Bool.false_eq_true, if_false]

/-- A change of the profile that goes well ends with keeping the session. Where it fails the session has
the new principal already, and the entry the old one. -/
theorem mirrored_updateProfile {params data : Value} (mirrored : Mirrored host)
    (ran : updateProfile moment params host = (.ok data, after)) : Mirrored after := by
  rcases mirrored with ⟨current, mirrors⟩
  cases present : host.session with
  | none =>
      have failed : updateProfile moment params host = _ :=
        Action.bind_of_error (Host.requireSession_absent present)
      rw [failed] at ran
      cases ran
  | some session =>
      rcases mirrors.exists_memory with ⟨entries, memory, _⟩
      have plain := mirrors.plain_present present
      have begun : updateProfile moment params host = _ :=
        Action.bind_of_ok (Host.requireSession_present present)
      rw [begun] at ran
      -- nothing has changed before the session takes the new principal, and from then on it is live
      rcases Action.bind_ok ran with ⟨fields, middle, asked, ran⟩
      cases congrArg Prod.snd asked
      rcases Action.bind_ok ran with ⟨update, middle, asked, ran⟩
      cases congrArg Prod.snd asked
      rcases Action.bind_ok ran with ⟨_, begun, changed, ran⟩
      cases congrArg Prod.snd changed
      have live : Live { host with session := some { session with
          principal := .object (Fields.merge fields update) } } :=
        ⟨⟨entries, memory⟩, _, rfl, plain.token, _, rfl⟩
      rcases Action.bind_ok ran with ⟨_, written, changed, ran⟩
      rcases Action.bind_ok ran with ⟨_, saved, done, ran⟩
      have still : Live saved := (moves_save covers_live).after done
        ((moves_changeUsers covers_live trivial _ _).after changed live)
      rcases Action.bind_ok ran with ⟨_, last, kept, ran⟩
      cases congrArg Prod.snd ran
      rcases still.keepSession with mirrored | ⟨⟨fault, failed⟩, _⟩
      · rwa [kept] at mirrored
      · rw [failed] at kept
        cases kept

theorem carries_body {operation : Operation} (other : ¬operation.ChangesProfile) :
    (body moment operation).Moves Carries := by
  cases operation with
  | select table columns filters => exact moves_select table columns filters
  | selectOne table columns filters => exact moves_selectOne table columns filters
  | query table options => exact moves_query table options
  | count table filters => exact moves_count table filters
  | insert table data => exact moves_insert covers_carries own_any data
  | insertMany table rows => exact moves_insertMany covers_carries own_any rows
  | update table filters patch => exact moves_update covers_carries own_any filters patch
  | delete table filters => exact moves_delete covers_carries own_any filters
  | upsert table data => exact moves_upsert covers_carries own_any data
  | rpc name params => exact carries_rpc params other
  | signIn email password => exact carries_signIn email password
  | signUp email password => exact carries_signUp email password
  | signOut => exact carries_signOut
  | currentUser => exact carries_currentUser
  | isAuthenticated => exact carries_isAuthenticated

/-- Every operation leaves a mirror, a change of the profile where it goes well. -/
theorem mirrored_body (operation : Operation) (mirrored : Mirrored host)
    (well : operation.ChangesProfile → ∃ data, (body moment operation host).1 = .ok data) :
    Mirrored (body moment operation host).2 := by
  by_cases changes : operation.ChangesProfile
  · rcases well changes with ⟨data, succeeded⟩
    cases operation with
    | rpc name params =>
        cases changes
        -- the name is known by now, so of the functions only the change of the profile is left
        have ran : (restoreSession >>= fun _ => updateProfile moment params) host =
            (.ok data, (rpc moment (.text "update_user_profile") params host).2) := by
          rw [← rpc_update]
          exact Prod.ext succeeded rfl
        rcases Action.bind_ok ran with ⟨_, restored, began, ran⟩
        exact mirrored_updateProfile (carries_restoreSession.after began mirrored) ran
    | _ => exact changes.elim
  · exact carries_body changes host mirrored

theorem mirrored_perform (operation : Operation) (mirrored : Mirrored host)
    (well : operation.ChangesProfile → Succeeded (perform moment operation host).1) :
    Mirrored (perform moment operation host).2 := by
  have left : Mirrored (body moment operation host).2 := by
    refine mirrored_body operation mirrored fun changes => ?_
    rcases well changes with ⟨data, succeeded⟩
    exact ⟨data, congrArg Prod.fst (Profile.resolve_success rfl (Prod.ext succeeded rfl))⟩
  rcases ran : body moment operation host with ⟨outcome, middle⟩
  rw [ran] at left
  cases outcome with
  | ok data =>
      rw [perform_of_ok ran]
      exact left
  | error fault =>
      rcases perform_of_error ran with ⟨text, journal, failed⟩
      have kept : Carries middle { middle with journal } := .of_view rfl rfl
      rw [failed]
      exact kept left

/-! ## Databases as a whole -/

theorem carries_onBackend {α : Type} {step : Action Backend α}
    (fixes : step.Fixes fun backend => backend.store.sessionEntry?) :
    (Host.onBackend step).Moves Carries := fun host => .of_view rfl (fixes host.backend)

theorem fixes_keepSnapshot (v : Value) :
    (Backend.keep snapshotKey v).Fixes fun backend => backend.store.sessionEntry? := by
  intro backend
  rw [keep_eq]
  cases written : backend.store.write snapshotKey v with
  | error fault => rfl
  | ok store => exact sessionEntry?_write_snapshot written

theorem fixes_seed (moment : Moment) :
    (Backend.seed moment).Fixes fun backend => backend.store.sessionEntry? := by
  refine .bind .get fun backend => ?_
  dsimp only
  split
  · exact .bind (.modify fun _ => rfl) fun _ => .bind .get fun _ => .bind (.ofExcept _) fun _ =>
      fixes_keepSnapshot _
  · exact .pure _

theorem sessionEntry?_start {store : Store} {backend : Backend}
    (started : Backend.start? moment store = .ok backend) :
    backend.store.sessionEntry? = store.sessionEntry? := by
  rcases bind_eq_ok_iff.1 started with ⟨stored, _, seeded⟩
  let plain : Backend := { tables := Backend.tablesOfStored stored, store }
  have same := fixes_seed moment plain
  change (Backend.seed moment plain).1 >>= (fun _ => .ok (Backend.seed moment plain).2) = .ok backend
    at seeded
  rcases bind_eq_ok_iff.1 seeded with ⟨_, _, ended⟩
  cases ended
  exact same

theorem carries_clear : (clear moment).Moves Carries := by
  refine carries_onBackend (.bind (.modify fun _ => rfl) fun _ => .bind ?_ fun _ => fixes_seed moment)
  intro backend
  cases gone : backend.store.remove snapshotKey with
  | error fault =>
      have ran : Backend.drop snapshotKey backend = (.error fault, backend) :=
        Action.ofExcept_bind_error gone _ backend
      rw [ran]
  | ok result =>
      have ran : Backend.drop snapshotKey backend = (.ok (), { backend with store := result.2 }) :=
        Action.ofExcept_bind_ok gone _ backend
      rw [ran]
      exact sessionEntry?_remove_snapshot gone

theorem carries_importText (document : Value) : (importText document).Moves Carries := by
  refine .bind (.ofExcept _) fun chars => ?_
  cases Json.decode chars with
  | error problem =>
      rcases problem with ⟨cause, place⟩
      cases cause <;> exact .fail _
  | ok v =>
      dsimp only
      cases tablesOf? v with
      | none => exact .fail _
      | some tables =>
          exact .bind (carries_onBackend (.modify fun _ => rfl)) fun _ => moves_save covers_carries

/-! ## Runs -/

/-- Does an event change the profile of the session? -/
def Event.ChangesProfile : Event → Prop
  | .call _ operation => operation.ChangesProfile
  | _ => False

/-- One event leaves a mirror, whatever it is, unless it is a change of the profile that fails. -/
theorem mirrored_run (event : Event) (mirrored : Mirrored host)
    (well : event.ChangesProfile → Succeeded (event.run host).1) : Mirrored (event.run host).2 := by
  cases event with
  | call moment operation => exact mirrored_perform operation mirrored well
  | exportText => exact mirrored
  | clear moment =>
      have cleared : Mirrored (clear moment host).2 := carries_clear host mirrored
      rwa [Event.run, Action.bind_idle fun _ _ => rfl]
  | importText document =>
      have imported := carries_importText document host mirrored
      rwa [Event.run, Action.bind_idle fun _ _ => rfl]
  | restart moment =>
      rcases mirrored with ⟨current, mirrors⟩
      unfold Event.run
      dsimp only
      cases started : Backend.start? moment host.backend.store with
      | error fault => exact ⟨current, mirrors⟩
      | ok backend =>
          -- the new adapter has not been asked for the session yet
          refine ⟨current, ?_, mirrors.plain, .inl rfl⟩
          exact (sessionEntry?_start started).trans mirrors.entry

/-- The states of an adapter on a new store, in which no change of the profile has failed. -/
inductive Undisturbed : Host Backend → Prop where
  | start (moment : Moment) : Undisturbed (fresh moment)
  | step {host : Host Backend} (event : Event) : Undisturbed host →
      (event.ChangesProfile → Succeeded (event.run host).1) → Undisturbed (event.run host).2

theorem Undisturbed.reachable (run : Undisturbed host) : Reachable host := by
  induction run with
  | start moment => exact reachable_fresh moment
  | step event _ _ ih => exact .step event ih

theorem mirrored_fresh (moment : Moment) : Mirrored (fresh moment) :=
  ⟨none, sessionEntry?_start (start?_fresh moment).1, nofun, .inl rfl⟩

theorem Undisturbed.mirrored (run : Undisturbed host) : Mirrored host := by
  induction run with
  | start moment => exact mirrored_fresh moment
  | step event _ well ih => exact mirrored_run event ih well

/-! ## Answers -/

/-- Do two adapters answer alike whether there is a session, and whose it is? The new one gives back
the principal in the normal form of JSON. -/
def AnswersAlike (old new : Host Backend) : Prop :=
  ∀ asked later : Moment,
    (∃ present, (perform asked .isAuthenticated old).1 = .ok (.success (.bool present)) ∧
        (perform later .isAuthenticated new).1 = .ok (.success (.bool present))) ∧
      ∃ response, (perform asked .currentUser old).1 = .ok response ∧
        (perform later .currentUser new).1 = .ok response.normal

/-- What an adapter answers to the question whose session it is. -/
def principalResponse : Option Session → Response
  | some session => .success session.principal
  | none => .failure (Fault.denied .noSession false).said

theorem Mirrors.isAuthenticated (mirrors : Mirrors current host) (resumable : host.backend.Resumable)
    (moment : Moment) : (perform moment .isAuthenticated host).1 =
      .ok (.success (.bool (host.session <|> current.map Session.normal).isSome)) := by
  rcases mirrors.restoreSession resumable with ⟨after, restored, backend, session⟩
  have ran : body moment .isAuthenticated host = (.ok (.bool after.session.isSome), after) :=
    Action.bind_of_ok restored
  rw [perform_of_ok ran, session]

theorem Mirrors.isSome_given (mirrors : Mirrors current host) (kept : ¬Unkept host) :
    (host.session <|> current.map Session.normal).isSome = current.isSome := by
  rcases mirrors.taken_kept kept with absent | same
  · rw [absent]
    exact Option.isSome_map
  · rw [same]
    cases current <;> rfl

theorem Mirrors.plain_given (mirrors : Mirrors current host) :
    ∀ session ∈ (host.session <|> current.map Session.normal), session.Plain := by
  intro given member
  cases present : host.session with
  | none =>
      rw [present] at member
      rcases Option.map_eq_some_iff.1 member with ⟨session, rfl, rfl⟩
      exact (mirrors.plain session rfl).normal
  | some session =>
      rw [present] at member
      cases member
      exact mirrors.plain_present present

/-- Whether the session has been taken up or not does not show in the normal form. -/
theorem Mirrors.normal_given (mirrors : Mirrors current host) (kept : ¬Unkept host) :
    (principalResponse (host.session <|> current.map Session.normal)).normal =
      principalResponse (current.map Session.normal) := by
  rcases mirrors.taken_kept kept with absent | same
  · rw [absent]
    cases current with
    | none => rfl
    | some session => exact congrArg Response.success (Json.normalize_normalize session.principal)
  · rw [same]
    cases current <;> rfl

theorem Mirrors.currentUser (mirrors : Mirrors current host) (resumable : host.backend.Resumable)
    (moment : Moment) : (perform moment .currentUser host).1 =
      .ok (principalResponse (host.session <|> current.map Session.normal)) := by
  rcases mirrors.restoreSession resumable with ⟨after, began, backend, restored⟩
  rw [← restored]
  have begun : body moment .currentUser host = _ := Action.bind_of_ok began
  cases present : after.session with
  | none =>
      have failed : body moment .currentUser host = (.error (.denied .noSession false), after) :=
        begun.trans (Action.bind_of_error (Host.requireSession_absent present))
      have envelope : perform moment .currentUser host = _ :=
        Profile.resolve_apply rfl "get_current_user" (body moment .currentUser) host
      rw [envelope, failed]
      rfl
  | some session =>
      have answered : body moment .currentUser host = (principalRecord session, after) :=
        begun.trans (Action.bind_of_ok (Host.requireSession_present present))
      have plain := mirrors.plain_given session (restored.symm.trans present)
      rcases plain.principal with ⟨fields, object⟩
      have record : principalRecord session = .ok session.principal := by
        rw [principalRecord, object]
        rfl
      rw [record] at answered
      rw [perform_of_ok answered]
      rfl

theorem Mirrors.answersAlike {new : Host Backend} (mirrors : Mirrors current host)
    (others : Mirrors current new) (begun : new.session = none) (kept : ¬Unkept host)
    (readable : host.backend.Resumable) (resumable : new.backend.Resumable) :
    AnswersAlike host new := by
  have restarted : ¬Unkept new := by
    rintro ⟨session, present, _⟩
    rw [begun] at present
    cases present
  intro asked later
  refine ⟨⟨current.isSome, ?_, ?_⟩, _, mirrors.currentUser readable asked, ?_⟩
  · rw [mirrors.isAuthenticated readable asked, mirrors.isSome_given kept]
  · rw [others.isAuthenticated resumable later, others.isSome_given restarted]
  · rw [others.currentUser resumable later, begun, mirrors.normal_given kept]
    rfl

/-- Asking whose the session is leaves the backend alone. -/
theorem fixes_question {question : Operation} (asks : question.AsksSession) (moment : Moment)
    (host : Host Backend) : (perform moment question host).2.backend = host.backend := by
  have fixes : FixesBackend (fun backend => backend) (body moment question) := by
    rcases asks with rfl | rfl
    · exact fixes_isAuthenticated
    · exact fixes_currentUser
  rcases ran : body moment question host with ⟨outcome, after⟩
  cases outcome with
  | ok data =>
      rw [perform_of_ok ran]
      exact fixes.after ran
  | error fault =>
      rcases perform_of_error ran with ⟨text, journal, answered⟩
      have same : after.backend = host.backend := fixes.after ran
      rw [answered, same]

/-- An adapter in which the administrator has signed in, has been taken up again after a restart, and
has been given another name. -/
def renamed : Host Backend :=
  ([.call {} (.signIn (.text "admin@example.com") (.text "password123")), .restart {},
    .call {} (.rpc (.text "update_user_profile") (.object [("name", .text "Root")]))] :
      List Event).foldl (fun host event => (event.run host).2) (fresh {})

/-- Tables that have a document, and of which no copy can be made, can be imported, and no adapter can be
restarted then. -/
theorem not_restarted_of_deep {named : Fields Table} {text : String} (reached : Reachable host)
    (document : text = String.ofList (Json.encode Json.compact (Tables.said named)))
    (writable : Json.Writable (Tables.said named))
    (normal : Json.normalize (Tables.said named) = Tables.said named)
    (deep : ¬Store.Memory.Copyable (Tables.said named))
    (ran : ((Event.importText (.text text)).run host).2 = after) :
    after.session = host.session ∧ after.backend.IsSaved ∧
      (Event.restart moment).run after = (.error (.misuse .copyNesting), after) := by
  rcases reached.holds with ⟨stored, before⟩
  rcases Backend.inMemory_of_snapshot? before.said with ⟨entries, memory⟩
  have read : Json.decode text.toList = .ok (Tables.said named) := by
    rw [document, String.toList_ofList,
      Json.decode_encode Json.isBlank_compact writable.representable, normal]
  have same : after = _ :=
    ran.symm.trans (congrArg Prod.snd (Action.bind_of_ok (importText_ok memory writable read)))
  have session : after.session = host.session := by rw [same]; rfl
  have tables : after.backend.tables = Tables.ofNamed named := by rw [same]; rfl
  have holds : after.backend.Holds named := by
    rw [same]
    exact ⟨Fields.get?_set_self.trans (congrArg some normal), normal, writable⟩
  refine ⟨session, isSaved_of_holds holds tables, ?_⟩
  rw [Event.run, start?_of_deep moment holds fun readable => deep (holds.readable_iff.1 readable)]

/-- A table with one record. -/
def tableOf (v : Value) : Fields Table := [("deep", [v])]

theorem writable_tableOf {v : Value} (written : Json.requireWritable (Json.levelLimit - 2) v = .ok ()) :
    Json.Writable (Tables.said (tableOf v)) := by
  refine Json.requireFields_iff.2 (List.forall_mem_singleton.2 ?_)
  exact Json.requireItems_iff.2 (List.forall_mem_singleton.2 written)

theorem normalize_tableOf {v : Value} (normal : Json.normalize v = v) :
    Json.normalize (Tables.said (tableOf v)) = Tables.said (tableOf v) := by
  simp only [Tables.said, tableOf, Fields.mapValues, List.map_cons, List.map_nil, Json.normalize,
    Json.normalizeFields, Json.normalizeItems, normal]
  rfl

theorem not_copyable_tableOf {v : Value}
    (deep : v.nestsWithin (Store.Memory.copyLimit - 2) = false) :
    ¬Store.Memory.Copyable (Tables.said (tableOf v)) := by
  have table : (Value.list [v]).nestsWithin (Store.Memory.copyLimit - 1) = false :=
    Bool.and_eq_false_imp.2 fun within => absurd (deep.symm.trans within) Bool.false_ne_true
  refine Bool.eq_false_iff.1 (Bool.and_eq_false_imp.2 fun within => ?_)
  exact absurd (table.symm.trans within) Bool.false_ne_true

/-- An adapter in which the administrator has signed in. -/
def signedIn : Host Backend :=
  ((Event.call {} (.signIn (.text "admin@example.com") (.text "password123"))).run (fresh {})).2

/-- The document of a table with a record of lists inside each other, more than a copy is made of. -/
def deepDocument : String :=
  String.ofList (Json.encode Json.compact (Tables.said (tableOf (Store.nested Store.Memory.copyLimit))))

end Offline

end DataGateway
