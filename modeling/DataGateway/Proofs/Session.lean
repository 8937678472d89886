import DataGateway.Proofs.Hosted.Session
import DataGateway.Proofs.Offline.Session
import DataGateway.Proofs.Relational.Session
import DataGateway.Proofs.Rest.Session

/-!
# Sessions of all adapters

`Follows` says what an operation that comes to a response does to the session. The hosted and the
relational adapter keep nothing of a session, so there is nothing that could be taken up again. The
other two keep it in a store, which has to be dependable: nothing goes wrong with removing under their own
keys, and with writing what has a document. So the session that the offline adapter keeps has to have one.
-/

namespace DataGateway

/-- Every operation that comes to a response follows, in every run of every adapter. -/
theorem perform_follows :
    (∀ (adapter : Hosted.Adapter) operation (host after : Host Hosted.Client) response,
      adapter.perform operation host = (.ok response, after) →
        Follows {} Hosted.profile operation (adapter.body operation) host response after) ∧
    (∀ (β : Type) (adapter : Relational.Adapter β) token operation (host after : Host β) response,
      adapter.perform token operation host = (.ok response, after) →
        Follows {} Relational.profile operation (adapter.body token operation) host response after) ∧
    (∀ (adapter : Rest.Adapter) (start host after : Host Rest.Backend) operation answer response,
      start.backend.store.Dependable [Rest.tokenKey] → adapter.Leads start host →
      adapter.perform operation (Rest.expecting answer host) = (.ok response, after) →
        Follows Rest.keeping Rest.profile operation (adapter.body operation)
          (Rest.expecting answer host) response after) ∧
    (∀ moment (start host after : Host Offline.Backend) operation response,
      start.backend.store.Dependable [Offline.snapshotKey, Offline.sessionKey] →
      Offline.Leads start host →
      Offline.perform moment operation host = (.ok response, after) →
      (∀ session, after.session = some session → Json.Writable (Offline.keptSession session)) →
        Follows Offline.keeping Offline.profile operation (Offline.body moment operation)
          host response after) := by
  refine ⟨?hosted, ?relational, ?rest, ?offline⟩
  case hosted =>
    intro adapter operation host after response ran
    exact Hosted.follows_perform ran
  case relational =>
    intro β adapter token operation host after response ran
    exact Relational.Adapter.follows_perform ran
  case rest =>
    intro adapter start host after operation answer response sound leads ran
    exact Rest.Adapter.follows_perform (leads.dependable sound) ran
  case offline =>
    intro moment start host after operation response sound leads ran fits
    exact Offline.follows_perform moment (leads.dependable sound) ran fits

/-- The session of the adapters below. -/
def Session.sample : Session := ⟨.text "t", .object []⟩

def Hosted.entered : Host Hosted.Client := { session := some .sample, backend := {} }

/-- A REST adapter in a session, with the token in a directory. -/
def Rest.entered : Host Rest.Backend where
  session := some .sample
  backend :=
    { store := .directory { entries := [([".daal", Store.Directory.fileName Rest.tokenKey],
        .file (Store.Directory.document Session.sample.token))] } }

/-- An offline adapter in a session, which is kept in memory. -/
def Offline.entered : Host Offline.Backend where
  session := some .sample
  backend := { store := .memory [(Offline.sessionKey, Offline.keptSession .sample)] }

/-- A relational adapter on a database that has nothing to say. -/
def Relational.mute : Relational.Adapter Unit where
  execute _ := pure .null
  accounts := ⟨"users", by decide⟩
  builder := ⟨⟨"id", by decide⟩⟩

def Relational.entered : Host Unit := { session := some .sample, backend := () }

/-- Signing out ends a session, and so does a server that turns its token down. A table that is missing
does not. -/
theorem perform_follows_entered :
    (Hosted.Adapter.perform {} .signOut Hosted.entered).2.session = none ∧
    (Relational.mute.perform "t" .signOut Relational.entered).2.session = none ∧
    (Rest.Adapter.perform ⟨⟨"http://localhost"⟩, .null⟩ .currentUser
      (Rest.expecting (.ok ⟨401, "", ""⟩) Rest.entered)).2.session = none ∧
    (Offline.perform {} (.delete (.text "rows") (.other .null)) Offline.entered).2.session ≠ none := by
  rcases perform_follows with ⟨hosted, relational, rest, offline⟩
  refine ⟨?hosted, ?relational, ?rest, ?offline⟩
  case hosted =>
    have follows := hosted {} .signOut Hosted.entered _ (.success .null) rfl
    exact (follows.ended (.inl rfl)).1
  case relational =>
    have follows := relational Unit Relational.mute "t" .signOut Relational.entered _
      (.success .null) rfl
    exact (follows.ended (.inl rfl)).1
  case rest =>
    have storable : Store.Directory.Storable Rest.tokenKey := ⟨by decide, by decide, by decide⟩
    have sound : Rest.entered.backend.store.Dependable [Rest.tokenKey] := by
      refine Store.dependable_files (by simpa using storable) ⟨_, rfl, ?_⟩
      simp
    have follows := rest ⟨⟨"http://localhost"⟩, .null⟩ Rest.entered Rest.entered _ .currentUser
      (.ok ⟨401, "", ""⟩) (.failure "HTTP 401: Unauthorized") sound .refl rfl
    exact (follows.ended (.inr ⟨_, _, rfl, rfl, rfl⟩)).1
  case offline =>
    have sound : Offline.entered.backend.store.Dependable [Offline.snapshotKey, Offline.sessionKey] :=
      Store.dependable_memory _ _
    have follows := offline {} Offline.entered Offline.entered _
      (.delete (.text "rows") (.other .null)) (.failure "Table rows does not exist") sound .refl rfl ?_
    rotate_left
    · rintro session ⟨⟩
      rfl
    refine (follows.lasts nofun ?_).1 nofun
    rintro ⟨fault, settled, failed, classified, revokes⟩
    cases failed
    cases classified
    cases revokes

end DataGateway
