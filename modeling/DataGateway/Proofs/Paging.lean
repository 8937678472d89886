import DataGateway.Proofs.Hosted.Page
import DataGateway.Proofs.Offline.Page
import DataGateway.Proofs.Relational.Page
import DataGateway.Proofs.Rest.Page

/-!
# Pages of all adapters

The four adapters ask for a page in their own ways: a slice, two clauses of a statement, two directives of
an address, and a range or a limit. Whatever rows an operation is about, they answer with the same page of
them. Only a hosted database is asked for a thousand rows at most behind an offset without a limit.

* `pages_agree` — one page, asked for in four ways;
* `perform_remainder` of each adapter — all rows behind an offset, or the first thousand of them;
* `remainder_selected`, `remainder_cut` — the four together, and rows that are not asked for.
-/

namespace DataGateway

/-! ## Samples -/

def sampleRows : List Value :=
  [.object [("id", .int 1)], .object [("id", .int 2)], .object [("id", .int 3)]]

/-- Tables in memory, one of them with the rows. -/
def Offline.stocked : Host Offline.Backend :=
  { backend := { store := .memory [], tables := [(.ofText "users", sampleRows)] } }

theorem Offline.finds_stocked :
    Offline.Finds Offline.stocked (.text "users") [] none sampleRows := by
  have same : (Key.ofText "users" == Key.ofText "users") = true := by decide +kernel
  have stored : Offline.Tables.rowsOf Offline.stocked.backend.tables (.ofText "users") = sampleRows := by
    rw [Offline.Tables.rowsOf, Offline.stocked, Fields.get?_cons, if_pos same]
    rfl
  exact ⟨.ofText "users", sampleRows, ofValue_text "users", by rw [stored]; rfl, rfl⟩

theorem Sql.isIdentifier_users : Sql.isIdentifier "users".toList = true := by decide

theorem Sql.isIdentifier_id : Sql.isIdentifier "id".toList = true := by decide

/-- A database that answers every statement with the same rows. -/
def Relational.telling (rows : List Value) : Relational.Adapter Unit where
  execute _ := pure (.list rows)
  accounts := ⟨"users", Sql.isIdentifier_users⟩
  builder := ⟨⟨"id", Sql.isIdentifier_id⟩⟩

/-- A server that has one answer with rows ready. -/
def Rest.telling (rows : List Value) : Host Rest.Backend where
  backend :=
    { server :=
        { answers := [.ok ⟨200, "OK", String.ofList (Json.encode Json.compact (.list rows))⟩] }
      store := .memory [] }

/-- A client that has one answer with rows ready. -/
def Hosted.telling (rows : List Value) : Host Hosted.Client where
  backend := { answers := [.ok (.attributes [("data", .list rows)])] }

/-! ## One page -/

variable {options : Query.Options} {checked : Query.Checked}

section Remainder

variable (valid : options.check = .ok checked) (unlimited : checked.limit = none)
  (many : options.single.truthy = false) {bound : Query.Bound} (shifted : checked.offset = some bound)

section

include unlimited shifted

theorem Query.Checked.rows_of_unlimited (rows : List Value) :
    checked.page.rows rows = rows.drop bound.toInt.toNat := by
  rw [Query.Checked.page_of_unlimited unlimited shifted]
  rfl

include many

theorem Query.Checked.answer_of_unlimited (rows : List Value) :
    checked.page.answer options.single.truthy rows = .list (rows.drop bound.toInt.toNat) := by
  rw [many, Query.Checked.page_of_unlimited unlimited shifted]
  rfl

include valid

theorem Offline.perform_remainder {table : Value} {host : Host Offline.Backend} {rows taken : Table}
    (moment : Moment) (finds : Offline.Finds host table checked.spec options.ordering rows)
    (projected : Offline.projectAll options.select (rows.drop bound.toInt.toNat) = .ok taken) :
    Offline.perform moment (.query table options) host = (.ok (.success (.list taken)), host) := by
  rw [← Query.Checked.rows_of_unlimited unlimited shifted] at projected
  have ran := Offline.perform_query moment valid finds projected
  rwa [many] at ran

theorem Relational.Adapter.readPage_remainder {table : Value} {prepared : Sql.Prepared}
    (stated : Relational.Adapter.statementOf table options = .ok prepared) (rows : List Value) :
    (Sql.readPage prepared.statement.text).rows rows = rows.drop bound.toInt.toNat := by
  rw [Relational.Adapter.readPage_statementOf valid stated, many]
  exact Query.Checked.rows_of_unlimited unlimited shifted rows

theorem Relational.Adapter.perform_remainder {β : Type} (adapter : Relational.Adapter β) (token : String)
    {table : Value} {prepared : Sql.Prepared} {host : Host β} {backend : β} {rows : List Value}
    (stated : Relational.Adapter.statementOf table options = .ok prepared)
    (answered : adapter.execute (.ofPrepared prepared) host.backend =
      (.ok (.list (rows.drop bound.toInt.toNat)), backend)) :
    adapter.perform token (.query table options) host =
      (.ok (.success (.list (rows.drop bound.toInt.toNat))), { host with backend }) := by
  rw [← Relational.Adapter.readPage_remainder valid unlimited many shifted stated] at answered
  rw [adapter.perform_query valid stated answered,
    Query.Checked.answer_of_unlimited unlimited many shifted]

end

variable (positive : 1 ≤ bound.toInt)

include valid unlimited many shifted positive

theorem Rest.Adapter.perform_remainder (adapter : Rest.Adapter) {table : String} {selection : Selection}
    {conditions own : Pairs} {host : Host Rest.Backend}
    (selected : Selection.ofValue options.select = .ok selection) (named : table ≠ "")
    (expressed : Rest.Expresses checked.spec conditions) (read : ∀ fault, ¬Rest.TokenUnread host fault)
    (told : Rest.directivePairs selection options checked = .ok own) (rows : List Value) :
    ∃ request,
      (adapter.perform (.query (.text table) options) host).2.backend.server.asked =
        host.backend.server.asked ++ [request] ∧
      adapter.base.read? request.url = some ⟨[table], Rest.Base.queryOf (conditions ++ own)⟩ ∧
      own.lookup "limit" = none ∧ own.lookup "offset" = some bound.toValue.display ∧
      ((∃ n, bound = .number n) → (Rest.readPage own).rows rows = rows.drop bound.toInt.toNat ∧
        ∀ reply, host.backend.server.answers = [.ok reply] →
          reply.Lists (rows.drop bound.toInt.toNat) → ∃ after,
            adapter.perform (.query (.text table) options) host =
              (.ok (.success (.list (rows.drop bound.toInt.toNat))), after)) := by
  rcases adapter.perform_query valid selected named expressed told read with
    ⟨request, asked, addressed, answered⟩
  rcases Rest.lookup_directivePairs_of_unlimited told unlimited many shifted positive with
    ⟨limit, offset⟩
  refine ⟨request, asked, addressed, limit, offset, fun number => ?_⟩
  have plain := Query.Checked.isPlain_of_unlimited unlimited shifted number
  have selects : (Rest.readPage own).rows rows = rows.drop bound.toInt.toNat := by
    rw [Rest.readPage_directivePairs valid plain told, many]
    exact Query.Checked.rows_of_unlimited unlimited shifted rows
  refine ⟨selects, fun reply ready lists => ?_⟩
  rw [← selects] at lists
  rcases answered plain reply rows ready lists with ⟨after, ran⟩
  rw [Query.Checked.answer_of_unlimited unlimited many shifted] at ran
  exact ⟨after, ran⟩

/-- Of a hosted database a thousand rows are asked for. -/
theorem Hosted.perform_remainder (adapter : Hosted.Adapter) (table : Value) {selection : Selection}
    {filters : List Hosted.Call} (several : Fault) (host : Host Hosted.Client)
    (selected : Selection.ofValue options.select = .ok selection)
    (lowers : Hosted.Lowers checked.spec filters) (rows : List Value) : ∃ calls,
      (adapter.perform (.query table options) host).2.backend.asked = host.backend.asked ++ calls ∧
      Hosted.cutAll calls rows = (rows.drop bound.toInt.toNat).take 1000 ∧
      (Hosted.cutAll calls rows = rows.drop bound.toInt.toNat ↔
        rows.length ≤ bound.toInt.toNat + 1000) ∧
      (host.backend.answers = [Hosted.answerTo several calls rows] → ∃ after,
        adapter.perform (.query table options) host =
          (.ok (.success (.list ((rows.drop bound.toInt.toNat).take 1000))), after)) := by
  have asks := Hosted.requestPage_of_unlimited unlimited many shifted positive
  rcases Hosted.perform_query table adapter host valid selected lowers several rows with
    ⟨asked, answered⟩
  have cut : Hosted.cutAll (Hosted.requestCalls table selection filters options checked) rows =
      (rows.drop bound.toInt.toNat).take 1000 := by
    rw [Hosted.cutAll_requestCalls lowers, asks]
    rfl
  rw [asks, many] at answered
  refine ⟨_, asked, cut, ?_, answered⟩
  rw [cut, List.take_eq_self_iff, List.length_drop]
  omega

/-- Behind an offset without a limit the requests ask for all rows that are left, but a hosted database is
asked for a thousand of them at most. There is no address where the offset or the order has no text; then
nothing is asked for. -/
theorem remainder_selected (rows : List Value) :
    let rest := rows.drop bound.toInt.toNat
    (∀ moment table (host : Host Offline.Backend) taken,
      Offline.Finds host table checked.spec options.ordering rows →
      Offline.projectAll options.select rest = .ok taken →
        Offline.perform moment (.query table options) host = (.ok (.success (.list taken)), host)) ∧
    (∀ table prepared, Relational.Adapter.statementOf table options = .ok prepared →
      (Sql.readPage prepared.statement.text).rows rows = rest ∧
      ∀ (β : Type) (adapter : Relational.Adapter β) token (host : Host β) backend,
        adapter.execute (.ofPrepared prepared) host.backend = (.ok (.list rest), backend) →
          adapter.perform token (.query table options) host =
            (.ok (.success (.list rest)), { host with backend })) ∧
    (∀ (adapter : Rest.Adapter) (table : String) selection conditions (host : Host Rest.Backend),
      Selection.ofValue options.select = .ok selection → table ≠ "" →
      Rest.Expresses checked.spec conditions → (∀ fault, ¬Rest.TokenUnread host fault) →
        (Rest.Tellable options checked → ∃ request own,
          (adapter.perform (.query (.text table) options) host).2.backend.server.asked =
            host.backend.server.asked ++ [request] ∧
          adapter.base.read? request.url = some ⟨[table], Rest.Base.queryOf (conditions ++ own)⟩ ∧
          own.lookup "limit" = none ∧ own.lookup "offset" = some bound.toValue.display ∧
          ((∃ n, bound = .number n) → (Rest.readPage own).rows rows = rest ∧
            ∀ reply, host.backend.server.answers = [.ok reply] → reply.Lists rest → ∃ after,
              adapter.perform (.query (.text table) options) host =
                (.ok (.success (.list rest)), after))) ∧
        (¬Rest.Tellable options checked → ∃ journal, adapter.perform (.query (.text table) options) host =
          (.ok (.failure Misuse.wholeUnwritable.message), { host with journal }))) ∧
    (∀ (adapter : Hosted.Adapter) table selection filters several (host : Host Hosted.Client),
      Selection.ofValue options.select = .ok selection → Hosted.Lowers checked.spec filters → ∃ calls,
        (adapter.perform (.query table options) host).2.backend.asked = host.backend.asked ++ calls ∧
        Hosted.cutAll calls rows = rest.take 1000 ∧
        (Hosted.cutAll calls rows = rest ↔ rows.length ≤ bound.toInt.toNat + 1000) ∧
        (host.backend.answers = [Hosted.answerTo several calls rows] → ∃ after,
          adapter.perform (.query table options) host =
            (.ok (.success (.list (rest.take 1000))), after))) := by
  intro rest
  refine ⟨?offline, ?relational, ?rest, ?hosted⟩
  case offline =>
    intro moment table host taken finds projected
    exact Offline.perform_remainder valid unlimited many shifted moment finds projected
  case relational =>
    intro table prepared stated
    refine ⟨Relational.Adapter.readPage_remainder valid unlimited many shifted stated rows, ?_⟩
    intro β adapter token host backend answered
    exact adapter.perform_remainder valid unlimited many shifted token stated answered
  case rest =>
    intro adapter table selection conditions host selected named expressed read
    refine ⟨fun tells => ?_, fun untold =>
      adapter.perform_untold valid selected named expressed untold host⟩
    rcases Rest.exists_directivePairs_iff.2 tells with ⟨own, told⟩
    rcases adapter.perform_remainder valid unlimited many shifted positive selected named expressed read
      told rows with ⟨request, asked⟩
    exact ⟨request, own, asked⟩
  case hosted =>
    intro adapter table selection filters several host selected lowers
    exact Hosted.perform_remainder valid unlimited many shifted positive adapter table several host
      selected lowers rows

end Remainder

/-- Of a thousand and two rows the last one is not asked for. An offset that is a truth value is written
down as one in an address, so that it says no number. -/
theorem remainder_cut :
    let options : Query.Options := { offset := .int 1 }
    let rows : List Value := List.replicate 1002 (.object [("id", .int 1)])
    let calls :=
      (Hosted.Adapter.perform {} (.query (.text "users") options) { backend := {} }).2.backend.asked
    options.check = .ok ⟨[], none, some (.number 1)⟩ ∧ options.single.truthy = false ∧
    (Hosted.cutAll calls rows).length = 1000 ∧ (rows.drop 1).length = 1001 ∧
    Hosted.cutAll calls rows ≠ rows.drop 1 ∧
    (Rest.Adapter.perform ⟨⟨"http://localhost"⟩, .null⟩ (.query (.text "users") { offset := .bool true })
        (Rest.telling [])).2.backend.server.asked.map Rest.Request.url =
      ["http://localhost/users?offset=True"] := by
  intro options rows calls
  have asked : calls =
      [.table (.text "users"), .select "*", .range (.number 1) 1000, .execute] := rfl
  have all : rows.length = 1002 := List.length_replicate
  have cut : Hosted.cutAll calls rows = (rows.drop 1).take 1000 := by
    rw [asked]
    rfl
  have some : (Hosted.cutAll calls rows).length = 1000 := by
    rw [cut, List.length_take, List.length_drop, all]
    rfl
  have left : (rows.drop 1).length = 1001 := by rw [List.length_drop, all]
  refine ⟨rfl, rfl, some, left, fun same => ?_, rfl⟩
  rw [same, left] at some
  cases some

/-- The last of three rows. -/
theorem remainder_selected_sample :
    let options : Query.Options := { offset := .int 2 }
    let checked : Query.Checked := ⟨[], none, some (.number 2)⟩
    let last : List Value := [.object [("id", .int 3)]]
    let query : Operation := .query (.text "users") options
    options.check = .ok checked ∧ checked.limit = none ∧ options.single.truthy = false ∧
    checked.offset = some (.number 2) ∧ 1 ≤ (Query.Bound.number 2).toInt ∧
    (Offline.perform {} query Offline.stocked).1 = .ok (.success (.list last)) ∧
    ((Relational.telling last).perform "t" query { backend := () }).1 = .ok (.success (.list last)) ∧
    (∃ request own, (Rest.Adapter.perform ⟨⟨"http://localhost"⟩, .null⟩ query
        (Rest.telling last)).2.backend.server.asked = [request] ∧
      Rest.Base.read? ⟨"http://localhost"⟩ request.url = some ⟨["users"], Rest.Base.queryOf own⟩ ∧
      (Rest.readPage own).rows sampleRows = last) ∧
    (Hosted.Adapter.perform {} query (Hosted.telling last)).1 = .ok (.success (.list last)) := by
  intro options checked last query
  have valid : options.check = .ok checked := rfl
  have all : Selection.ofValue options.select = .ok .all := Offline.ofValue_star
  have positive : 1 ≤ (Query.Bound.number 2).toInt := by decide
  rcases remainder_selected valid rfl rfl rfl positive sampleRows with
    ⟨offline, relational, rest, hosted⟩
  refine ⟨valid, rfl, rfl, rfl, positive, ?offline, ?relational, ?rest, ?hosted⟩
  case offline =>
    have projected : Offline.projectAll options.select last = .ok last :=
      Offline.projectAll_all all (by decide)
    rw [offline {} (.text "users") Offline.stocked last Offline.finds_stocked projected]
  case relational =>
    have stated : ∃ prepared, Relational.Adapter.statementOf (.text "users") options = .ok prepared :=
      ⟨_, rfl⟩
    rcases stated with ⟨prepared, stated⟩
    have ran := (relational (.text "users") prepared stated).2 Unit (Relational.telling last) "t"
      { backend := () } () rfl
    rw [ran]
    rfl
  case rest =>
    have read : ∀ fault, ¬Rest.TokenUnread (Rest.telling last) fault := fun _ unread => nomatch unread.2
    have told : Rest.directivePairs .all options checked = .ok [("offset", "2")] := rfl
    rcases (rest ⟨⟨"http://localhost"⟩, .null⟩ "users" .all [] (Rest.telling last) all (by decide) .nil
      read).1 (Rest.exists_directivePairs_iff.1 ⟨_, told⟩) with
      ⟨request, own, asked, addressed, _, _, selects⟩
    rw [List.nil_append] at addressed
    dsimp only [query]
    exact ⟨request, own, asked, addressed, (selects ⟨2, rfl⟩).1⟩
  case hosted =>
    rcases hosted {} (.text "users") .all [] (.refused .batchExpected) (Hosted.telling last) all .nil
      with ⟨calls, asked, cut, -, answered⟩
    have same : calls = (Hosted.Adapter.perform {} query (Hosted.telling last)).2.backend.asked :=
      asked.symm
    rcases answered (by rw [same]; rfl) with ⟨after, ran⟩
    rw [ran]
    rfl

end DataGateway
