import DataGateway.Proofs.Rest.Answer

/-!
# One row from a server

There are two ways to ask a server for one row: the operation for it, and a query that wants one. They
send the same pairs in another order and read the same answer by other rules.

* `Wanted` — what both requests say;
* `ReadsAlike` — the values that both read as the same row;
* `Adapter.perform_forOne_iff` — when both ways answer the same.
-/

namespace DataGateway.Rest

/-! ## Values -/

/-- Do both ways of asking read the same row from a value? -/
def ReadsAlike (v : Value) : Prop :=
  v.truthy = false ∨ v.isList = true ∨ ∃ c, v = .text (String.singleton c)

theorem oneOf_of_not_list {v : Value} (plain : v.isList = false) :
    Adapter.oneOf v = v.orElse .null := by
  cases v with
  | list rows => cases plain
  | _ => rfl

/-- Nothing is made of a value that counts as false. -/
theorem oneOf_of_falsy {v : Value} (falsy : v.truthy = false) : Adapter.oneOf v = .null := by
  have nothing : v.orElse .null = .null := if_neg (Bool.eq_false_iff.1 falsy)
  cases v with
  | list rows =>
      cases rows with
      | nil => rfl
      | cons row rows => cases falsy
  | _ => exact nothing

/-- Of a value that counts as true a query takes the first item, and the operation all but a list. -/
theorem first_eq_oneOf_iff {v : Value} (truthy : v.truthy = true) :
    v.first = .ok (Adapter.oneOf v) ↔ v.isList = true ∨ ∃ c, v = .text (String.singleton c) := by
  have whole (plain : v.isList = false) : Adapter.oneOf v = v := by
    rw [oneOf_of_not_list plain, Value.orElse, if_pos truthy]
  cases v with
  | list rows =>
      cases rows with
      | nil => cases truthy
      | cons row rows => exact iff_of_true rfl (.inl rfl)
  | text s =>
      rw [whole rfl, Value.first, Except.ok.injEq, Value.text.injEq]
      constructor
      · intro same
        cases chars : s.toList with
        | nil =>
            rw [String.toList_eq_nil_iff.1 chars] at truthy
            cases truthy
        | cons c rest =>
            rw [chars] at same
            exact .inr ⟨c, congrArg Value.text same.symm⟩
      · rintro (list | ⟨c, same⟩)
        · cases list
        · cases same
          simp
  | tuple items =>
      refine iff_of_false (fun same => ?_) nofun
      cases items with
      | nil => cases truthy
      | cons item items =>
          -- no item is the tuple that it is in
          rw [whole rfl, Value.first, Except.ok.injEq] at same
          have smaller := congrArg sizeOf same
          simp at smaller
          omega
  | octets bytes =>
      refine iff_of_false (fun same => ?_) nofun
      rw [whole rfl] at same
      cases bytes with
      | nil => cases truthy
      | cons byte bytes => cases same
  | _ => exact iff_of_false nofun nofun

theorem readsAlike_iff {v : Value} :
    firstOrNull (v.orElse (.list [])) = .ok (Adapter.oneOf v) ↔ ReadsAlike v := by
  rw [Query.firstOrNull_orElse, firstOrNull, ReadsAlike]
  cases truthy : v.truthy with
  | false =>
      rw [oneOf_of_falsy truthy]
      exact iff_of_true rfl (.inl rfl)
  | true =>
      rw [if_pos rfl, first_eq_oneOf_iff truthy]
      simp

/-! ## Requests -/

theorem selectionPairs_eq (columns : Value) :
    selectionPairs columns = selectPairs <$> Selection.ofValue columns := by
  cases selected : Selection.ofValue columns with
  | error fault => rw [selectionPairs, selected]; rfl
  | ok selection => exact selectionPairs_ok selected

/-- What a request for one row says: the table, the conditions and the columns. -/
structure Wanted where
  path : String
  conditions : Pairs
  selection : Selection

namespace Wanted

/-- What is wanted, if it can be said. -/
def of (table columns : Value) (filters : Filters) : Except Fault Wanted := do
  let conditions ← pairsOf (← filters.parse)
  let selection ← Selection.ofValue columns
  return ⟨← tablePath table, conditions, selection⟩

variable (wanted : Wanted)

/-- A request with its own pairs behind those of the conditions. -/
def call (own : Pairs) : Call :=
  { method := .get, path := wanted.path, pairs := wanted.conditions ++ own }

/-- The pairs of the operation for one row. -/
def oneOwn : Pairs := ("limit", "1") :: selectPairs wanted.selection

/-- The pairs of a query that wants one row. -/
def queryOwn : Pairs := selectPairs wanted.selection ++ [("limit", "1")]

/-- The order of the pairs only matters if there are columns to say. -/
theorem own_eq_iff : wanted.oneOwn = wanted.queryOwn ↔ wanted.selection = .all := by
  rcases wanted with ⟨path, conditions, selection⟩
  cases selection with
  | all => exact iff_of_true rfl rfl
  | columns names => simp [oneOwn, queryOwn, selectPairs]

/-- The addresses differ when the order of the pairs does. -/
theorem url_eq_iff (base : Base) :
    base.url wanted.path (wanted.conditions ++ wanted.queryOwn) =
      base.url wanted.path (wanted.conditions ++ wanted.oneOwn) ↔ wanted.selection = .all := by
  rw [← wanted.own_eq_iff]
  constructor
  · intro same
    have pairs := Base.url_inj (by simp [queryOwn]) (by simp [oneOwn]) same
    exact (List.append_cancel_left pairs).symm
  · intro same
    rw [same]

end Wanted

namespace Adapter

variable (adapter : Adapter) {table columns : Value} {filters : Filters}

theorem selectOne_reading : adapter.selectOne table columns filters =
    adapter.reading ((fun wanted => wanted.call wanted.oneOwn) <$> Wanted.of table columns filters)
      fun v => .ok (oneOf v) := by
  have call : (do
      let filterPairs ← pairsOf (← filters.parse)
      let pairs := filterPairs ++ ("limit", "1") :: (← selectionPairs columns)
      return { method := .get, path := ← tablePath table, pairs } : Except Fault Call) =
      (fun wanted => wanted.call wanted.oneOwn) <$> Wanted.of table columns filters := by
    simp only [Wanted.of, selectionPairs_eq, map_eq_pure_bind, bind_assoc, pure_bind]
    rfl
  rw [Adapter.selectOne, call, Action.map_eq_bind]
  rfl

theorem query_reading : adapter.query table (.forOne columns filters) =
    adapter.reading ((fun wanted => wanted.call wanted.queryOwn) <$> Wanted.of table columns filters)
      fun v => firstOrNull (v.orElse (.list [])) := by
  have call : (do
      let checked ← (Query.Options.forOne columns filters).check
      let filterPairs ← pairsOf checked.spec
      let pairs := filterPairs ++ (← selectionPairs columns) ++ (← orderPairs none) ++
        (← pagePairs true checked.limit checked.offset)
      return { method := .get, path := ← tablePath table, pairs } : Except Fault Call) =
      (fun wanted => wanted.call wanted.queryOwn) <$> Wanted.of table columns filters := by
    have order : orderPairs none = .ok [] := rfl
    have page : pagePairs true none none = .ok [("limit", "1")] := rfl
    simp only [Wanted.of, selectionPairs_eq, Query.Options.check_forOne, map_eq_pure_bind, bind_assoc,
      pure_bind, order, page, ok_bind, List.append_assoc]
    rfl
  have rows : adapter.query table (.forOne columns filters) = (do
      let rows ← adapter.rows ((fun wanted => wanted.call wanted.queryOwn) <$> Wanted.of table columns filters)
      Action.ofExcept (firstOrNull rows)) := by
    rw [← call]
    rfl
  rw [rows, Adapter.rows, bind_assoc]
  rfl

end Adapter

/-! ## Responses -/

/-- What both ways make of one answer: the addresses must not show unless they are the same, and a value
that the reply says has to read alike. -/
theorem responses_eq_iff {answer : Except Fault Reply} {url other : String}
    (forgotten : Except Fault Unit) :
    profile.responseTo forgotten
        (readAnswer url answer >>= fun v => firstOrNull (v.orElse (.list []))) =
      profile.responseTo forgotten (readAnswer other answer >>= fun v => .ok (Adapter.oneOf v)) ↔
    (NamesAddress answer → url = other) ∧
      ∀ reply v, answer = .ok reply → reply.Says v → ReadsAlike v := by
  by_cases names : NamesAddress answer
  · -- no value comes back, and the texts differ with the addresses
    rcases readAnswer_of_named names url with ⟨fault, failed⟩
    rcases readAnswer_of_named names other with ⟨again, failing⟩
    have unsaid (reply : Reply) (v : Value) (same : answer = .ok reply) (said : reply.Says v) : False := by
      cases failed.symm.trans (readAnswer_eq_ok_iff.2 ⟨reply, same, said⟩)
    have texts : profile.responseTo forgotten (readAnswer url answer) =
        profile.responseTo forgotten (readAnswer other answer) ↔ url = other :=
      ⟨response_named_inj names, fun same => same ▸ rfl⟩
    rw [failed, failing] at texts ⊢
    refine texts.trans ⟨fun same => ⟨fun _ => same, fun reply v same said => ?_⟩, fun both => both.1 names⟩
    exact (unsaid reply v same said).elim
  · rw [readAnswer_anonymous names url other]
    cases read : readAnswer other answer with
    | error fault =>
        refine iff_of_true rfl ⟨fun named => (names named).elim, fun reply v same said => ?_⟩
        cases read.symm.trans (readAnswer_eq_ok_iff.2 ⟨reply, same, said⟩)
    | ok v =>
        rcases readAnswer_eq_ok_iff.1 read with ⟨reply, rfl, said⟩
        have row : profile.responseTo forgotten (firstOrNull (v.orElse (.list []))) =
            .ok (.success (Adapter.oneOf v)) ↔ ReadsAlike v :=
          Profile.responseTo_ok_iff.trans readsAlike_iff
        refine row.trans ⟨fun alike => ⟨fun named => (names named).elim, ?_⟩, fun both => ?_⟩
        · rintro _ w ⟨⟩ told
          have again : readAnswer other (.ok reply) = .ok w := readReply_eq_ok_iff.2 told
          cases read.symm.trans again
          exact alike
        · exact both.2 reply v rfl said

namespace Adapter

variable (adapter : Adapter) {table columns : Value} {filters : Filters} {host : Host Backend}

section Sent

variable {wanted : Wanted} (said : Wanted.of table columns filters = .ok wanted)
  (read : ∀ fault, ¬TokenUnread host fault)

include said read

theorem perform_selectOne_sent : (adapter.perform (.selectOne table columns filters) host).1 =
    profile.responseTo (profile.forget host.backend).1
      (readAnswer (adapter.base.url wanted.path (wanted.conditions ++ wanted.oneOwn))
        host.backend.server.next >>= fun v => .ok (oneOf v)) := by
  have one : adapter.body (.selectOne table columns filters) = _ := adapter.selectOne_reading
  rw [perform, one, said]
  exact adapter.response_reading read _ _ _

theorem perform_query_sent : (adapter.perform (.query table (.forOne columns filters)) host).1 =
    profile.responseTo (profile.forget host.backend).1
      (readAnswer (adapter.base.url wanted.path (wanted.conditions ++ wanted.queryOwn))
        host.backend.server.next >>= fun v => firstOrNull (v.orElse (.list []))) := by
  have wish : adapter.body (.query table (.forOne columns filters)) = _ := adapter.query_reading
  rw [perform, wish, said]
  exact adapter.response_reading read _ _ _

/-- What both ways make of a value that the reply says. -/
theorem performs_of_says {reply : Reply} {v : Value} (next : host.backend.server.next = .ok reply)
    (told : reply.Says v) :
    (adapter.perform (.selectOne table columns filters) host).1 = .ok (.success (oneOf v)) ∧
      (adapter.perform (.query table (.forOne columns filters)) host).1 =
        profile.responseTo (profile.forget host.backend).1 (firstOrNull v) := by
  have answered (url : String) : readAnswer url host.backend.server.next = .ok v := by
    rw [next]
    exact readReply_eq_ok_iff.2 told
  rw [adapter.perform_selectOne_sent said read, adapter.perform_query_sent said read, answered,
    answered, ← Query.firstOrNull_orElse]
  exact ⟨rfl, rfl⟩

end Sent

variable (table columns filters host)

/-- Where something is sent, both ways answer the same unless a failure names an address that says columns,
or the reply says a value that does not read alike. -/
theorem perform_forOne_iff :
    (adapter.perform (.query table (.forOne columns filters)) host).1 =
      (adapter.perform (.selectOne table columns filters) host).1 ↔
    ∀ wanted, Wanted.of table columns filters = .ok wanted → (∀ fault, ¬TokenUnread host fault) →
      (NamesAddress host.backend.server.next → wanted.selection = .all) ∧
        ∀ reply v, host.backend.server.next = .ok reply → reply.Says v → ReadsAlike v := by
  have wish : adapter.body (.query table (.forOne columns filters)) = _ := adapter.query_reading
  have one : adapter.body (.selectOne table columns filters) = _ := adapter.selectOne_reading
  cases said : Wanted.of table columns filters with
  | error fault =>
      rw [perform, perform, Profile.resolve_response rfl, Profile.resolve_response rfl, wish, one, said]
      refine iff_of_true rfl fun wanted other => ?_
      cases other
  | ok wanted =>
      by_cases unread : ∃ fault, TokenUnread host fault
      · -- the token is looked up before anything is sent
        rcases unread with ⟨fault, unread⟩
        have stopped (call : Call) (finish : Value → Except Fault Value) :
            adapter.reading (.ok call) finish host = (.error fault, host) :=
          Action.bind_of_error (adapter.callFor_unread unread call)
        rw [perform, perform, Profile.resolve_response rfl, Profile.resolve_response rfl, wish, one, said]
        dsimp only [Functor.map, Except.map]
        rw [stopped, stopped]
        exact iff_of_true rfl fun _ _ read => (read fault unread).elim
      · have read : ∀ fault, ¬TokenUnread host fault := not_exists.1 unread
        rw [adapter.perform_query_sent said read, adapter.perform_selectOne_sent said read,
          responses_eq_iff, wanted.url_eq_iff]
        constructor
        · rintro same _ ⟨⟩ -
          exact same
        · exact fun same => same wanted rfl read

end Adapter

end DataGateway.Rest
