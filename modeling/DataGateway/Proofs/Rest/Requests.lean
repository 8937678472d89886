import DataGateway.Proofs.Query.Page
import DataGateway.Proofs.Rest.Call
import DataGateway.Proofs.Rest.Url
import Mathlib.Data.List.Forall2

/-!
# Requests on tables

What a request says to the server. A query can only say equality, so a specification with any other
condition is refused before anything is sent; all others are said completely, one pair for each condition,
before the pairs of the operation itself. A value that has no text cannot be said either.

* `Ask` — what an operation asks about a table, and `Asking`, which operation asks what;
* `Ask.Unprinted` — something that is asked has no text;
* `Adapter.callFor_sent` — a call sends one request, unless the token cannot be taken up;
* `Adapter.perform_asks` — the address of the request of an operation says the table, the conditions in
  their order and the pairs of the operation, or nothing is sent.
-/

namespace DataGateway

/-! ## Selections -/

/-- A selection as it can be given: nothing, a text with commas, or names. -/
inductive Selection.Given : Value → Selection → Prop
  | nothing : Given .null .all
  | text (s : String) : Given (.text s) (.ofText s)
  | list (names : List String) : Given (.list (names.map .text)) (.ofNames (names.map Text.trim))
  | tuple (names : List String) : Given (.tuple (names.map .text)) (.ofNames (names.map Text.trim))

theorem Selection.Given.ofValue {columns : Value} {selection : Selection}
    (given : Selection.Given columns selection) : Selection.ofValue columns = .ok selection := by
  have texts (names : List String) :
      namesOf (names.map Value.text) = .ok (names.map Text.trim) := by
    induction names with
    | nil => rfl
    | cons name names ih =>
        rw [List.map_cons, namesOf, ih]
        rfl
  have named (names : List String) : (do return ofNames (← namesOf (names.map Value.text)) :
      Except Fault Selection) = .ok (ofNames (names.map Text.trim)) := by
    rw [texts]
    rfl
  cases given with
  | nothing => rfl
  | text s => rfl
  | list names => exact named names
  | tuple names => exact named names

/-- Does the condition ask for a certain value, and one that has a text? -/
def Condition.isSayable : Condition → Bool
  | eq operand => operand.isPrintable
  | _ => false

namespace Rest

variable {α β γ : Type}

/-! ## Conditions -/

/-- One pair for each condition, with the text of the value that it asks for. -/
def Expresses (spec : Spec) (pairs : Pairs) : Prop :=
  List.Forall₂ (fun entry pair => ∃ operand text,
    entry.2 = .eq operand ∧ operandText operand = .ok text ∧ pair = (entry.1, text)) spec pairs

/-- The first condition that a query cannot say. -/
def unsayable? (spec : Spec) : Option (String × Condition) :=
  spec.find? fun entry => !entry.2.isSayable

/-- What goes wrong with a condition that a query cannot say. -/
def unsaid (column : String) : Condition → Fault
  | .eq _ => .misuse .wholeUnwritable
  | condition => .refused (.notEquality condition.operator column)

theorem exists_operandText {operand : Value} (printable : operand.isPrintable = true) :
    ∃ text, operandText operand = .ok text := by
  unfold operandText
  split
  · exact ⟨_, rfl⟩
  · exact ⟨_, Value.printed_of_isPrintable printable⟩

theorem operandText_of_not {operand : Value} (unprintable : operand.isPrintable = false) :
    operandText operand = .error (.misuse .wholeUnwritable) := by
  unfold operandText
  split
  · cases unprintable
  · exact Value.printed_of_not unprintable

theorem pairsOf_of_expresses {spec : Spec} {pairs : Pairs} (expressed : Expresses spec pairs) :
    pairsOf spec = .ok pairs := by
  induction expressed with
  | nil => rfl
  | @cons entry pair spec pairs first _ ih =>
      rcases entry with ⟨column, condition⟩
      rcases first with ⟨operand, text, rfl, told, rfl⟩
      rw [pairsOf, told, ih]
      rfl

theorem exists_expresses {spec : Spec} (sayable : unsayable? spec = none) :
    ∃ pairs, Expresses spec pairs := by
  induction spec with
  | nil => exact ⟨[], .nil⟩
  | cons entry spec ih =>
      rcases entry with ⟨column, condition⟩
      cases condition with
      | eq operand =>
          cases printable : operand.isPrintable with
          | true =>
              rw [unsayable?, List.find?_cons_of_neg (by simp [Condition.isSayable, printable])]
                at sayable
              rcases ih sayable with ⟨pairs, expressed⟩
              rcases exists_operandText printable with ⟨text, told⟩
              exact ⟨_, .cons ⟨operand, text, rfl, told, rfl⟩ expressed⟩
          | false =>
              rw [unsayable?, List.find?_cons_of_pos (by simp [Condition.isSayable, printable])]
                at sayable
              cases sayable
      | _ => cases sayable

theorem pairsOf_of_unsayable {spec : Spec} {column : String} {condition : Condition}
    (found : unsayable? spec = some (column, condition)) :
    pairsOf spec = .error (unsaid column condition) := by
  induction spec with
  | nil => cases found
  | cons entry spec ih =>
      rcases entry with ⟨first, asked⟩
      cases asked with
      | eq operand =>
          cases printable : operand.isPrintable with
          | true =>
              rw [unsayable?, List.find?_cons_of_neg (by simp [Condition.isSayable, printable])]
                at found
              rcases exists_operandText printable with ⟨text, told⟩
              rw [pairsOf, told, ih found]
              rfl
          | false =>
              rw [unsayable?, List.find?_cons_of_pos (by simp [Condition.isSayable, printable])]
                at found
              cases found
              rw [pairsOf, operandText_of_not printable]
              rfl
      | _ =>
          cases found
          rfl

/-! ## What is asked -/

/-- What an operation asks about a table: what is to be done, behind which steps, under which conditions,
with which pairs of its own, if they have texts, and with which body. -/
structure Ask where
  method : Method
  table : String
  steps : List String := []
  spec : Spec
  own : Except Fault Pairs := .ok []
  body : Value := .null

/-- The pair of a selection, unless it is all columns. -/
def selectPairs : Selection → Pairs
  | .all => []
  | .columns names => [("select", ",".intercalate names)]

/-- Which operation asks what. -/
inductive Asking : Operation → Ask → Prop
  | select {columns : Value} {selection : Selection} {filters : Filters} {spec : Spec} (table : String)
      (given : Selection.Given columns selection) (parsed : filters.parse = .ok spec) :
      Asking (.select (.text table) columns filters)
        { method := .get, table, spec, own := .ok (selectPairs selection) }
  | selectOne {columns : Value} {selection : Selection} {filters : Filters} {spec : Spec}
      (table : String) (given : Selection.Given columns selection)
      (parsed : filters.parse = .ok spec) :
      Asking (.selectOne (.text table) columns filters)
        { method := .get, table, spec, own := .ok (("limit", "1") :: selectPairs selection) }
  | query {options : Query.Options} {selection : Selection} {checked : Query.Checked} (table : String)
      (given : Selection.Given options.select selection) (valid : options.check = .ok checked) :
      Asking (.query (.text table) options)
        { method := .get, table, spec := checked.spec,
          own := do
            return selectPairs selection ++ (← orderPairs options.ordering) ++
              (← pagePairs options.single.truthy checked.limit checked.offset) }
  | count {filters : Filters} {spec : Spec} (table : String) (parsed : filters.parse = .ok spec) :
      Asking (.count (.text table) filters) { method := .get, table, steps := ["count"], spec }
  | update {filters : Filters} {spec : Spec} (table : String) (parsed : filters.parse = .ok spec)
      (patch : Value) :
      Asking (.update (.text table) filters patch) { method := .put, table, spec, body := patch }
  | delete {filters : Filters} {spec : Spec} (table : String) (parsed : filters.parse = .ok spec) :
      Asking (.delete (.text table) filters) { method := .delete, table, spec }

namespace Ask

variable {ask : Ask}

/-- Something that is asked has no text: the value of a condition, or else the order or the page. -/
inductive Unprinted (ask : Ask) : Prop
  | condition {column : String} {operand : Value} :
      unsayable? ask.spec = some (column, .eq operand) → Unprinted ask
  | own {fault : Fault} : unsayable? ask.spec = none → ask.own = .error fault → Unprinted ask

/-- The call that asks for it, with all of its pairs. -/
def callOf (ask : Ask) (pairs : Pairs) : Call where
  method := ask.method
  path := pathOf (ask.table :: ask.steps)
  pairs
  body := ask.body

def call (ask : Ask) : Except Fault Call := do
  let pairs ← pairsOf ask.spec
  return ask.callOf (pairs ++ (← ask.own))

theorem call_of_expresses {pairs own : Pairs} (expressed : Expresses ask.spec pairs)
    (told : ask.own = .ok own) : ask.call = .ok (ask.callOf (pairs ++ own)) := by
  rw [call, pairsOf_of_expresses expressed, told]
  rfl

theorem call_of_unsayable {column : String} {condition : Condition}
    (found : unsayable? ask.spec = some (column, condition)) :
    ask.call = .error (unsaid column condition) := by
  rw [call, pairsOf_of_unsayable found]
  rfl

end Ask

theorem orderPairs_eq_error {ordering : Option Query.Ordering} {fault : Fault}
    (failed : orderPairs ordering = .error fault) : fault = .misuse .wholeUnwritable := by
  cases ordering with
  | none => cases failed
  | some ordering =>
      rcases bind_eq_error_iff.1 failed with unprinted | ⟨text, _, ended⟩
      · exact Value.eq_of_printed_eq_error unprinted
      · cases ended

theorem boundPairs_eq_error {name : String} {bound : Option Query.Bound} {fault : Fault}
    (failed : boundPairs name bound = .error fault) : fault = .misuse .wholeUnwritable := by
  cases bound with
  | none => cases failed
  | some bound =>
      rcases bind_eq_error_iff.1 failed with unprinted | ⟨text, _, ended⟩
      · exact Value.eq_of_printed_eq_error unprinted
      · cases ended

theorem pagePairs_eq_error {single : Bool} {limit offset : Option Query.Bound} {fault : Fault}
    (failed : pagePairs single limit offset = .error fault) : fault = .misuse .wholeUnwritable := by
  rcases bind_eq_error_iff.1 failed with limited | ⟨_, _, failed⟩
  · exact boundPairs_eq_error limited
  · rcases bind_eq_error_iff.1 failed with shifted | ⟨_, _, ended⟩
    · exact boundPairs_eq_error shifted
    · cases ended

/-- Of the pairs of an operation itself, only texts can be missing. -/
theorem Asking.own_eq_error {operation : Operation} {ask : Ask} (asking : Asking operation ask)
    {fault : Fault} (failed : ask.own = .error fault) : fault = .misuse .wholeUnwritable := by
  cases asking with
  | query table given valid =>
      rcases bind_eq_error_iff.1 failed with ordered | ⟨_, _, failed⟩
      · exact orderPairs_eq_error ordered
      · rcases bind_eq_error_iff.1 failed with paged | ⟨_, _, ended⟩
        · exact pagePairs_eq_error paged
        · cases ended
  | _ => cases failed

theorem Ask.Unprinted.call {operation : Operation} {ask : Ask} (unprinted : ask.Unprinted)
    (asking : Asking operation ask) : ask.call = .error (.misuse .wholeUnwritable) := by
  cases unprinted with
  | condition found => exact Ask.call_of_unsayable found
  | own sayable failed =>
      rcases exists_expresses sayable with ⟨pairs, expressed⟩
      rw [Ask.call, pairsOf_of_expresses expressed, failed, asking.own_eq_error failed]
      rfl

theorem selectionPairs_ok {columns : Value} {selection : Selection}
    (selected : Selection.ofValue columns = .ok selection) :
    selectionPairs columns = .ok (selectPairs selection) := by
  rw [selectionPairs, selected]
  cases selection <;> rfl

/-! ## One request -/

/-- What a step makes of what another step has found: it fails with it, and leaves the state to it. -/
structure Interprets (step : Work α) (first : Work γ) : Prop where
  failed : ∀ host fault after, first host = (.error fault, after) → step host = (.error fault, after)
  left : ∀ host, (step host).2 = (first host).2

theorem Interprets.refl (first : Work γ) : Interprets first first := ⟨fun _ _ _ h => h, fun _ => rfl⟩

theorem Interprets.bind {x : Work α} {f : α → Work β} {first : Work γ} (before : Interprets x first)
    (idle : ∀ a host, (f a host).2 = host) : Interprets (x >>= f) first where
  failed host fault after failed := Action.bind_of_error (before.failed host fault after failed)
  left host := (Action.bind_idle idle host).trans (before.left host)

theorem Interprets.map {x : Work α} {first : Work γ} (before : Interprets x first) (g : α → β) :
    Interprets (g <$> x) first := by
  rw [Action.map_eq_bind]
  exact before.bind fun _ _ => rfl

/-- There is no session, and the store cannot say whether there is a token. -/
def TokenUnread (host : Host Backend) (fault : Fault) : Prop :=
  host.session = none ∧ host.backend.store.read tokenKey = .error fault

/-- If the store can be read, the token is taken up, and nothing else changes. -/
theorem restoreSession_read {host : Host Backend} (read : ∀ fault, ¬TokenUnread host fault) :
    ∃ session journal, restoreSession host = (.ok (), { host with session, journal }) := by
  cases current : host.session with
  | some session => exact ⟨host.session, host.journal, restoreSession_present current⟩
  | none =>
      cases found : host.backend.store.read tokenKey with
      | error fault => exact absurd ⟨current, found⟩ (read fault)
      | ok v =>
          cases offered : tokenOf? v with
          | none =>
              exact ⟨host.session, host.journal, restoreSession_nothing current found offered⟩
          | some token =>
              rcases restoreSession_offered current found offered with ⟨journal, ran⟩
              exact ⟨_, journal, ran⟩

/-- What is sent is on the record, whatever the server answers. -/
theorem asked_send (request : Request) (backend : Backend) :
    (Backend.send request backend).2.server.asked = backend.server.asked ++ [request] := by
  rcases backend with ⟨⟨asked, answers⟩, store⟩
  cases answers with
  | nil => rfl
  | cons answer answers => cases answer <;> rfl

namespace Adapter

variable (adapter : Adapter)

theorem callFor_refused {call : Except Fault Call} {fault : Fault} (refused : call = .error fault)
    (host : Host Backend) : adapter.callFor call host = (.error fault, host) :=
  Action.ofExcept_bind_error refused _ host

theorem callFor_unread {host : Host Backend} {fault : Fault} (unread : TokenUnread host fault)
    (call : Call) : adapter.callFor (.ok call) host = (.error fault, host) :=
  (Action.ofExcept_bind_ok rfl adapter.call host).trans
    (Action.bind_of_error (restoreSession_unread unread.1 unread.2))

/-- A call sends one request, unless the token cannot be taken up. -/
theorem callFor_sent {host : Host Backend} (read : ∀ fault, ¬TokenUnread host fault) (call : Call) :
    ∃ session journal, adapter.callFor (.ok call) host =
      let sent := Backend.send (adapter.requestFor session call) host.backend
      (readAnswer (adapter.base.url call.path call.pairs) sent.1,
        { session, journal, backend := sent.2 }) := by
  rcases restoreSession_read read with ⟨session, journal, restored⟩
  exact ⟨session, journal, (Action.ofExcept_bind_ok rfl adapter.call host).trans
    (adapter.call_of_restored restored call)⟩

/-! ## Operations -/

section Operations

variable {columns : Value} {selection : Selection} {filters : Filters} {spec : Spec} {table : String}

theorem select_eq (selected : Selection.ofValue columns = .ok selection)
    (parsed : filters.parse = .ok spec) (named : table ≠ "") : adapter.select (.text table) columns filters =
      adapter.rows (Ask.call { method := .get, table, spec, own := .ok (selectPairs selection) }) := by
  rw [Adapter.select, Ask.call, parsed, selectionPairs_ok selected, tablePath_text named]
  rfl

theorem selectOne_eq (selected : Selection.ofValue columns = .ok selection)
    (parsed : filters.parse = .ok spec) (named : table ≠ "") : adapter.selectOne (.text table) columns filters =
      oneOf <$> adapter.callFor (Ask.call
        { method := .get, table, spec, own := .ok (("limit", "1") :: selectPairs selection) }) := by
  rw [Adapter.selectOne, Ask.call, parsed, selectionPairs_ok selected, tablePath_text named]
  rfl

theorem query_eq {options : Query.Options} {checked : Query.Checked}
    (selected : Selection.ofValue options.select = .ok selection) (valid : options.check = .ok checked)
    (named : table ≠ "") : adapter.query (.text table) options = (do
      let rows ← adapter.rows (Ask.call
        { method := .get, table, spec := checked.spec,
          own := do
            return selectPairs selection ++ (← orderPairs options.ordering) ++
              (← pagePairs options.single.truthy checked.limit checked.offset) })
      Action.ofExcept (Query.finish options.single.truthy rows)) := by
  rw [Adapter.query, Ask.call, valid, selectionPairs_ok selected, tablePath_text named]
  have call : (do
      let checked ← Except.ok checked
      let filterPairs ← pairsOf checked.spec
      let pairs := filterPairs ++ (← .ok (selectPairs selection)) ++
        (← orderPairs options.ordering) ++
        (← pagePairs options.single.truthy checked.limit checked.offset)
      return { method := .get, path := ← .ok (pathOf [table]), pairs } : Except Fault Call) = (do
      let pairs ← pairsOf checked.spec
      let own ← (do
        return selectPairs selection ++ (← orderPairs options.ordering) ++
          (← pagePairs options.single.truthy checked.limit checked.offset))
      return { method := .get, path := pathOf [table], body := .null, pairs := pairs ++ own }) := by
    simp only [List.append_assoc, ok_bind, bind_assoc, pure_bind]
  dsimp only
  rw [call]
  unfold Query.finish
  cases options.single.truthy <;> rfl

theorem count_eq (parsed : filters.parse = .ok spec) (named : table ≠ "") :
    adapter.count (.text table) filters = (do
      let answer ← adapter.callFor (Ask.call { method := .get, table, steps := ["count"], spec })
      Action.ofExcept (countOf answer)) := by
  have path : pathOf [table, "count"] = pathOf [table] ++ "/count" := pathOf_append [table] "count"
  rw [Adapter.count, Ask.call, parsed, tablePath_text named]
  unfold Ask.callOf
  simp only [ok_bind, List.append_nil, path]

theorem update_eq (parsed : filters.parse = .ok spec) (named : table ≠ "") (patch : Value) :
    adapter.update (.text table) filters patch =
      adapter.rows (Ask.call { method := .put, table, spec, body := patch }) := by
  rw [Adapter.update, Ask.call, parsed, tablePath_text named]
  unfold Ask.callOf
  simp only [ok_bind, List.append_nil]

theorem delete_eq (parsed : filters.parse = .ok spec) (named : table ≠ "") :
    adapter.delete (.text table) filters =
      adapter.rows (Ask.call { method := .delete, table, spec }) := by
  rw [Adapter.delete, Ask.call, parsed, tablePath_text named]
  unfold Ask.callOf
  simp only [ok_bind, List.append_nil]

end Operations

theorem interprets_rows (call : Except Fault Call) :
    Interprets (adapter.rows call) (adapter.callFor call) :=
  (Interprets.refl _).bind fun _ _ => rfl

/-- An operation makes something of what its one call finds. -/
theorem interprets_body {operation : Operation} {ask : Ask} (asking : Asking operation ask)
    (named : ask.table ≠ "") : Interprets (adapter.body operation) (adapter.callFor ask.call) := by
  cases asking with
  | select table given parsed =>
      rw [body, adapter.select_eq given.ofValue parsed named]
      exact adapter.interprets_rows _
  | selectOne table given parsed =>
      rw [body, adapter.selectOne_eq given.ofValue parsed named]
      exact (Interprets.refl _).map oneOf
  | query table given valid =>
      rw [body, adapter.query_eq given.ofValue valid named]
      exact (adapter.interprets_rows _).bind fun _ _ => rfl
  | count table parsed =>
      rw [body, adapter.count_eq parsed named]
      exact (Interprets.refl _).bind fun _ _ => rfl
  | update table parsed patch =>
      rw [body, adapter.update_eq parsed named patch]
      exact adapter.interprets_rows _
  | delete table parsed =>
      rw [body, adapter.delete_eq parsed named]
      exact adapter.interprets_rows _

/-! ## Envelopes -/

theorem fixes_forget : profile.forget.Fixes Backend.server := by
  intro backend
  rw [forget_apply]
  cases removed : backend.store.remove tokenKey with
  | error fault => rw [Action.ofExcept_bind_error rfl]
  | ok gone =>
      rw [Action.ofExcept_bind_ok rfl]
      rfl

/-- Whatever becomes of an outcome, the server is told nothing more. -/
theorem server_perform (operation : Operation) (host : Host Backend) :
    (adapter.perform operation host).2.backend.server =
      (adapter.body operation host).2.backend.server := by
  rw [perform, Profile.resolve_apply rfl]
  rcases adapter.body operation host with ⟨outcome, after⟩
  cases outcome with
  | ok data => rfl
  | error fault => exact Profile.fixes_settle rfl fixes_forget operation.name fault after

theorem message_notEquality_ne (operator column : String) :
    (Refusal.notEquality operator column).message ≠ "" := by
  have text : (Refusal.notEquality operator column).message =
      s!"Filter operator \x27{operator}\x27 on column \x27{column}\x27 cannot be expressed " ++
        "as an HTTP query parameter" := rfl
  intro empty
  rw [text, ← String.toList_eq_nil_iff, String.toList_append] at empty
  exact absurd (List.append_eq_nil_iff.1 empty).2 (by decide)

/-- A call that cannot be put together is given up before anything is sent. -/
theorem perform_uncalled {operation : Operation} {call : Except Fault Call}
    (interprets : Interprets (adapter.body operation) (adapter.callFor call)) {fault : Fault}
    (failed : call = .error fault) (spared : fault.classified.revokes = false)
    (said : fault.classified.message ≠ "") (host : Host Backend) :
    adapter.body operation host = (.error fault, host) ∧
    ∃ journal, adapter.perform operation host =
      (.ok (.failure fault.classified.message), { host with journal }) := by
  have ended := interprets.failed host _ _ (adapter.callFor_refused failed host)
  have settled := profile.settle_said rfl operation.name
    (show profile.classify fault = .ok fault.classified from rfl) spared said host
  refine ⟨ended, ?_⟩
  rw [perform, Profile.resolve_apply rfl, ended]
  exact settled

section Asking

variable {operation : Operation} {ask : Ask} (asking : Asking operation ask) (named : ask.table ≠ "")
  (host : Host Backend)

include asking named

/-- A condition that is no equality is refused, the first one of them, and nothing is sent. -/
theorem perform_refused {column : String} {condition : Condition}
    (found : unsayable? ask.spec = some (column, condition))
    (other : ∀ operand, condition ≠ .eq operand) :
    adapter.body operation host =
      (.error (.refused (.notEquality condition.operator column)), host) ∧
    ∃ journal, adapter.perform operation host =
      (.ok (.failure (Refusal.notEquality condition.operator column).message),
        { host with journal }) := by
  have refused : unsaid column condition = .refused (.notEquality condition.operator column) := by
    cases condition with
    | eq operand => exact absurd rfl (other operand)
    | _ => rfl
  have failed := Ask.call_of_unsayable found
  rw [refused] at failed
  exact adapter.perform_uncalled (adapter.interprets_body asking named) failed rfl
    (message_notEquality_ne _ _) host

/-- Nothing is sent where a text is missing. -/
theorem perform_unprinted (unprinted : ask.Unprinted) :
    adapter.body operation host = (.error (.misuse .wholeUnwritable), host) ∧
    ∃ journal, adapter.perform operation host =
      (.ok (.failure Misuse.wholeUnwritable.message), { host with journal }) :=
  adapter.perform_uncalled (adapter.interprets_body asking named) (unprinted.call asking) rfl
    (by decide) host

section Told

variable {pairs own : Pairs} (expressed : Expresses ask.spec pairs) (told : ask.own = .ok own)

include expressed told

theorem perform_unread {fault : Fault} (unread : TokenUnread host fault) :
    adapter.body operation host = (.error fault, host) ∧
      (adapter.perform operation host).2.backend.server = host.backend.server := by
  have interprets := adapter.interprets_body asking named
  rw [Ask.call_of_expresses expressed told] at interprets
  have failed := interprets.failed host _ _
    (adapter.callFor_unread unread (ask.callOf (pairs ++ own)))
  refine ⟨failed, ?_⟩
  rw [server_perform, failed]

theorem perform_sent (read : ∀ fault, ¬TokenUnread host fault) : ∃ request,
      (adapter.perform operation host).2.backend.server.asked =
        host.backend.server.asked ++ [request] ∧
      request.method = ask.method ∧ request.body = ask.body ∧
      adapter.base.read? request.url =
        some ⟨ask.table :: ask.steps, Base.queryOf (pairs ++ own)⟩ := by
  have interprets := adapter.interprets_body asking named
  rw [Ask.call_of_expresses expressed told] at interprets
  rcases adapter.callFor_sent read (ask.callOf (pairs ++ own)) with ⟨session, journal, ran⟩
  have addressed := adapter.base.read?_url (List.cons_ne_nil ask.table ask.steps) (pairs ++ own)
  refine ⟨adapter.requestFor session (ask.callOf (pairs ++ own)), ?_, rfl, rfl, addressed⟩
  rw [server_perform, interprets.left, ran]
  exact asked_send _ host.backend

end Told

/-- Of a request that was sent, this is what its address says. -/
theorem read?_of_sent {request : Request}
    (sent : (adapter.perform operation host).2.backend.server.asked =
      host.backend.server.asked ++ [request]) : ∃ pairs own, Expresses ask.spec pairs ∧
      ask.own = .ok own ∧ adapter.base.read? request.url =
        some ⟨ask.table :: ask.steps, Base.queryOf (pairs ++ own)⟩ := by
  have silent (same : (adapter.perform operation host).2.backend.server = host.backend.server) :
      False := by
    rw [same] at sent
    exact List.cons_ne_nil _ _ (List.self_eq_append_right.1 sent)
  have unfailed (fault : Fault) (failed : ask.call = .error fault) : False := by
    have ended := (adapter.interprets_body asking named).failed host _ _
      (adapter.callFor_refused failed host)
    exact silent (by rw [server_perform, ended])
  -- runs that send nothing are no cases of this one
  cases found : unsayable? ask.spec with
  | some entry => exact (unfailed _ (Ask.call_of_unsayable found)).elim
  | none =>
      rcases exists_expresses found with ⟨pairs, expressed⟩
      cases told : ask.own with
      | error fault => exact (unfailed _ ((Ask.Unprinted.own found told).call asking)).elim
      | ok own =>
          by_cases unread : ∃ fault, TokenUnread host fault
          · rcases unread with ⟨fault, unread⟩
            exact (silent (adapter.perform_unread asking named host expressed told unread).2).elim
          · rcases adapter.perform_sent asking named host expressed told (not_exists.1 unread) with
              ⟨other, asked, _, _, addressed⟩
            have same : other = request := by simpa using asked.symm.trans sent
            exact ⟨pairs, own, expressed, rfl, same ▸ addressed⟩

end Asking

end Adapter

end Rest

end DataGateway
