import DataGateway.Proofs.Rest.Inquiry

/-!
# Pages of the REST adapter

The directives of a query ask for the page of its options, and the adapter answers with the rows that come
back.

* `readPage` — the page that directives ask for;
* `Tellable` — the order and the page of a query have texts, so there are directives;
* `Adapter.perform_query` — what is answered, if the server cuts out this page;
* `Adapter.perform_untold` — what is answered where a text is missing.
-/

namespace DataGateway.Rest

/-! ## Directives -/

/-- The number that a directive says. -/
def numberOf? (name : String) (pairs : Pairs) : Option Nat :=
  (pairs.lookup name).map fun text => Numeral.digitsValue text.toList

/-- The page that directives ask for. -/
def readPage (pairs : Pairs) : Query.Page where
  offset := (numberOf? "offset" pairs).getD 0
  limit := numberOf? "limit" pairs

/-- The directives of a query, if all of them have texts. -/
def directivePairs (selection : Selection) (options : Query.Options) (checked : Query.Checked) :
    Except Fault Pairs := do
  return selectPairs selection ++ (← orderPairs options.ordering) ++
    (← pagePairs options.single.truthy checked.limit checked.offset)

/-- Have the order and the page of a query texts? -/
structure Tellable (options : Query.Options) (checked : Query.Checked) : Prop where
  column : ∀ ordering ∈ options.ordering, ordering.column.isPrintable = true
  limit : ∀ bound ∈ checked.limit, bound.toValue.isPrintable = true
  offset : ∀ bound ∈ checked.offset, bound.toValue.isPrintable = true

theorem exists_orderPairs_iff {ordering : Option Query.Ordering} :
    (∃ pairs, orderPairs ordering = .ok pairs) ↔
      ∀ given ∈ ordering, given.column.isPrintable = true := by
  cases ordering with
  | none => exact iff_of_true ⟨_, rfl⟩ nofun
  | some ordering =>
      cases printable : ordering.column.isPrintable with
      | true => simp [orderPairs, Value.printed_of_isPrintable printable, printable]
      | false => simp [orderPairs, Value.printed_of_not printable, printable]

theorem exists_boundPairs_iff {name : String} {bound : Option Query.Bound} :
    (∃ pairs, boundPairs name bound = .ok pairs) ↔
      ∀ given ∈ bound, given.toValue.isPrintable = true := by
  cases bound with
  | none => exact iff_of_true ⟨_, rfl⟩ nofun
  | some bound =>
      cases printable : bound.toValue.isPrintable with
      | true => simp [boundPairs, Value.printed_of_isPrintable printable, printable]
      | false => simp [boundPairs, Value.printed_of_not printable, printable]

/-- A bound that is put in or left out has a text. -/
theorem isPrintable_limitOf_iff {single : Bool} {limit : Option Query.Bound} :
    (∀ given ∈ limitOf single limit, given.toValue.isPrintable = true) ↔
      ∀ given ∈ limit, given.toValue.isPrintable = true := by
  cases limit with
  | some bound => simp [limitOf]
  | none =>
      cases single with
      | true =>
          refine iff_of_true ?_ nofun
          rintro _ ⟨⟩
          rfl
      | false => exact iff_of_true nofun nofun

theorem isPrintable_offsetOf_iff {offset : Option Query.Bound} :
    (∀ given ∈ offsetOf offset, given.toValue.isPrintable = true) ↔
      ∀ given ∈ offset, given.toValue.isPrintable = true := by
  refine ⟨fun each bound given => ?_, fun each bound kept => each bound (Option.filter_eq_some_iff.1 kept).1⟩
  by_cases zero : bound.toInt = 0
  · cases bound with
    | flag b => rfl
    | number n =>
        cases (show n = 0 from zero)
        rfl
  · exact each bound (Option.filter_eq_some_iff.2 ⟨given, by simpa using zero⟩)

theorem exists_directivePairs_iff {selection : Selection} {options : Query.Options}
    {checked : Query.Checked} :
    (∃ own, directivePairs selection options checked = .ok own) ↔ Tellable options checked := by
  constructor
  · rintro ⟨own, told⟩
    rcases bind_eq_ok_iff.1 told with ⟨order, ordered, told⟩
    rcases bind_eq_ok_iff.1 told with ⟨page, paged, _⟩
    rcases bind_eq_ok_iff.1 paged with ⟨limit, limited, paged⟩
    rcases bind_eq_ok_iff.1 paged with ⟨offset, shifted, _⟩
    exact ⟨exists_orderPairs_iff.1 ⟨_, ordered⟩,
      isPrintable_limitOf_iff.1 (exists_boundPairs_iff.1 ⟨_, limited⟩),
      isPrintable_offsetOf_iff.1 (exists_boundPairs_iff.1 ⟨_, shifted⟩)⟩
  · rintro ⟨column, limit, offset⟩
    rcases exists_orderPairs_iff.2 column with ⟨order, ordered⟩
    have asked : ∀ given ∈ limitOf options.single.truthy checked.limit,
        given.toValue.isPrintable = true := isPrintable_limitOf_iff.2 limit
    rcases exists_boundPairs_iff.2 asked with ⟨limits, limited⟩
    rcases exists_boundPairs_iff.2 (isPrintable_offsetOf_iff.2 offset) with ⟨shifts, shifted⟩
    have paged : pagePairs options.single.truthy checked.limit checked.offset = .ok (limits ++ shifts) :=
      bind_eq_ok_iff.2 ⟨limits, limited, bind_eq_ok_iff.2 ⟨shifts, shifted, rfl⟩⟩
    exact ⟨_, bind_eq_ok_iff.2 ⟨order, ordered, bind_eq_ok_iff.2 ⟨_, paged, rfl⟩⟩⟩

theorem directivePairs_eq_error {selection : Selection} {options : Query.Options}
    {checked : Query.Checked} (untold : ¬Tellable options checked) :
    directivePairs selection options checked = .error (.misuse .wholeUnwritable) := by
  cases told : directivePairs selection options checked with
  | ok own => exact absurd (exists_directivePairs_iff.1 ⟨own, told⟩) untold
  | error fault =>
      rcases bind_eq_error_iff.1 told with ordered | ⟨_, _, told⟩
      · rw [orderPairs_eq_error ordered]
      · rcases bind_eq_error_iff.1 told with paged | ⟨_, _, ended⟩
        · rw [pagePairs_eq_error paged]
        · cases ended

section Told

variable {selection : Selection} {options : Query.Options} {checked : Query.Checked} {own : Pairs}
  (told : directivePairs selection options checked = .ok own)

include told

/-- The directives for the page. -/
theorem lookup_directivePairs :
    own.lookup "limit" =
        (limitOf options.single.truthy checked.limit).map (fun bound => bound.toValue.display) ∧
      own.lookup "offset" = (offsetOf checked.offset).map fun bound => bound.toValue.display := by
  rcases bind_eq_ok_iff.1 told with ⟨order, ordered, told⟩
  rcases bind_eq_ok_iff.1 told with ⟨page, paged, ended⟩
  cases ended
  rw [selectPairs_eq, orderPairs_eq_ok ordered, pagePairs_eq_ok paged]
  rcases lookup_directives (selection.names?.map (",".intercalate ·)) _ _ _ with
    ⟨_, _, limited, shifted⟩
  exact ⟨limited, shifted⟩

/-- Behind an offset without a limit there is no directive for a limit. -/
theorem lookup_directivePairs_of_unlimited {bound : Query.Bound} (unlimited : checked.limit = none)
    (many : options.single.truthy = false) (shifted : checked.offset = some bound)
    (positive : 1 ≤ bound.toInt) :
    own.lookup "limit" = none ∧ own.lookup "offset" = some bound.toValue.display := by
  have apart : bound.toInt ≠ 0 := by omega
  rcases lookup_directivePairs told with ⟨limit, offset⟩
  constructor
  · rw [limit, many, unlimited]
    rfl
  · rw [offset, shifted]
    simp [offsetOf, Option.filter, apart]

end Told

/-- What is read from the text of a bound. -/
theorem digitsValue_display {bound : Query.Bound} (number : ∃ n, bound = .number n)
    (nonneg : 0 ≤ bound.toInt) :
    Numeral.digitsValue bound.toValue.display.toList = bound.toInt.toNat := by
  rcases number with ⟨n, rfl⟩
  have read := Numeral.digitsValue_toString nonneg
  have shown : (Query.Bound.number n).toValue.display = toString n := rfl
  rw [shown]
  exact (Int.toNat_natCast _).symm.trans (congrArg Int.toNat read)

section Checked

variable {options : Query.Options} {checked : Query.Checked} (valid : options.check = .ok checked)
  (plain : checked.IsPlain)

include valid plain

theorem digitsValue_limitOf (single : Bool) :
    ((limitOf single checked.limit).map fun bound =>
      Numeral.digitsValue bound.toValue.display.toList) = (checked.page.forOne single).limit := by
  rw [Query.Checked.limit_forOne, limitOf]
  split
  · rfl
  · refine Option.map_congr fun bound member => ?_
    have least := (Query.Options.check_eq_ok valid).1 bound member
    exact digitsValue_display (plain.limit bound member) (Int.le_trans (by decide) least)

theorem digitsValue_offsetOf : ((offsetOf checked.offset).map fun bound =>
    Numeral.digitsValue bound.toValue.display.toList).getD 0 = checked.page.offset := by
  have shifted := (Query.Options.check_eq_ok valid).2.1
  cases given : checked.offset with
  | none =>
      rw [Query.Checked.page, given]
      rfl
  | some bound =>
      have read := digitsValue_display (plain.offset bound given) (shifted bound given)
      rw [Query.Checked.page, given]
      by_cases zero : bound.toInt = 0
      · simp [offsetOf, Option.filter, zero]
      · simp [offsetOf, Option.filter, zero, read]

/-- The directives of a query ask for the page of its options. -/
theorem readPage_directivePairs {selection : Selection} {own : Pairs}
    (told : directivePairs selection options checked = .ok own) :
    readPage own = checked.page.forOne options.single.truthy := by
  have limit := digitsValue_limitOf valid plain options.single.truthy
  have offset := digitsValue_offsetOf valid plain
  rcases lookup_directivePairs told with ⟨limited, shifted⟩
  rw [readPage, numberOf?, numberOf?, limited, shifted, Option.map_map, Option.map_map]
  rw [← Query.Page.offset_forOne options.single.truthy] at offset
  exact congrArg₂ Query.Page.mk offset limit

end Checked

/-! ## Replies -/

/-- Does a reply answer with a list of rows? -/
structure Reply.Lists (reply : Reply) (rows : List Value) : Prop where
  succeeded : 200 ≤ reply.status ∧ reply.status < 300
  said : Json.decode reply.content.toList = .ok (.list rows)

theorem readReply_of_lists {reply : Reply} {rows : List Value} (lists : reply.Lists rows)
    (url : String) : readReply url reply = .ok (.list rows) := by
  rcases lists with ⟨⟨least, most⟩, said⟩
  have allowed : ¬(reply.status == 401) = true := by
    rw [beq_iff_eq]
    omega
  have fine : ¬(decide (reply.status < 200) || decide (300 ≤ reply.status)) = true := by
    rw [Bool.or_eq_true, decide_eq_true_iff, decide_eq_true_iff]
    omega
  have some : ¬(reply.content == "") = true := by
    intro empty
    rw [beq_iff_eq.1 empty] at said
    cases said
  unfold readReply
  dsimp only
  rw [if_neg allowed, if_neg fine, if_neg some, said]

namespace Adapter

variable (adapter : Adapter) {table : String} {options : Query.Options} {checked : Query.Checked}
  {selection : Selection} {conditions : Pairs} {host : Host Backend} {reply : Reply}

/-- What is made of the rows of a page, where one row is wanted or all are. -/
theorem rows_finish (valid : options.check = .ok checked) {call : Except Fault Call} {single : Bool}
    {rows : List Value} {after : Host Backend}
    (ran : adapter.callFor call host = (.ok (.list ((checked.page.forOne single).rows rows)), after)) :
    (adapter.rows call >>= fun rows => Action.ofExcept (Query.finish single rows)) host =
      (.ok (checked.page.answer single rows), after) := by
  have fetched : adapter.rows call host =
      (.ok (.list ((checked.page.forOne single).rows rows)), after) := by
    refine (Action.bind_of_ok ran).trans ?_
    rw [Query.orElse_list]
    rfl
  rw [Action.bind_of_ok fetched, Query.finish_rows,
    Query.Page.answer_forOne (Query.Checked.limit_page_ne valid)]
  rfl

section Asked

variable (valid : options.check = .ok checked)
  (selected : Selection.ofValue options.select = .ok selection) (named : table ≠ "")
  (expressed : Expresses checked.spec conditions)

include valid selected named expressed

/-- Nothing is asked where a text is missing. -/
theorem perform_untold (untold : ¬Tellable options checked) (host : Host Backend) :
    ∃ journal, adapter.perform (.query (.text table) options) host =
      (.ok (.failure Misuse.wholeUnwritable.message), { host with journal }) := by
  let ask : Ask :=
    { method := .get, table, spec := checked.spec, own := directivePairs selection options checked }
  have failed : ask.call = .error (.misuse .wholeUnwritable) := by
    rw [Ask.call, pairsOf_of_expresses expressed, ok_bind]
    exact bind_eq_error_iff.2 (.inl (directivePairs_eq_error untold))
  have interprets : Interprets (adapter.body (.query (.text table) options))
      (adapter.callFor ask.call) := by
    rw [body, adapter.query_eq selected valid named]
    exact (adapter.interprets_rows _).bind fun _ _ => rfl
  exact (adapter.perform_uncalled interprets failed rfl (by decide) host).2

variable {own : Pairs} (told : directivePairs selection options checked = .ok own)
  (read : ∀ fault, ¬TokenUnread host fault)

include told read

/-- A query asks for its page under its conditions. -/
theorem ran_query :
    ∃ call session journal,
      adapter.query (.text table) options = (do
        let rows ← adapter.rows (.ok call)
        Action.ofExcept (Query.finish options.single.truthy rows)) ∧
      adapter.base.read? (adapter.requestFor session call).url =
        some ⟨[table], Base.queryOf (conditions ++ own)⟩ ∧
      adapter.callFor (.ok call) host =
        let sent := Backend.send (adapter.requestFor session call) host.backend
        (readAnswer (adapter.base.url call.path call.pairs) sent.1,
          { session, journal, backend := sent.2 }) := by
  let ask : Ask :=
    { method := .get, table, spec := checked.spec, own := directivePairs selection options checked }
  have called : ask.call = .ok (ask.callOf (conditions ++ own)) :=
    Ask.call_of_expresses expressed told
  have body := adapter.query_eq selected valid named
  rcases adapter.callFor_sent read (ask.callOf (conditions ++ own)) with ⟨session, journal, ran⟩
  have addressed := adapter.base.read?_url (List.cons_ne_nil table []) (conditions ++ own)
  exact ⟨ask.callOf (conditions ++ own), session, journal, called ▸ body, addressed, ran⟩

/-- A query sends one request, whose address says its conditions and its directives. If the server answers
with the page that the directives ask for, these rows are what is answered. -/
theorem perform_query :
    ∃ request, (adapter.perform (.query (.text table) options) host).2.backend.server.asked =
        host.backend.server.asked ++ [request] ∧
      adapter.base.read? request.url =
        some ⟨[table], Base.queryOf (conditions ++ own)⟩ ∧
      (checked.IsPlain → ∀ reply rows, host.backend.server.answers = [.ok reply] →
        reply.Lists ((readPage own).rows rows) → ∃ after,
          adapter.perform (.query (.text table) options) host =
            (.ok (.success (checked.page.answer options.single.truthy rows)), after)) := by
  rcases adapter.ran_query valid selected named expressed told read with
    ⟨call, session, journal, body, addressed, ran⟩
  refine ⟨adapter.requestFor session call, ?_, addressed, fun plain reply rows ready lists => ?_⟩
  · have interprets := (adapter.interprets_rows (.ok call)).bind
      (f := fun rows => Action.ofExcept (Query.finish options.single.truthy rows)) fun _ _ => rfl
    rw [server_perform, Adapter.body, body, interprets.left, ran]
    exact asked_send _ host.backend
  · -- the rows that came back are those of the page, so the rest is what the adapter makes of them
    rw [readPage_directivePairs valid plain told] at lists
    rw [send_apply _ ready] at ran
    dsimp only [readAnswer] at ran
    rw [readReply_of_lists lists] at ran
    rw [perform, Profile.resolve_apply rfl, Adapter.body, body, adapter.rows_finish valid ran]
    exact ⟨_, rfl⟩

end Asked

end Adapter

end DataGateway.Rest
