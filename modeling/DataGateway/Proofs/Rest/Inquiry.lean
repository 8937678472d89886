import DataGateway.Proofs.Query.Page
import DataGateway.Proofs.Rest.Requests
import DataGateway.Proofs.Number.Numeral

/-!
# What a reading request asks for

The conditions and the directives of a request share one query: a directive is a pair whose name is
`select`, `order`, `limit` or `offset`. A server that takes these names for directives reads back what was
asked, as long as no condition is on a column of such a name and the names of columns in a list can be
told apart.

* `Inquiry` — what is asked for, and `Inquires`, which operation asks for what;
* `Inquiry.read` — what a server reads from the address of a request;
* `Adapter.inquiry_unique` — requests with one address ask for the same.
-/

namespace DataGateway

namespace Rest

open Text

/-! ## Inquiries -/

/-- What is asked for: rows of a table under conditions, which columns of them, in which order, and which
page. -/
structure Inquiry where
  table : String
  conditions : Pairs
  selection : Selection
  order : Option (String × Bool)
  limit : Option Query.Bound
  offset : Option Query.Bound
  deriving DecidableEq

/-- The limit that is asked for: a wish for one row is a limit of one unless there is another. -/
def limitOf (single : Bool) (limit : Option Query.Bound) : Option Query.Bound :=
  if single && limit.isNone then some (.number 1) else limit

/-- Passing over no rows is no offset. -/
def offsetOf (offset : Option Query.Bound) : Option Query.Bound :=
  offset.filter fun bound => bound.toInt != 0

/-- Which operation asks for what. -/
inductive Inquires : Operation → Inquiry → Prop
  | select {columns : Value} {selection : Selection} {filters : Filters} {spec : Spec}
      {conditions : Pairs} (table : String) (given : Selection.Given columns selection)
      (parsed : filters.parse = .ok spec) (expressed : Expresses spec conditions) :
      Inquires (.select (.text table) columns filters)
        ⟨table, conditions, selection, none, none, none⟩
  | selectOne {columns : Value} {selection : Selection} {filters : Filters} {spec : Spec}
      {conditions : Pairs} (table : String) (given : Selection.Given columns selection)
      (parsed : filters.parse = .ok spec) (expressed : Expresses spec conditions) :
      Inquires (.selectOne (.text table) columns filters)
        ⟨table, conditions, selection, none, some (.number 1), none⟩
  | query {options : Query.Options} {selection : Selection} {checked : Query.Checked}
      {conditions : Pairs} (table : String) (given : Selection.Given options.select selection)
      (valid : options.check = .ok checked) (expressed : Expresses checked.spec conditions) :
      Inquires (.query (.text table) options)
        ⟨table, conditions, selection,
          options.ordering.map fun ordering => (ordering.column.display, ordering.ascending.truthy),
          limitOf options.single.truthy checked.limit, offsetOf checked.offset⟩

/-! ## Reading -/

/-- The names of directives. -/
def directives : List String := ["select", "order", "limit", "offset"]

/-- The names of columns in a text: what stands between commas, and is not empty. -/
def readNames (text : String) : Selection :=
  .columns (((pieces ',' text.toList).filter fun piece => !piece.isEmpty).map String.ofList)

/-- A column and a direction; the direction stands behind the last point. -/
def readOrder (text : String) : Option (String × Bool) :=
  match text.toList.reverse with
  | 'c' :: 's' :: 'a' :: '.' :: column => some (String.ofList column.reverse, true)
  | 'c' :: 's' :: 'e' :: 'd' :: '.' :: column => some (String.ofList column.reverse, false)
  | _ => none

def readBound (text : String) : Query.Bound :=
  if text == "True" then .flag true else .number (Numeral.digitsValue text.toList)

/-- What pairs ask for of a table. -/
def Inquiry.read (table : String) (pairs : Pairs) : Inquiry where
  table
  conditions := pairs.filter fun pair => !directives.contains pair.1
  selection := ((pairs.lookup "select").map readNames).getD .all
  order := (pairs.lookup "order").bind readOrder
  limit := (pairs.lookup "limit").map readBound
  offset := (pairs.lookup "offset").map readBound

/-! ## Texts of directives -/

/-- Names that can be told apart when commas stand between them. -/
def Distinct (selection : Selection) : Prop :=
  ∀ names, selection = .columns names → ∀ name ∈ names, name ≠ "" ∧ ',' ∉ name.toList

theorem readNames_intercalate {names : List String}
    (distinct : ∀ name ∈ names, name ≠ "" ∧ ',' ∉ name.toList) :
    readNames (",".intercalate names) = .columns names := by
  cases names with
  | nil => rfl
  | cons name names =>
      have clear : ∀ part ∈ (name :: names).map String.toList, ',' ∉ part :=
        List.forall_mem_map.2 fun name member => (distinct name member).2
      have full : ∀ part ∈ (name :: names).map String.toList, (!part.isEmpty) = true := by
        refine List.forall_mem_map.2 fun name member => ?_
        rw [Bool.not_eq_true', List.isEmpty_eq_false_iff, ne_eq, String.toList_eq_nil_iff]
        exact (distinct name member).1
      have back : ((name :: names).map String.toList).map String.ofList = name :: names := by
        simp
      rw [readNames, String.toList_intercalate, show ",".toList = [','] from rfl,
        pieces_intercalate (List.map_cons .. ▸ List.cons_ne_nil _ _) clear,
        List.filter_eq_self.2 full, back]

theorem readOrder_text (column : String) (ascending : Bool) :
    readOrder (column ++ "." ++ (if ascending then "asc" else "desc")) = some (column, ascending) := by
  cases ascending <;> simp [readOrder]

theorem readBound_display {bound : Query.Bound} (least : 1 ≤ bound.toInt) :
    readBound bound.toValue.display = bound := by
  cases bound with
  | flag b =>
      cases b with
      | true => rfl
      | false => exact absurd least (by decide)
  | number n =>
      have nonneg : 0 ≤ n := Int.le_trans (by decide) least
      have digits : toString n ≠ "True" := by
        intro same
        have letter : 'T' ∈ Nat.toDigits 10 n.toNat := by
          rw [← Numeral.toList_toString nonneg, same]
          decide
        exact absurd (Numeral.isDigit_of_mem_toDigits letter) (by decide)
      have shown : (Query.Bound.number n).toValue.display = toString n := rfl
      rw [shown, readBound, if_neg fun same => digits (beq_iff_eq.1 same),
        Numeral.digitsValue_toString nonneg]

/-! ## Directives -/

/-- A directive, if there is one. -/
def directive (name : String) (text : Option String) : Pairs :=
  (text.map fun text => (name, text)).toList

theorem lookup_directive (name other : String) (text : Option String) :
    (directive other text).lookup name = if name == other then text else none := by
  cases text with
  | none => simp [directive]
  | some text => exact List.lookup_singleton

theorem mem_directive {name : String} {text : Option String} {pair : String × String}
    (member : pair ∈ directive name text) : pair.1 = name := by
  rcases Option.map_eq_some_iff.1 (Option.mem_toList.1 member) with ⟨text, _, rfl⟩
  rfl

theorem selectPairs_eq (selection : Selection) :
    selectPairs selection = directive "select" (selection.names?.map (",".intercalate ·)) := by
  cases selection <;> rfl

theorem orderPairs_eq_ok {ordering : Option Query.Ordering} {pairs : Pairs}
    (told : orderPairs ordering = .ok pairs) :
    pairs = directive "order" (ordering.map fun ordering =>
      ordering.column.display ++ "." ++ (if ordering.ascending.truthy then "asc" else "desc")) := by
  cases ordering with
  | none =>
      cases told
      rfl
  | some ordering =>
      rcases bind_eq_ok_iff.1 told with ⟨text, printed, ended⟩
      cases ended
      rw [(Value.printed_eq_ok_iff.1 printed).2]
      rfl

theorem boundPairs_eq_ok {name : String} {bound : Option Query.Bound} {pairs : Pairs}
    (told : boundPairs name bound = .ok pairs) :
    pairs = directive name (bound.map fun bound => bound.toValue.display) := by
  cases bound with
  | none =>
      cases told
      rfl
  | some bound =>
      rcases bind_eq_ok_iff.1 told with ⟨text, printed, ended⟩
      cases ended
      rw [(Value.printed_eq_ok_iff.1 printed).2]
      rfl

theorem pagePairs_eq_ok {single : Bool} {limit offset : Option Query.Bound} {pairs : Pairs}
    (told : pagePairs single limit offset = .ok pairs) :
    pairs = directive "limit" ((limitOf single limit).map fun bound => bound.toValue.display) ++
      directive "offset" ((offsetOf offset).map fun bound => bound.toValue.display) := by
  rcases bind_eq_ok_iff.1 told with ⟨limits, limited, told⟩
  rcases bind_eq_ok_iff.1 told with ⟨shifts, shifted, ended⟩
  cases ended
  rw [boundPairs_eq_ok limited, boundPairs_eq_ok shifted]
  rfl

/-- Conditions on columns of other names and the directives behind them are told apart. -/
theorem read_append {table : String} {conditions own : Pairs}
    (clear : ∀ pair ∈ conditions, pair.1 ∉ directives)
    (named : ∀ pair ∈ own, pair.1 ∈ directives) :
    Inquiry.read table (conditions ++ own) = { Inquiry.read table own with conditions } := by
  have kept : (conditions ++ own).filter (fun pair => !directives.contains pair.1) = conditions := by
    rw [List.filter_append, List.filter_eq_self.2 (by simpa using clear),
      List.filter_eq_nil_iff.2 (by simpa using named), List.append_nil]
  have found {name : String} (listed : name ∈ directives) :
      (conditions ++ own).lookup name = own.lookup name := by
    have absent : conditions.lookup name = none := by
      refine List.lookup_eq_none_iff.2 fun pair member => ?_
      refine bne_iff_ne.2 ?_
      rintro rfl
      exact clear pair member listed
    rw [List.lookup_append, absent, Option.none_or]
  simp only [Inquiry.read, kept, found (show "select" ∈ directives by decide),
    found (show "order" ∈ directives by decide), found (show "limit" ∈ directives by decide),
    found (show "offset" ∈ directives by decide)]

/-- The bounds that are asked for have texts that say them. -/
theorem map_readBound {bound : Option Query.Bound} (least : ∀ b ∈ bound, 1 ≤ b.toInt) :
    (bound.map fun bound => bound.toValue.display).map readBound = bound := by
  cases bound with
  | none => rfl
  | some bound => exact congrArg some (readBound_display (least bound rfl))

theorem readNames_selection {selection : Selection} (distinct : Distinct selection) :
    ((selection.names?.map (",".intercalate ·)).map readNames).getD .all = selection := by
  cases selection with
  | all => rfl
  | columns names => exact readNames_intercalate (distinct names rfl)

theorem le_of_limitOf (single : Bool) {limit : Option Query.Bound}
    (least : ∀ bound ∈ limit, 1 ≤ bound.toInt) : ∀ bound ∈ limitOf single limit, 1 ≤ bound.toInt := by
  unfold limitOf
  split
  · rintro _ ⟨⟩
    decide
  · exact least

theorem le_of_offsetOf {offset : Option Query.Bound} (least : ∀ bound ∈ offset, 0 ≤ bound.toInt) :
    ∀ bound ∈ offsetOf offset, 1 ≤ bound.toInt := by
  intro bound member
  rcases Option.filter_eq_some_iff.1 member with ⟨given, positive⟩
  have nonneg := least bound given
  have apart : bound.toInt ≠ 0 := bne_iff_ne.1 positive
  omega

/-- What is read of directives, whichever order they stand in. -/
theorem read_of_lookup {table : String} {conditions own : Pairs}
    {names order limit offset : Option String}
    (named : own.lookup "select" = names) (ordered : own.lookup "order" = order)
    (limited : own.lookup "limit" = limit) (shifted : own.lookup "offset" = offset) :
    { Inquiry.read table own with conditions } = ⟨table, conditions, (names.map readNames).getD .all,
      order.bind readOrder, limit.map readBound, offset.map readBound⟩ := by
  subst named ordered limited shifted
  rfl

/-- Each of the four directives of a query is found. -/
theorem lookup_directives (names order limit offset : Option String) :
    let own := directive "select" names ++ directive "order" order ++
      (directive "limit" limit ++ directive "offset" offset)
    own.lookup "select" = names ∧ own.lookup "order" = order ∧ own.lookup "limit" = limit ∧
      own.lookup "offset" = offset := by
  simp [List.lookup_append, lookup_directive]

/-- What an operation asks for is said by the conditions and the directives of its request. -/
theorem Inquires.asking {operation : Operation} {inquiry : Inquiry}
    (inquires : Inquires operation inquiry) (distinct : Distinct inquiry.selection) :
    ∃ ask, Asking operation ask ∧ ask.table = inquiry.table ∧ ask.steps = [] ∧
      Expresses ask.spec inquiry.conditions ∧ ∀ own, ask.own = .ok own →
        (∀ pair ∈ own, pair.1 ∈ directives) ∧
        { Inquiry.read inquiry.table own with conditions := inquiry.conditions } = inquiry := by
  have listed {name : String} {text : Option String} (known : name ∈ directives) :
      ∀ pair ∈ directive name text, pair.1 ∈ directives :=
    fun pair member => mem_directive member ▸ known
  have names := readNames_selection distinct
  cases inquires with
  | select table given parsed expressed =>
      refine ⟨_, .select table given parsed, rfl, rfl, expressed, ?_⟩
      rintro own ⟨⟩
      constructor
      · rw [selectPairs_eq]
        exact listed (by decide)
      · rw [selectPairs_eq, read_of_lookup (lookup_directive ..) (lookup_directive ..)
          (lookup_directive ..) (lookup_directive ..)]
        exact congrArg (Inquiry.mk _ _ · _ _ _) names
  | selectOne table given parsed expressed =>
      refine ⟨_, .selectOne table given parsed, rfl, rfl, expressed, ?_⟩
      rintro own ⟨⟩
      constructor
      · rw [selectPairs_eq]
        exact List.forall_mem_cons.2 ⟨by decide, listed (by decide)⟩
      · have behind {name : String} (other : name ≠ "limit") (text : Option String) :
            (("limit", "1") :: directive "select" text).lookup name =
              if name == "select" then text else none := by
          rw [List.lookup_cons, beq_false_of_ne other]
          exact lookup_directive name "select" text
        rw [selectPairs_eq, read_of_lookup (behind (by decide) _) (behind (by decide) _)
          List.lookup_cons_self (behind (by decide) _)]
        exact congrArg (Inquiry.mk _ _ · _ _ _) names
  | @query options selection checked conditions table given valid expressed =>
      rcases Query.Options.check_eq_ok valid with ⟨limited, shifted, _⟩
      have limit := map_readBound (le_of_limitOf options.single.truthy limited)
      have offset := map_readBound (le_of_offsetOf shifted)
      refine ⟨_, .query table given valid, rfl, rfl, expressed, ?_⟩
      intro own told
      rcases bind_eq_ok_iff.1 told with ⟨orders, ordered, told⟩
      rcases bind_eq_ok_iff.1 told with ⟨pages, paged, ended⟩
      cases ended
      rw [selectPairs_eq, orderPairs_eq_ok ordered, pagePairs_eq_ok paged]
      constructor
      · simp only [List.forall_mem_append]
        exact ⟨⟨listed (by decide), listed (by decide)⟩, listed (by decide), listed (by decide)⟩
      · have order : (options.ordering.map fun ordering => ordering.column.display ++ "." ++
            (if ordering.ascending.truthy then "asc" else "desc")).bind readOrder =
              options.ordering.map fun ordering =>
                (ordering.column.display, ordering.ascending.truthy) := by
          cases options.ordering with
          | none => rfl
          | some ordering => exact readOrder_text _ _
        rcases lookup_directives (selection.names?.map (",".intercalate ·)) _ _ _ with
          ⟨named, ordered, limited, shifted⟩
        rw [read_of_lookup named ordered limited shifted, order, limit, offset]
        exact congrArg (Inquiry.mk _ _ · _ _ _) names

/-! ## Names in a selection -/

/-- The columns that a reading operation selects, as they were given. -/
def columns? : Operation → Option Value
  | .select _ columns _ | .selectOne _ columns _ => some columns
  | .query _ options => some options.select
  | _ => none

/-- Names that are given as a list are neither empty nor have commas. -/
def ListsNames (operation : Operation) : Prop :=
  ∀ names : List String, (columns? operation = some (.list (names.map .text)) ∨
    columns? operation = some (.tuple (names.map .text))) →
      ∀ name ∈ names, Text.trim name ≠ "" ∧ ',' ∉ (Text.trim name).toList

theorem mem_of_mem_trim {s : String} {c : Char} (member : c ∈ (Text.trim s).toList) :
    c ∈ s.toList := by
  rw [Text.trim, String.toList_ofList, trimBy] at member
  have inner := (List.dropWhile_sublist _).subset (List.mem_reverse.1 member)
  exact (List.dropWhile_sublist _).subset (List.mem_reverse.1 inner)

/-- The names in a text with commas can always be told apart. -/
theorem distinct_ofText (s : String) : Distinct (.ofText s) := by
  intro names split name member
  unfold Selection.ofText at split
  dsimp only at split
  split at split
  · cases split
  · cases split
    rcases List.mem_filter.1 member with ⟨mapped, full⟩
    rcases List.mem_map.1 mapped with ⟨piece, part, rfl⟩
    refine ⟨bne_iff_ne.1 full, fun comma => not_mem_of_mem_pieces part ?_⟩
    simpa using mem_of_mem_trim comma

theorem distinct_ofNames {names : List String}
    (clear : ∀ name ∈ names, Text.trim name ≠ "" ∧ ',' ∉ (Text.trim name).toList) :
    Distinct (.ofNames (names.map Text.trim)) := by
  intro others split name member
  unfold Selection.ofNames at split
  split at split
  · cases split
  · cases split
    rcases List.mem_map.1 member with ⟨given, listed, rfl⟩
    exact clear given listed

theorem distinct_of_given {columns : Value} {selection : Selection} {operation : Operation}
    (given : Selection.Given columns selection) (selected : columns? operation = some columns)
    (lists : ListsNames operation) : Distinct selection := by
  cases given with
  | nothing => exact nofun
  | text s => exact distinct_ofText s
  | list names => exact distinct_ofNames (lists names (.inl selected))
  | tuple names => exact distinct_ofNames (lists names (.inr selected))

theorem Inquires.distinct {operation : Operation} {inquiry : Inquiry}
    (inquires : Inquires operation inquiry) (lists : ListsNames operation) :
    Distinct inquiry.selection := by
  cases inquires with
  | select table given _ _ => exact distinct_of_given given rfl lists
  | selectOne table given _ _ => exact distinct_of_given given rfl lists
  | query table given _ _ => exact distinct_of_given given rfl lists

/-! ## Requests -/

/-- What the address of a request asks for, if it is about one table. -/
def Address.inquiry? (address : Address) : Option Inquiry :=
  match address.segments with
  | [table] => some (Inquiry.read table (address.query.getD []))
  | _ => none

theorem getD_queryOf (pairs : Pairs) : (Base.queryOf pairs).getD [] = pairs := by
  cases pairs <;> rfl

theorem queryOf_inj {pairs others : Pairs} (same : Base.queryOf pairs = Base.queryOf others) :
    pairs = others := by
  rw [← getD_queryOf pairs, same, getD_queryOf]

theorem Expresses.unique {spec : Spec} {pairs others : Pairs} (expressed : Expresses spec pairs)
    (again : Expresses spec others) : pairs = others :=
  Except.ok.inj ((pairsOf_of_expresses expressed).symm.trans (pairsOf_of_expresses again))

namespace Adapter

/-- A server reads back what was asked for. -/
theorem inquiry?_of_sent (adapter : Adapter) {host : Host Backend} {operation : Operation}
    {inquiry : Inquiry} {request : Request} (inquires : Inquires operation inquiry)
    (named : inquiry.table ≠ "") (clear : ∀ pair ∈ inquiry.conditions, pair.1 ∉ directives)
    (distinct : Distinct inquiry.selection)
    (sent : (adapter.perform operation host).2.backend.server.asked =
      host.backend.server.asked ++ [request]) :
    (adapter.base.read? request.url).bind Address.inquiry? = some inquiry := by
  rcases inquires.asking distinct with ⟨ask, asking, table, steps, expressed, reads⟩
  rw [← table] at named
  rcases adapter.read?_of_sent asking named host sent with ⟨pairs, own, again, told, addressed⟩
  rcases reads own told with ⟨directed, back⟩
  cases expressed.unique again
  rw [addressed, table, steps, Option.bind_some, Address.inquiry?]
  dsimp only
  rw [getD_queryOf, read_append clear directed, back]

/-- Two requests with one address ask for the same: the same conditions on a table, the same columns, the
same order and the same page. Conditions are on columns without the name of a directive, and names in a
list are neither empty nor have commas. -/
theorem inquiry_unique (adapter : Adapter) {host place : Host Backend} {operation other : Operation}
    {inquiry wish : Inquiry} {request again : Request} (inquires : Inquires operation inquiry)
    (wishes : Inquires other wish) (named : inquiry.table ≠ "" ∧ wish.table ≠ "")
    (clear : ∀ pair ∈ inquiry.conditions ++ wish.conditions, pair.1 ∉ directives)
    (lists : ListsNames operation ∧ ListsNames other)
    (sent : (adapter.perform operation host).2.backend.server.asked =
      host.backend.server.asked ++ [request])
    (repeated : (adapter.perform other place).2.backend.server.asked =
      place.backend.server.asked ++ [again])
    (same : request.url = again.url) : inquiry = wish := by
  rcases List.forall_mem_append.1 clear with ⟨first, second⟩
  -- one reader gives back both inquiries from the same address
  have asked := adapter.inquiry?_of_sent inquires named.1 first (inquires.distinct lists.1) sent
  have wished := adapter.inquiry?_of_sent wishes named.2 second (wishes.distinct lists.2) repeated
  rw [same] at asked
  exact Option.some.inj (asked.symm.trans wished)

/-- Two columns are selected by a text and by a list. -/
theorem inquiry_unique_columns :
    let adapter : Adapter := ⟨⟨"http://localhost"⟩, .null⟩
    let host : Host Backend := { backend := { store := .memory [] } }
    let filters : Filters := .other (.object [("team", .text "a&b")])
    let operation : Operation := .select (.text "users") (.text "id, name") filters
    let other : Operation :=
      .query (.text "users") { select := .list [.text "id", .text " name"], filters }
    let request : Request :=
      ⟨.get, "http://localhost/users?team=a%26b&select=id,name", .null,
        [("Content-Type", "application/json")], .null⟩
    let inquiry : Inquiry :=
      ⟨"users", [("team", "a&b")], .ofText "id, name", none, none, none⟩
    let wish : Inquiry :=
      ⟨"users", [("team", "a&b")], .ofNames ["id", Text.trim " name"], none, none, none⟩
    Inquires operation inquiry ∧ Inquires other wish ∧
    (inquiry.table ≠ "" ∧ wish.table ≠ "") ∧
    (∀ pair ∈ inquiry.conditions ++ wish.conditions, pair.1 ∉ directives) ∧
    (ListsNames operation ∧ ListsNames other) ∧
    (adapter.perform operation host).2.backend.server.asked =
      host.backend.server.asked ++ [request] ∧
    (adapter.perform other host).2.backend.server.asked = host.backend.server.asked ++ [request] ∧
    inquiry = wish := by
  intro adapter host filters operation other request inquiry wish
  have expressed : Expresses [("team", .eq (.text "a&b"))] [("team", "a&b")] :=
    .cons ⟨_, _, rfl, rfl, rfl⟩ .nil
  have inquires : Inquires operation inquiry := .select _ (.text _) rfl expressed
  have valid : Query.Options.check { select := .list [.text "id", .text " name"], filters } =
      .ok ⟨[("team", .eq (.text "a&b"))], none, none⟩ := rfl
  have wishes : Inquires other wish := .query "users" (.list ["id", " name"]) valid expressed
  have named : inquiry.table ≠ "" ∧ wish.table ≠ "" := by decide
  have clear : ∀ pair ∈ inquiry.conditions ++ wish.conditions, pair.1 ∉ directives := by decide
  have lists : ListsNames operation ∧ ListsNames other := by
    refine ⟨fun names given => ?_, fun names given => ?_⟩
    · rcases given with given | given <;> cases given
    · rcases given with given | given
      · have same : names = ["id", " name"] := by
          have texts : names.map Value.text = ["id", " name"].map .text := by
            injection given with given
            injection given with given
            exact given.symm
          exact List.map_injective_iff.2 (fun _ _ same => Value.text.inj same) texts
        subst same
        decide +kernel
      · cases given
  have sent : (adapter.perform operation host).2.backend.server.asked =
      host.backend.server.asked ++ [request] := by rfl
  have repeated : (adapter.perform other host).2.backend.server.asked =
      host.backend.server.asked ++ [request] := by rfl
  exact ⟨inquires, wishes, named, clear, lists, sent, repeated,
    adapter.inquiry_unique inquires wishes named clear lists sent repeated rfl⟩

/-- A condition on a column with the name of a directive has the address of the directive, and a name with
a comma has that of two names. A wish for one row is a limit, and an offset of nothing is none. -/
theorem address_shared :
    let adapter : Adapter := ⟨⟨"http://localhost"⟩, .null⟩
    let host : Host Backend := { backend := { store := .memory [] } }
    let shares (first second : Operation) : Prop := ∃ request other : Request,
      (adapter.perform first host).2.backend.server.asked = [request] ∧
      (adapter.perform second host).2.backend.server.asked = [other] ∧ request.url = other.url
    let users : Value := .text "users"
    let filtered : Query.Options := { filters := .other (.object [("limit", .text "5")]) }
    let limited : Query.Options := { limit := .int 5 }
    (shares (.query users filtered) (.query users limited) ∧
      Inquires (.query users filtered) ⟨"users", [("limit", "5")], .all, none, none, none⟩ ∧
      Inquires (.query users limited) ⟨"users", [], .all, none, some (.number 5), none⟩) ∧
    shares (.select users (.list [.text "a,b"]) .absent)
      (.select users (.list [.text "a", .text "b"]) .absent) ∧
    shares (.query users { single := .bool true }) (.query users { limit := .int 1 }) ∧
    shares (.query users { offset := .int 0 }) (.query users {}) := by
  intro adapter host shares users filtered limited
  have expressed : Expresses [("limit", .eq (.text "5"))] [("limit", "5")] :=
    .cons ⟨_, _, rfl, rfl, rfl⟩ .nil
  have all : Selection.ofText "*" = .all := by decide +kernel
  have first : filtered.check = .ok ⟨[("limit", .eq (.text "5"))], none, none⟩ := rfl
  have second : limited.check = .ok ⟨[], some (.number 5), none⟩ := rfl
  refine ⟨⟨⟨_, _, rfl, rfl, rfl⟩, ?_, ?_⟩, ⟨_, _, rfl, rfl, rfl⟩, ⟨_, _, rfl, rfl, rfl⟩,
    _, _, rfl, rfl, rfl⟩
  · rw [← all]
    exact .query "users" (.text "*") first expressed
  · rw [← all]
    exact .query "users" (.text "*") second .nil

end Adapter

end Rest

end DataGateway
