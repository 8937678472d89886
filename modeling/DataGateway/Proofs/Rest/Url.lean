import DataGateway.Proofs.Except
import DataGateway.Proofs.Text.Percent
import DataGateway.Rest.Url
import Mathlib.Data.List.Basic

/-!
# Addresses are read back

What a server reads from the address of a request. The base goes first; the path ends at the first
question mark, is a sequence of segments, each behind a slash, and what follows the mark is a form.

* `Base.read?` — the segments of an address, and the pairs of its query, if it has one;
* `Base.read?_url` — an address says the segments and the pairs that it was made of.
-/

namespace DataGateway.Rest

open Text

/-- What an address says: the segments of its path, and the pairs of its query, if it has one. -/
structure Address where
  segments : List String
  query : Option Pairs
  deriving DecidableEq

/-! ## Paths -/

/-- Segments, each behind a slash. -/
def pathOf (segments : List String) : String :=
  String.ofList (segments.flatMap fun s => '/' :: Percent.segment (Percent.octetsOf s))

/-- The segments of a path. -/
def readPath? : List Char → Option (List String)
  | '/' :: rest => (pieces '/' rest).mapM fun part => (Percent.readSegment part).toOption
  | _ => none

theorem not_mem_pathOf (segments : List String) : '?' ∉ (pathOf segments).toList := by
  rw [pathOf, String.toList_ofList, List.mem_flatMap]
  rintro ⟨s, -, there⟩
  rcases List.mem_cons.1 there with same | within
  · exact absurd same (by decide)
  · exact Percent.not_mem_segment (by decide) (by decide) _ within

theorem mapM_readSegment (segments : List String) :
    (segments.map fun s => Percent.segment (Percent.octetsOf s)).mapM
      (fun part => (Percent.readSegment part).toOption) = some segments := by
  induction segments with
  | nil => rfl
  | cons s segments ih =>
      rw [List.map_cons, List.mapM_cons, Percent.readSegment_segment, ih]
      rfl

/-- Behind the first slash, the pieces of a path are its segments. -/
theorem pieces_pathOf (s : String) (segments : List String) :
    pieces '/' (Percent.segment (Percent.octetsOf s) ++ (pathOf segments).toList) =
      (s :: segments).map fun s => Percent.segment (Percent.octetsOf s) := by
  have clear (s : String) : '/' ∉ Percent.segment (Percent.octetsOf s) :=
    Percent.not_mem_segment (by decide) (by decide) _
  induction segments generalizing s with
  | nil =>
      rw [pathOf, List.flatMap_nil, String.toList_ofList, List.append_nil,
        pieces_of_not_mem (clear s)]
      rfl
  | cons next segments ih =>
      rw [pathOf, List.flatMap_cons, String.toList_ofList, List.cons_append,
        pieces_append_cons (clear s), List.map_cons, ← ih next, pathOf, String.toList_ofList]

theorem readPath?_pathOf {segments : List String} (given : segments ≠ []) :
    readPath? (pathOf segments).toList = some segments := by
  cases segments with
  | nil => exact absurd rfl given
  | cons s segments =>
      have split := pieces_pathOf s segments
      rw [pathOf, String.toList_ofList] at split ⊢
      rw [List.flatMap_cons, List.cons_append, readPath?, split, mapM_readSegment]

/-- The path of a table has one segment. -/
theorem tablePath_text {table : String} (given : table ≠ "") :
    tablePath (.text table) = .ok (pathOf [table]) := by
  have truthy : ¬(!(Value.text table).truthy) = true := by simpa [Value.truthy] using given
  rw [tablePath, segmentOf, if_neg truthy]
  exact congrArg Except.ok (String.toList_inj.1 (by simp [pathOf, Percent.octetsOf]))

theorem pathOf_append (segments : List String) (s : String) :
    pathOf (segments ++ [s]) = pathOf segments ++ pathOf [s] := by
  simp only [pathOf, List.flatMap_append, String.ofList_append]

/-! ## Addresses -/

namespace Base

/-- Reads an address behind a base. -/
def read? (base : Base) (url : String) : Option Address := do
  let rest ← url.toList.dropPrefix? base.address.toList
  let (path, query) := cut '?' rest
  let segments ← readPath? path
  match query with
  | none => return ⟨segments, none⟩
  | some query => return ⟨segments, some (← (Percent.readForm query).toOption)⟩

/-- There is a query as soon as there are pairs. -/
def queryOf (pairs : Pairs) : Option Pairs := if pairs.isEmpty then none else some pairs

variable (base : Base)

/-- Under one path different pairs have different addresses. -/
theorem url_inj {base : Base} {path : String} {pairs others : Pairs} (given : pairs ≠ [])
    (also : others ≠ []) (same : base.url path pairs = base.url path others) : pairs = others := by
  have marked {pairs : Pairs} (given : pairs ≠ []) : base.url path pairs =
      base.address ++ path ++ ("?" ++ String.ofList (Percent.form pairs)) := by
    rw [url, if_neg (mt List.isEmpty_iff.1 given)]
  rw [marked given, marked also, String.append_right_inj, String.append_right_inj,
    String.ofList_inj] at same
  have read := Percent.readForm_form pairs
  rw [same, Percent.readForm_form] at read
  exact (Except.ok.inj read).symm

/-- An address says the segments and the pairs that it was made of. -/
theorem read?_url {segments : List String} (given : segments ≠ []) (pairs : Pairs) :
    base.read? (base.url (pathOf segments) pairs) = some ⟨segments, queryOf pairs⟩ := by
  have behind (rest : List Char) : (base.address.toList ++ rest).dropPrefix? base.address.toList =
      some rest := List.dropPrefix?_eq_some_iff.2 ⟨_, rfl, beq_self_eq_true _⟩
  have path := readPath?_pathOf given
  have clear := not_mem_pathOf segments
  rw [read?, url, queryOf]
  -- the path has no question mark, so the first one is the one before the pairs
  cases pairs with
  | nil =>
      rw [if_pos List.isEmpty_nil, if_pos List.isEmpty_nil, String.append_empty, String.toList_append,
        behind]
      simp only [bind, Option.bind]
      rw [cut_of_not_mem clear]
      simp only [path]
      rfl
  | cons pair pairs =>
      have marked : (base.address ++ pathOf segments ++
          ("?" ++ String.ofList (Percent.form (pair :: pairs)))).toList =
          base.address.toList ++ ((pathOf segments).toList ++ '?' :: Percent.form (pair :: pairs)) := by
        simp
      rw [if_neg nofun, if_neg nofun, marked, behind]
      simp only [bind, Option.bind]
      rw [cut_append_cons clear]
      simp only [path, Percent.readForm_form]
      rfl

end Base

end DataGateway.Rest
