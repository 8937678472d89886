import DataGateway.Proofs.Json.Document
import DataGateway.Proofs.Offline.Naming

/-!
# Saved rows

A document has texts for names, so tables under other keys can come under one name there, and of tables
with one name only the last is read again. A table that is named by a word is safe from that: no number,
truth value or null is written like it.

* `IsWord` — a text that no document reads;
* `eq_ofText_of_nameOf` — nothing but the text itself is named by a word;
* `get?_saved` — the rows under a word are found in the snapshot, in the normal form of JSON.
-/

namespace DataGateway

namespace Fields

variable {α β κ : Type} [BEq κ]

theorem get?_mapValues (f : α → β) (fields : Fields α κ) (name : κ) :
    get? (mapValues f fields) name = (get? fields name).map f := by
  induction fields with
  | nil => rfl
  | cons entry fields ih =>
      rcases entry with ⟨n, v⟩
      have first : mapValues f ((n, v) :: fields) = (n, f v) :: mapValues f fields := rfl
      rw [first, get?_cons, get?_cons, ih]
      split <;> rfl

/-- Of pairs with one name the last counts. -/
theorem get?_ofPairs_last [EquivBEq κ] {before behind : List (κ × α)} {name : κ} {v : α}
    (last : get? behind name = none) : get? (ofPairs (before ++ (name, v) :: behind)) name = some v := by
  have joined : ofPairs (before ++ (name, v) :: behind) =
      merge (set (merge [] before) name v) behind := by
    simp [ofPairs, merge]
  rw [joined, get?_merge_of_absent last, get?_set_self]

end Fields

namespace Offline

variable {tables : Tables} {word : String} {rows : Table}

/-! ## Words -/

/-- A text that is read as no value, and not because readers give up on it. -/
def IsWord (text : String) : Prop :=
  ∃ problem, Json.decode text.toList = .error problem ∧ ¬problem.cause.IsLimit

theorem isWord_users : IsWord "users" := by
  refine ⟨⟨.value, 5⟩, rfl, id⟩

theorem isWord_accounts : IsWord "auth_users" := by
  refine ⟨⟨.value, 10⟩, rfl, id⟩

/-- No value is written like a word. -/
theorem encode_ne_word (isWord : IsWord word) (v : Value) :
    Json.encode Json.compact v ≠ word.toList := by
  intro same
  rcases isWord with ⟨problem, unread, within⟩
  rw [← same] at unread
  have readable : Json.Representable v := by
    refine (Json.representable_iff Json.isBlank_compact).2 fun other failed => ?_
    rw [unread] at failed
    cases failed
    exact within
  rw [Json.decode_encode Json.isBlank_compact readable] at unread
  cases unread

/-- Nothing but the text itself is named by a word. -/
theorem eq_ofText_of_nameOf (isWord : IsWord word) {key : Key} (named : Json.nameOf key = .ok word) :
    key = .ofText word := by
  have other {v : Value} (written : (do
      Json.requireWritable Json.levelLimit v
      return String.ofList (Json.encode Json.compact v) : Except Fault String) = .ok word) : False := by
    have same := congrArg String.toList (Except.ok.inj (check_eq_ok_iff.1 written).2)
    rw [String.toList_ofList] at same
    exact encode_ne_word isWord v same
  rcases key with ⟨v, hashable⟩
  cases v with
  | text s =>
      cases named
      rfl
  | null | bool | int | float => exact (other named).elim
  | _ => cases named

/-! ## Rows in the snapshot -/

theorem exists_key_of_mem_objectOf {fields : Record} {name : String}
    (written : Json.objectOf (Fields.mapValues Value.list tables) = .ok fields)
    (member : name ∈ fields.names) : ∃ key ∈ tables.names, Json.nameOf key = .ok name := by
  induction tables generalizing fields with
  | nil =>
      cases written
      cases member
  | cons entry tables ih =>
      rcases entry with ⟨key, rows⟩
      rcases bind_eq_ok_iff.1 written with ⟨first, named, written⟩
      rcases bind_eq_ok_iff.1 (check_eq_ok_iff.1 written).2 with ⟨rest, later, same⟩
      cases same
      rcases List.mem_cons.1 member with rfl | member
      · exact ⟨key, List.mem_cons_self .., named⟩
      · rcases ih later member with ⟨other, there, called⟩
        exact ⟨other, List.mem_cons_of_mem _ there, called⟩

/-- A table that is named by a word is the last of its name in a document, and the only one. -/
theorem exists_last_of_objectOf (isWord : IsWord word) {fields : Record} (distinct : tables.Distinct)
    (written : Json.objectOf (Fields.mapValues Value.list tables) = .ok fields)
    (found : Fields.get? tables (.ofText word) = some rows) :
    ∃ before behind, fields = before ++ (word, .list rows) :: behind ∧
      Fields.get? behind word = none := by
  induction tables generalizing fields with
  | nil => cases found
  | cons entry tables ih =>
      rcases entry with ⟨key, others⟩
      rcases List.pairwise_cons.1 distinct with ⟨apart, distinct⟩
      rcases bind_eq_ok_iff.1 written with ⟨name, named, written⟩
      rcases bind_eq_ok_iff.1 (check_eq_ok_iff.1 written).2 with ⟨rest, later, same⟩
      cases same
      rw [Fields.get?_cons] at found
      cases here : Key.ofText word == key with
      | true =>
          -- another table of this name would have the word for its key too
          cases Key.ofText_beq_iff.1 here
          simp only [here, if_true, Option.some.injEq] at found
          cases named
          cases found
          refine ⟨[], rest, rfl, Option.not_isSome_iff_eq_none.1 fun there => ?_⟩
          rcases exists_key_of_mem_objectOf later (Fields.mem_names_iff.2 there) with
            ⟨other, member, called⟩
          have clash := apart other member
          rw [eq_ofText_of_nameOf isWord called, here] at clash
          cases clash
      | false =>
          simp only [here, Bool.false_eq_true, if_false] at found
          rcases ih distinct later found with ⟨before, behind, same, last⟩
          exact ⟨(name, .list others) :: before, behind, by rw [same]; rfl, last⟩

theorem get?_ofNamed (named : Fields Table) (name : String) :
    Fields.get? (Tables.ofNamed named) (.ofText name) = Fields.get? named name := by
  induction named with
  | nil => rfl
  | cons entry named ih =>
      rcases entry with ⟨n, rows⟩
      have first : Tables.ofNamed ((n, rows) :: named) = (.ofText n, rows) :: Tables.ofNamed named := rfl
      rw [first, Fields.get?_cons, Fields.get?_cons, Key.ofText_beq, ih]

theorem set_ofNamed (named : Fields Table) (text : String) (rows : Table) :
    Fields.set (Tables.ofNamed named) (.ofText text) rows =
      Tables.ofNamed (Fields.set named text rows) := by
  induction named with
  | nil => rfl
  | cons entry named ih =>
      rcases entry with ⟨first, others⟩
      have split : Tables.ofNamed ((first, others) :: named) =
        (.ofText first, others) :: Tables.ofNamed named := rfl
      rw [split, Fields.set, Fields.set, Key.ofText_beq, ih]
      split <;> rfl

/-- The rows under a word are found in the snapshot, in the normal form of JSON. -/
theorem get?_saved (isWord : IsWord word) {backend : Backend} {stored : Fields Table}
    (saved : backend.IsSaved) (holds : backend.Holds stored) (distinct : backend.tables.Distinct)
    (found : Fields.get? backend.tables (.ofText word) = some rows) :
    Fields.get? (Tables.ofNamed stored) (.ofText word) = some (rows.map Json.normalize) := by
  rcases saved with ⟨v, tables, said⟩
  rcases map_eq_ok_iff.1 tables with ⟨fields, written, rfl⟩
  rcases exists_last_of_objectOf isWord distinct written found with ⟨before, behind, rfl, last⟩
  have normal : Fields.ofPairs (Json.normalizeFields (before ++ (word, .list rows) :: behind)) =
      Fields.mapValues Value.list stored := by
    rw [holds.said, Option.some.injEq, Json.normalize] at said
    exact (Value.object.inj said).symm
  have read : Fields.get? (Fields.mapValues Value.list stored) word =
      some (.list (rows.map Json.normalize)) := by
    rw [← normal, Json.normalizeFields_eq_map, Fields.mapValues, List.map_append, List.map_cons]
    rw [Fields.get?_ofPairs_last]
    · rw [Json.normalize, Json.normalizeItems_eq_map]
    · have unread := Fields.get?_mapValues Json.normalize behind word
      rwa [last] at unread
  rw [Fields.get?_mapValues] at read
  rcases Option.map_eq_some_iff.1 read with ⟨others, there, same⟩
  rw [get?_ofNamed, there, Value.list.inj same]

end Offline

end DataGateway
