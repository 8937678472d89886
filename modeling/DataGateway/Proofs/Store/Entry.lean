import DataGateway.Proofs.Except
import DataGateway.Proofs.Fields
import DataGateway.Proofs.Json.Document
import DataGateway.Proofs.Json.Writing
import DataGateway.Proofs.Text.Search
import DataGateway.Proofs.Text.Utf8
import DataGateway.Store
import Mathlib.Logic.Relation

/-!
# Entries that stay and entries that go

What writing and removing do to the entries of a store, whether it is in memory or in a directory.

* `Store.Lists`, `Store.Lacks` — an entry is listed; nothing can be read or removed under a key;
* `lists_write`, `lacks_remove` — writing takes no entry away, and removing leaves none;
* `read_of_write` — a value is read back from a store, in its normal form;
* `Store.Dependable` — removing goes well, and writing whatever has a document, now and later; so it is
  in memory, and in a directory with nothing but files.
-/

namespace DataGateway

namespace Store

/-! ## Names of files -/

namespace Directory

variable {directory : Directory} {key name : String}

theorem isKey_iff : isKey key = true ↔
    key ≠ "" ∧ '/' ∉ key.toList ∧ '\\' ∉ key.toList ∧ startsWith "." key = false := by
  simp [isKey, and_assoc]

/-- The name of a file for a key is one step, and that step leads to an entry. -/
theorem fileName_steps (fit : isKey key = true) : stepsOf (fileName key) = [fileName key] := by
  have clear : '/' ∉ (fileName key).toList := by
    have suffixClear : '/' ∉ suffix.toList := by decide
    rw [fileName, String.toList_append, List.mem_append, not_or]
    exact ⟨(isKey_iff.1 fit).2.1, suffixClear⟩
  rw [stepsOf, Text.pieces_of_not_mem clear, List.map_singleton, String.ofList_toList]

theorem fileName_cons (fit : isKey key = true) :
    ∃ c rest, (fileName key).toList = c :: rest ∧ rest ≠ [] ∧ c ≠ '/' ∧ c ≠ '.' := by
  rcases isKey_iff.1 fit with ⟨nonempty, noSlash, _, shown⟩
  cases chars : key.toList with
  | nil => exact absurd (String.toList_eq_nil_iff.1 chars) nonempty
  | cons c rest =>
      refine ⟨c, rest ++ suffix.toList, ?_, ?_, ?_, ?_⟩
      · rw [fileName, String.toList_append, chars, List.cons_append]
      · have ending : suffix.toList ≠ [] := by decide
        exact List.append_ne_nil_of_right_ne_nil rest ending
      · rintro rfl
        exact noSlash (chars ▸ List.mem_cons_self ..)
      · rintro rfl
        simp [startsWith, chars] at shown

theorem isAbsolute_fileName (fit : isKey key = true) : isAbsolute (fileName key) = false := by
  rcases fileName_cons fit with ⟨c, rest, chars, _, noSlash, _⟩
  simp [isAbsolute, startsWith, chars, List.isPrefixOf, noSlash.symm]

theorem isStay_fileName (fit : isKey key = true) : isStay (fileName key) = false := by
  rcases fileName_cons fit with ⟨c, rest, chars, _, _, noDot⟩
  have empty : fileName key ≠ "" := by
    intro same
    rw [same] at chars
    cases chars
  have dot : fileName key ≠ "." := by
    intro same
    rw [same] at chars
    exact noDot (List.cons.inj chars).1.symm
  simp [isStay, empty, dot]

theorem fileName_ne_up (fit : isKey key = true) : (fileName key == "..") = false := by
  rcases fileName_cons fit with ⟨c, rest, chars, _, _, noDot⟩
  refine beq_eq_false_iff_ne.2 ?_
  intro same
  rw [same] at chars
  exact noDot (List.cons.inj chars).1.symm

/-! ## Things in the directory itself -/

variable {path : Path} {entry : Entry}

theorem own_injective {other : String} (same : directory.own name = directory.own other) : name = other :=
  (List.cons.inj (List.append_cancel_left same)).1

theorem own_eq_iff {other : String} : directory.own name = directory.own other ↔ name = other :=
  ⟨own_injective, congrArg directory.own⟩

theorem encloses_own (directory : Directory) (name : String) :
    directory.encloses (directory.own name) = true :=
  List.isPrefixOf_iff_prefix.2 (List.prefix_append directory.base [name])

/-- What is in the directory lies under a path of its own. -/
theorem look_own (directory : Directory) (name : String) :
    directory.look (directory.own name) = Fields.get? directory.entries (directory.own name) := by
  have deeper : ¬(directory.own name).isPrefixOf directory.base = true := by
    intro above
    have shorter := (List.isPrefixOf_iff_prefix.1 above).length_le
    rw [own, List.length_append, List.length_singleton] at shorter
    omega
  exact if_neg deeper

theorem look_put_self : (directory.put (directory.own name) entry).look (directory.own name) =
    some entry :=
  (look_own (directory.put (directory.own name) entry) name).trans Fields.get?_set_self

theorem look_put_of_ne {other : Path} (apart : (other == path) = false) :
    (directory.put path entry).look other = directory.look other := by
  rw [look, look, put, Fields.get?_set_of_ne apart]

theorem look_takeAway_self :
    (directory.takeAway (directory.own name)).look (directory.own name) = none :=
  (look_own (directory.takeAway (directory.own name)) name).trans Fields.get?_erase_self

theorem look_takeAway_of_ne {other : Path} (apart : (other == path) = false) :
    (directory.takeAway path).look other = directory.look other := by
  rw [look, look, takeAway, Fields.get?_erase_of_ne apart]

/-- What is put somewhere moves nothing else. -/
theorem own_put {other : String} : (directory.put path entry).own other = directory.own other := rfl

/-- What takes a free place in the directory leaves no trace when it is taken away. -/
theorem takeAway_put (free : directory.look (directory.own name) = none) :
    (directory.put (directory.own name) entry).takeAway (directory.own name) = directory := by
  rw [look_own] at free
  rw [put, takeAway, Fields.erase_set_of_absent free]

/-! ## Ways to an entry -/

/-- Where there is no link a way ends at its name. -/
theorem trace_fileName (fit : isKey key = true)
    (direct : ∀ target, directory.look (directory.own (fileName key)) ≠ some (.link target)) :
    directory.trace (fileName key) = ⟨directory.own (fileName key), false⟩ := by
  have step : nameStep directory.base (fileName key) = directory.own (fileName key) := by
    rw [nameStep, isStay_fileName fit, fileName_ne_up fit]
    rfl
  rw [trace, traceWithin, startOf, isAbsolute_fileName fit, fileName_steps fit]
  simp only [Bool.false_eq_true, if_false, traceSteps, step, isStay_fileName fit,
    fileName_ne_up fit, Bool.or_self]
  split
  · rename_i target _ linked
    exact absurd linked (direct target)
  · rfl

/-- One step down from the directory itself. -/
theorem stretch_down (moves : isStay name = false) (down : (name == "..") = false)
    (short : Text.Utf8.size name ≤ nameLimit) :
    directory.stretch false directory.base [name] =
      match directory.look (directory.own name) with
      | none => .ends (.free (directory.own name))
      | some (.file bytes) => .ends (.file (directory.own name) bytes)
      | some .folder => .ends (.folder (directory.own name))
      | some (.link target) => .link directory.base target [] := by
  rw [stretch, moves, down, if_neg (Nat.not_lt.2 short)]
  dsimp only [own]
  cases directory.look (directory.base ++ [name]) <;> rfl

theorem stretch_fileName (fit : isKey key = true)
    (short : Text.Utf8.size (fileName key) ≤ nameLimit) :
    directory.stretch false directory.base [fileName key] =
      match directory.look (directory.own (fileName key)) with
      | none => .ends (.free (directory.own (fileName key)))
      | some (.file bytes) => .ends (.file (directory.own (fileName key)) bytes)
      | some .folder => .ends (.folder (directory.own (fileName key)))
      | some (.link target) => .link directory.base target [] :=
  stretch_down (isStay_fileName fit) (fileName_ne_up fit) short

theorem visit_free (fit : isKey key = true) (short : Text.Utf8.size (fileName key) ≤ nameLimit)
    (free : directory.look (directory.own (fileName key)) = none) :
    directory.visit [fileName key] = .free (directory.own (fileName key)) := by
  rw [visit, visitWithin, stretch_fileName fit short, free]

theorem visit_file {bytes : List UInt8} (fit : isKey key = true)
    (short : Text.Utf8.size (fileName key) ≤ nameLimit)
    (there : directory.look (directory.own (fileName key)) = some (.file bytes)) :
    directory.visit [fileName key] = .file (directory.own (fileName key)) bytes := by
  rw [visit, visitWithin, stretch_fileName fit short, there]

theorem visit_long (fit : isKey key = true) (long : nameLimit < Text.Utf8.size (fileName key)) :
    directory.visit [fileName key] = .tooLong := by
  rw [visit, visitWithin, stretch, isStay_fileName fit, fileName_ne_up fit, if_pos long]
  rfl

theorem resolve_direct (fit : isKey key = true) (visible : key.toList.contains (Char.ofNat 0) = false)
    (direct : ∀ target, directory.look (directory.own (fileName key)) ≠ some (.link target)) :
    directory.resolve key = .ok (fileName key) := by
  unfold resolve
  dsimp only
  rw [fit, trace_fileName fit direct, visible, encloses_own]
  rfl

theorem resolve_eq_ok (found : directory.resolve key = .ok name) :
    isKey key = true ∧ key.toList.contains (Char.ofNat 0) = false ∧ name = fileName key ∧
      directory.encloses (directory.trace name).path = true := by
  unfold resolve at found
  split at found
  · cases found
  · rename_i fit
    dsimp only at found
    split at found
    · cases found
    · rename_i visible
      split at found
      · cases found
      · split at found
        · cases found
        · rename_i inside
          cases found
          exact ⟨by simpa using fit, by simpa using visible, rfl, by simpa using inside⟩

/-! ## Keys that can be stored -/

/-- Has a directory a place for a key, and for the temporary file that writing goes through? -/
structure Storable (key : String) : Prop where
  fit : isKey key = true
  visible : key.toList.contains (Char.ofNat 0) = false
  short : Text.Utf8.size key + temporaryExtra ≤ nameLimit

theorem Storable.short_fileName (storable : Storable key) :
    Text.Utf8.size (fileName key) ≤ nameLimit := by
  have suffix : (Text.Utf8.encode suffix.toList).length = 5 := by decide
  have short := storable.short
  simp only [Text.Utf8.size, Text.Utf8.encode, fileName, temporaryExtra,
    String.toList_append, List.flatMap_append, List.length_append] at short suffix ⊢
  omega

/-! ## Entries of a directory -/

/-- Is there nothing that could be read or removed? -/
def Place.IsVacant : Place → Prop
  | .file .. | .folder _ | .tooLong => False
  | .free _ | .missing | .blocked | .endless => True

theorem read_vacant (found : directory.resolve key = .ok name)
    (vacant : (directory.visit [name]).IsVacant) :
    directory.read key = .ok .null ∧ directory.remove key = .ok (false, directory) := by
  unfold read remove
  rw [found]
  simp only [bind, Except.bind]
  cases place : directory.visit [name] with
  | file path bytes =>
      rw [place] at vacant
      exact vacant.elim
  | folder path =>
      rw [place] at vacant
      exact vacant.elim
  | tooLong =>
      rw [place] at vacant
      exact vacant.elim
  | _ => exact ⟨rfl, rfl⟩

/-- What has been removed cannot be read or removed again. -/
theorem lacks_remove {after : Directory} {removed : Bool}
    (gone : directory.remove key = .ok (removed, after)) :
    after.read key = .ok .null ∧ after.remove key = .ok (false, after) := by
  rcases bind_eq_ok_iff.1 gone with ⟨name, found, taken⟩
  rcases resolve_eq_ok found with ⟨fit, visible, rfl, _⟩
  have erased (short : Text.Utf8.size (fileName key) ≤ nameLimit)
      (taken : (if directory.look (directory.own (fileName key)) == some .folder then
        .error (.storage .folder) else .ok (true, directory.takeAway (directory.own (fileName key))) :
          Except Fault (Bool × Directory)) = .ok (removed, after)) :
      after.read key = .ok .null ∧ after.remove key = .ok (false, after) := by
    split at taken
    · cases taken
    · cases taken
      have free : (directory.takeAway (directory.own (fileName key))).look
          (directory.own (fileName key)) = none := look_takeAway_self
      refine read_vacant (resolve_direct fit visible fun target linked => ?_) ?_
      · cases free.symm.trans linked
      · rw [visit_free fit short free]
        trivial
  rcases Nat.lt_or_ge nameLimit (Text.Utf8.size (fileName key)) with long | short
  -- a name that is too long is an error even where nothing has it
  · rw [visit_long fit long] at taken
    cases taken
  · cases place : directory.visit [fileName key] with
    | file path bytes =>
        rw [place] at taken
        exact erased short taken
    | folder path =>
        rw [place] at taken
        exact erased short taken
    | tooLong =>
        rw [place] at taken
        cases taken
    | _ =>
        rw [place] at taken
        cases taken
        refine read_vacant found ?_
        rw [place]
        trivial

theorem dump_eq_ok_iff {v : Value} {bytes : List UInt8} :
    dump v = .ok bytes ↔ Json.Writable v ∧ bytes = document v := by
  rw [dump, check_eq_ok_iff]
  exact and_congr_right fun _ => ⟨fun same => (Except.ok.inj same).symm, congrArg Except.ok ∘ Eq.symm⟩

theorem write_eq_ok {after : Directory} {v : Value} (written : directory.write key v = .ok after) :
    Json.Writable v ∧ Storable key ∧
      after = directory.put (directory.own (fileName key)) (.file (document v)) := by
  rcases bind_eq_ok_iff.1 written with ⟨name, found, written⟩
  rcases resolve_eq_ok found with ⟨fit, visible, rfl, _⟩
  rcases bind_eq_ok_iff.1 written with ⟨bytes, dumped, placed⟩
  rcases dump_eq_ok_iff.1 dumped with ⟨writable, rfl⟩
  split at placed
  · cases placed
  · rename_i short
    split at placed
    · cases placed
    · cases placed
      exact ⟨writable, ⟨fit, visible, Nat.not_lt.1 short⟩, rfl⟩

/-- What a document in a file says. -/
theorem parse_document {v : Value} (readable : Json.Representable v) :
    parse (document v) = .ok (Json.normalize v) := by
  rw [parse, document, Text.Utf8.decode_encode]
  dsimp only
  rw [Json.decode_encode Json.isBlank_compact readable]

/-- What has been written is what is read next, in its normal form. -/
theorem read_of_write {after : Directory} {v : Value} (written : directory.write key v = .ok after) :
    after.read key = .ok (Json.normalize v) := by
  rcases write_eq_ok written with ⟨writable, storable, rfl⟩
  have there : (directory.put (directory.own (fileName key)) (.file (document v))).look
      (directory.own (fileName key)) = some (.file (document v)) := look_put_self
  have found := resolve_direct storable.fit storable.visible fun target linked => by
    cases there.symm.trans linked
  rw [read, found]
  simp only [bind, Except.bind]
  rw [visit_file storable.fit storable.short_fileName there]
  exact parse_document writable.representable

theorem mem_of_mem_remove {after : Directory} {removed : Bool} {entry : Path × Entry}
    (gone : directory.remove key = .ok (removed, after)) (member : entry ∈ after.entries) :
    entry ∈ directory.entries := by
  rcases bind_eq_ok_iff.1 gone with ⟨name, _, taken⟩
  split at taken
  · split at taken
    · cases taken
    · cases taken
      exact (List.mem_filter.1 member).1
  · split at taken
    · cases taken
    · cases taken
      exact (List.mem_filter.1 member).1
  · cases taken
  · cases taken
    exact member

/-- Is a name free, or that of a file? -/
def IsPlain (directory : Directory) (name : String) : Prop :=
  directory.look (directory.own name) = none ∨
    ∃ bytes, directory.look (directory.own name) = some (.file bytes)

theorem isPlain_of_files (files : ∀ entry ∈ directory.entries, ∃ bytes, entry.2 = .file bytes)
    (name : String) : directory.IsPlain name := by
  cases found : directory.look (directory.own name) with
  | none => exact .inl found
  | some entry =>
      rw [look_own] at found
      rcases Fields.exists_mem_of_get? found with ⟨path, member⟩
      rcases files _ member with ⟨bytes, rfl⟩
      exact .inr ⟨bytes, (look_own directory name).trans found⟩

section Plain

variable (storable : Storable key) (plain : directory.IsPlain (fileName key))

include storable plain

theorem resolve_plain : directory.resolve key = .ok (fileName key) := by
  refine resolve_direct storable.fit storable.visible ?_
  intro target linked
  rcases plain with free | ⟨bytes, file⟩
  · rw [free] at linked
    cases linked
  · rw [file] at linked
    cases linked

theorem write_plain {v : Value} (writable : Json.Writable v) : directory.write key v =
    .ok (directory.put (directory.own (fileName key)) (.file (document v))) := by
  have apart : (directory.look (directory.own (fileName key)) == some .folder) = false := by
    rcases plain with free | ⟨bytes, file⟩
    · rw [free]
      rfl
    · rw [file]
      rfl
  unfold write
  rw [resolve_plain storable plain, ok_bind, dump_eq_ok_iff.2 ⟨writable, rfl⟩, ok_bind,
    if_neg (Nat.not_lt.2 storable.short), apart]
  rfl

theorem exists_remove : ∃ result, directory.remove key = .ok result := by
  have found := resolve_plain storable plain
  rcases plain with free | ⟨bytes, file⟩
  · have vacant := visit_free storable.fit storable.short_fileName free
    exact ⟨_, (read_vacant found (by rw [vacant]; trivial)).2⟩
  · have place := visit_file storable.fit storable.short_fileName file
    refine ⟨(true, directory.takeAway (directory.own (fileName key))), ?_⟩
    unfold remove
    rw [found]
    simp only [bind, Except.bind]
    rw [place]
    dsimp only
    rw [file]
    rfl

end Plain

theorem ownName?_eq_some_iff : directory.ownName? path = some name ↔ path = directory.own name := by
  unfold ownName?
  constructor
  · intro named
    split at named
    · rename_i same
      rcases List.getLast?_eq_some_iff.1 named with ⟨front, rfl⟩
      rw [List.dropLast_concat] at same
      rw [eq_of_beq same, own]
    · cases named
  · rintro rfl
    rw [own, List.dropLast_concat, beq_self_eq_true, if_pos rfl, List.getLast?_concat]

theorem mem_names {directory : Directory} {name : String} :
    name ∈ directory.names ↔ directory.own name ∈ Fields.names directory.entries := by
  simp only [names, Fields.names, List.mem_filterMap, List.mem_map, Prod.exists,
    ownName?_eq_some_iff]

/-- No name goes away by putting something into the directory. -/
theorem mem_names_put_of_mem (member : name ∈ directory.names) :
    name ∈ (directory.put path entry).names := by
  have there : (directory.put path entry).own name ∈ Fields.names (directory.put path entry).entries :=
    Fields.mem_names_set (mem_names.1 member)
  exact mem_names.2 there

end Directory

/-! ## Copies -/

namespace Memory

variable {v : Value}

theorem fieldsNestWithin_iff {levels : Nat} {fields : Record} :
    Value.fieldsNestWithin levels fields = true ↔
      ∀ field ∈ fields, field.2.nestsWithin levels = true := by
  induction fields with
  | nil => simp [Value.fieldsNestWithin]
  | cons field fields ih =>
      rw [Value.fieldsNestWithin, Bool.and_eq_true_iff, ih, List.forall_mem_cons]

mutual

/-- A normal form is not nested deeper. -/
theorem nestsWithin_normalize {levels : Nat} {v : Value} (within : v.nestsWithin levels = true) :
    (Json.normalize v).nestsWithin levels = true := by
  cases v with
  | float x => cases x <;> rfl
  | list items =>
      cases levels with
      | zero => cases within
      | succ levels => exact itemsNestWithin_normalize within
  | tuple items =>
      cases levels with
      | zero => cases within
      | succ levels => exact itemsNestWithin_normalize within
  | object fields =>
      cases levels with
      | zero => cases within
      | succ levels =>
          have each := fieldsNestWithin_iff.1 (fieldsNestWithin_normalize within)
          exact fieldsNestWithin_iff.2 fun field member => each field (Fields.mem_ofPairs member)
  | octets bytes => rfl
  | entity kind mark fields => rfl
  | _ => exact within

theorem itemsNestWithin_normalize {levels : Nat} {items : List Value}
    (within : Value.itemsNestWithin levels items = true) :
    Value.itemsNestWithin levels (Json.normalizeItems items) = true := by
  cases items with
  | nil => rfl
  | cons item items =>
      rcases Bool.and_eq_true_iff.1 within with ⟨first, rest⟩
      exact Bool.and_eq_true_iff.2 ⟨nestsWithin_normalize first, itemsNestWithin_normalize rest⟩

theorem fieldsNestWithin_normalize {levels : Nat} {fields : Record}
    (within : Value.fieldsNestWithin levels fields = true) :
    Value.fieldsNestWithin levels (Json.normalizeFields fields) = true := by
  cases fields with
  | nil => rfl
  | cons field fields =>
      rcases Bool.and_eq_true_iff.1 within with ⟨first, rest⟩
      exact Bool.and_eq_true_iff.2 ⟨nestsWithin_normalize first, fieldsNestWithin_normalize rest⟩

end

/-- Is there room for a copy? -/
def Copyable (v : Value) : Prop := v.nestsWithin copyLimit = true

instance (v : Value) : Decidable (Copyable v) := inferInstanceAs (Decidable (_ = _))

theorem Copyable.normalize (copyable : Copyable v) : Copyable (Json.normalize v) :=
  nestsWithin_normalize copyable

theorem Copyable.copyOut (copyable : Copyable v) : copyOut v = .ok v := if_pos copyable

theorem copyOut_eq_ok_iff {w : Value} : Memory.copyOut v = .ok w ↔ Copyable v ∧ w = v := by
  rw [Memory.copyOut]
  split
  next copyable =>
    exact ⟨fun same => ⟨copyable, (Except.ok.inj same).symm⟩, fun same => congrArg Except.ok same.2.symm⟩
  next deep =>
    constructor
    · intro failed
      cases failed
    · rintro ⟨copyable, _⟩
      exact absurd copyable deep

end Memory

/-- A list, so many levels below a list. -/
def nested : Nat → Value
  | 0 => .list []
  | depth + 1 => .list [nested depth]

theorem nestsWithin_nested {levels depth : Nat} :
    (nested depth).nestsWithin levels = decide (depth < levels) := by
  induction depth generalizing levels with
  | zero => cases levels <;> rfl
  | succ depth ih =>
      cases levels with
      | zero => rfl
      | succ levels => simp [nested, Value.nestsWithin, Value.itemsNestWithin, ih]

theorem requireWritable_nested {levels depth : Nat} (within : depth < levels) :
    Json.requireWritable levels (nested depth) = .ok () := by
  induction depth generalizing levels with
  | zero =>
      cases levels with
      | zero => cases within
      | succ levels => rfl
  | succ depth ih =>
      cases levels with
      | zero => cases within
      | succ levels => exact check_eq_ok_iff.2 ⟨ih (Nat.lt_of_succ_lt_succ within), rfl⟩

theorem normalize_nested (depth : Nat) : Json.normalize (nested depth) = nested depth := by
  induction depth with
  | zero => rfl
  | succ depth ih => rw [nested, Json.normalize, Json.normalizeItems, ih, Json.normalizeItems]

/-! ## Entries of a store -/

variable {store after : Store} {key : String} {v : Value}

/-- Is an entry listed? -/
def Lists (store : Store) (key : String) : Prop := key ∈ store.keys ""

/-- Is there nothing to be read and nothing to be removed under a key? -/
structure Lacks (store : Store) (key : String) : Prop where
  read : store.read key = .ok .null
  remove : store.remove key = .ok (false, store)

theorem mem_directoryKeys {directory : Directory} {start : String} :
    key ∈ directory.keys start ↔
      (∃ name ∈ directory.names, Directory.keyOf? name = some key) ∧ startsWith start key = true := by
  simp only [Directory.keys, sortNames, List.mem_mergeSort, List.mem_filter, List.mem_filterMap]

theorem Memory.write_eq_ok_iff {entries after : Memory} : Memory.write entries key v = .ok after ↔
    Json.Writable v ∧ after = Fields.set entries key (Json.normalize v) := by
  rw [Memory.write, bind_eq_ok_iff]
  constructor
  · rintro ⟨copy, copied, placed⟩
    rcases Json.copy_eq_ok_iff.1 copied with ⟨writable, rfl⟩
    exact ⟨writable, (Except.ok.inj placed).symm⟩
  · rintro ⟨writable, rfl⟩
    exact ⟨_, Json.copy_of_writable writable, rfl⟩

/-- In memory, whatever has a document is written, and kept in its normal form. -/
theorem write_memory_eq_ok_iff {entries : Memory} : (memory entries).write key v = .ok after ↔
    Json.Writable v ∧ after = memory (Fields.set entries key (Json.normalize v)) := by
  rw [write, map_eq_ok_iff]
  constructor
  · rintro ⟨entries, written, rfl⟩
    rcases Memory.write_eq_ok_iff.1 written with ⟨writable, rfl⟩
    exact ⟨writable, rfl⟩
  · rintro ⟨writable, rfl⟩
    exact ⟨_, Memory.write_eq_ok_iff.2 ⟨writable, rfl⟩, rfl⟩

/-- Nothing is written but what has a document. -/
theorem writable_of_write (written : store.write key v = .ok after) : Json.Writable v := by
  cases store with
  | memory entries => exact (write_memory_eq_ok_iff.1 written).1
  | directory entries =>
      rcases map_eq_ok_iff.1 written with ⟨_, result, _⟩
      exact (Directory.write_eq_ok result).1

/-- No entry goes away by writing one. -/
theorem lists_write {other : String} (written : store.write key v = .ok after)
    (listed : store.Lists other) : after.Lists other := by
  cases store with
  | memory entries =>
      rcases write_memory_eq_ok_iff.1 written with ⟨_, rfl⟩
      simp only [Lists, keys, Memory.keys, sortNames, List.mem_mergeSort, List.mem_filter] at listed ⊢
      exact ⟨Fields.mem_names_set listed.1, listed.2⟩
  | directory entries =>
      rcases map_eq_ok_iff.1 written with ⟨files, result, rfl⟩
      rcases Directory.write_eq_ok result with ⟨_, _, rfl⟩
      rcases mem_directoryKeys.1 listed with ⟨⟨file, member, named⟩, starts⟩
      exact mem_directoryKeys.2 ⟨⟨file, Directory.mem_names_put_of_mem member, named⟩, starts⟩

theorem Memory.read_set_self (entries : Memory) (key : String) (v : Value) :
    Memory.read (Fields.set entries key v) key = Memory.copyOut v := by
  rw [Memory.read, Fields.get?_set_self]
  rfl

/-- What has been written is what is read next, in its normal form, if a copy can be made of it. -/
theorem read_of_write (written : store.write key v = .ok after) (copyable : Memory.Copyable v) :
    after.read key = .ok (Json.normalize v) := by
  cases store with
  | memory entries =>
      rcases write_memory_eq_ok_iff.1 written with ⟨_, rfl⟩
      exact (Memory.read_set_self entries key _).trans copyable.normalize.copyOut
  | directory entries =>
      rcases map_eq_ok_iff.1 written with ⟨files, result, rfl⟩
      exact Directory.read_of_write result

/-- Nothing is left of what has been removed. -/
theorem lacks_remove {removed : Bool} (gone : store.remove key = .ok (removed, after)) :
    after.Lacks key := by
  cases store with
  | memory entries =>
      cases gone
      have free : Fields.get? (Fields.erase entries key) key = none := Fields.get?_erase_self
      have again : Fields.erase (Fields.erase entries key) key = Fields.erase entries key := by
        simp [Fields.erase]
      constructor
      · rw [read, Memory.read, free]
        rfl
      · rw [remove, again, Fields.has, ← Fields.get?, free]
        rfl
  | directory entries =>
      rcases bind_eq_ok_iff.1 gone with ⟨⟨removed, entries⟩, taken, gone⟩
      cases gone
      rcases Directory.lacks_remove taken with ⟨vacant, done⟩
      constructor
      · exact vacant
      · rw [remove, done]
        rfl

/-! ## Stores on which nothing goes wrong -/

/-- Something is written or removed under one of the keys. -/
inductive Step (keys : List String) : Store → Store → Prop
  | write {store after : Store} {key : String} {v : Value} : key ∈ keys →
      store.write key v = .ok after → Step keys store after
  | remove {store after : Store} {key : String} {removed : Bool} : key ∈ keys →
      store.remove key = .ok (removed, after) → Step keys store after

/-- Can everything that has a document be written under the keys, and everything be removed? -/
def Serves (keys : List String) (store : Store) : Prop :=
  ∀ key ∈ keys, (∀ v, Json.Writable v → ∃ after, store.write key v = .ok after) ∧
    ∃ result, store.remove key = .ok result

/-- Can it be done now, and whatever is written and removed under the keys before? -/
def Dependable (keys : List String) (store : Store) : Prop :=
  ∀ later, Relation.ReflTransGen (Step keys) store later → Serves keys later

namespace Dependable

variable {keys : List String} (dependable : Dependable keys store)

include dependable

theorem step (h : Step keys store after) : Dependable keys after :=
  fun later steps => dependable later (.head h steps)

theorem exists_write (known : key ∈ keys) (writable : Json.Writable v) :
    ∃ after, store.write key v = .ok after ∧ Dependable keys after := by
  rcases ((dependable store .refl) key known).1 v writable with ⟨after, written⟩
  exact ⟨after, written, dependable.step (.write known written)⟩

theorem exists_remove (known : key ∈ keys) :
    ∃ removed after, store.remove key = .ok (removed, after) ∧ Dependable keys after ∧
      after.Lacks key := by
  rcases ((dependable store .refl) key known).2 with ⟨⟨removed, after⟩, gone⟩
  exact ⟨removed, after, gone, dependable.step (.remove known gone), lacks_remove gone⟩

end Dependable

theorem dependable_of_invariant {keys : List String} (Fit : Store → Prop)
    (serves : ∀ store, Fit store → Serves keys store)
    (kept : ∀ store after, Fit store → Step keys store after → Fit after) (fit : Fit store) :
    Dependable keys store := by
  intro later steps
  refine serves later ?_
  induction steps with
  | refl => exact fit
  | tail _ last ih => exact kept _ _ ih last

/-- In memory nothing goes wrong. -/
theorem dependable_memory (keys : List String) (entries : Memory) :
    Dependable keys (memory entries) := by
  refine dependable_of_invariant (fun store => ∃ entries, store = memory entries) ?_ ?_ ⟨entries, rfl⟩
  · rintro _ ⟨entries, rfl⟩ key _
    exact ⟨fun v writable => ⟨_, write_memory_eq_ok_iff.2 ⟨writable, rfl⟩⟩, ⟨_, rfl⟩⟩
  · rintro _ after ⟨entries, rfl⟩ step
    cases step with
    | write _ written => exact ⟨_, (write_memory_eq_ok_iff.1 written).2⟩
    | remove _ gone =>
        cases gone
        exact ⟨_, rfl⟩

/-- Is the store a directory with nothing but files? -/
def HasFiles (store : Store) : Prop :=
  ∃ files : Directory, store = directory files ∧
    ∀ entry ∈ files.entries, ∃ bytes, entry.2 = .file bytes

theorem HasFiles.serves {keys : List String} (storable : ∀ key ∈ keys, Directory.Storable key)
    (files : HasFiles store) : Serves keys store := by
  intro key known
  rcases files with ⟨entries, rfl, files⟩
  have fits := storable key known
  constructor
  · intro v writable
    have written := Directory.write_plain fits (Directory.isPlain_of_files files _) writable
    exact ⟨_, map_eq_ok_iff.2 ⟨_, written, rfl⟩⟩
  · rcases Directory.exists_remove fits (Directory.isPlain_of_files files _) with ⟨result, done⟩
    exact ⟨_, bind_eq_ok_iff.2 ⟨result, done, rfl⟩⟩

/-- Nor in a directory of files. -/
theorem dependable_files {keys : List String} (storable : ∀ key ∈ keys, Directory.Storable key)
    (files : HasFiles store) : Dependable keys store := by
  refine dependable_of_invariant HasFiles (fun _ => HasFiles.serves storable) ?_ files
  rintro _ after ⟨entries, rfl, files⟩ step
  cases step with
  | write _ written =>
      rcases map_eq_ok_iff.1 written with ⟨others, result, rfl⟩
      rcases Directory.write_eq_ok result with ⟨_, _, rfl⟩
      refine ⟨_, rfl, ?_⟩
      intro entry member
      rcases Fields.value_of_mem_set member with member | value
      · exact files entry member
      · exact ⟨_, value⟩
  | remove _ gone =>
      rcases bind_eq_ok_iff.1 gone with ⟨⟨removed, others⟩, taken, gone⟩
      cases gone
      refine ⟨_, rfl, ?_⟩
      intro entry member
      exact files entry (Directory.mem_of_mem_remove taken member)

end Store

end DataGateway
