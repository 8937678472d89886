import DataGateway.Proofs.Store.Entry
import Mathlib.Data.List.Sort
import Mathlib.Data.String.Basic

/-!
# Both kinds of store answer alike

A sequence of calls gets the same answers from a store in memory and from one in a directory of its own,
and these are told by nothing but what was written last under each key.

* `Call`, `answers` — calls to a store, and what a sequence of them is answered;
* `Contents`, `Call.after`, `Call.Says` — what is written under the keys, how a call changes it, and
  what it has the call answer; `says_unique`: there is one such answer;
* `Memory.Holds`, `Directory.Holds` — how each kind of store keeps the contents;
* `exists_answer` — a call on a store of either kind; `exists_answers` — a sequence of them;
* `answers_alike` — the two kinds of store, from nothing on;
* `answers_nested` — of what is nested too deep for copies only a directory says what was written.
-/

namespace DataGateway.Store

/-! ## Calls -/

/-- A call to a store, or its being opened again: what a store keeps is all in its place. -/
inductive Call
  | write (key : String) (v : Value)
  | read (key : String)
  | remove (key : String)
  | keys (start : String)
  | reopen

/-- What a call answers, and the store after it. A call that fails leaves the store as it is. -/
def Call.perform (call : Call) (store : Store) : Except Fault Value × Store :=
  match call with
  | .write key v =>
    match store.write key v with
    | .ok after => (.ok .null, after)
    | .error fault => (.error fault, store)
  | .read key => (store.read key, store)
  | .remove key =>
    match store.remove key with
    | .ok (removed, after) => (.ok (.bool removed), after)
    | .error fault => (.error fault, store)
  | .keys start => (.ok (.list ((store.keys start).map .text)), store)
  | .reopen => (.ok .null, store)

/-- What a sequence of calls is answered. -/
def answers (store : Store) : List Call → List (Except Fault Value)
  | [] => []
  | call :: rest => (call.perform store).1 :: answers (call.perform store).2 rest

/-! ## What is written under the keys -/

/-- The values that are written under keys. -/
abbrev Contents := String → Option Value

/-- What is written after a call. No call touches more than its own key. -/
def Call.after (contents : Contents) : Call → Contents
  | .write key v => Function.update contents key (some v)
  | .remove key => Function.update contents key none
  | _ => contents

/-- What a call is to answer: the normal form of what is written under a key, whether there was
something to remove, and the keys with something under them, in the order of their code points. -/
def Call.Says (contents : Contents) : Call → Value → Prop
  | .write .., answer => answer = .null
  | .read key, answer => answer = ((contents key).map Json.normalize).getD .null
  | .remove key, answer => answer = .bool (contents key).isSome
  | .keys start, answer => ∃ keys : List String, answer = .list (keys.map .text) ∧
      keys.Pairwise (· < ·) ∧
      ∀ key, key ∈ keys ↔ (contents key).isSome = true ∧ start.toList <+: key.toList
  | .reopen, answer => answer = .null

/-- What a sequence of calls is to answer. -/
inductive Tells : Contents → List Call → List Value → Prop
  | nil {contents : Contents} : Tells contents [] []
  | cons {contents : Contents} {call : Call} {calls : List Call} {answer : Value}
      {answers : List Value} : call.Says contents answer →
      Tells (call.after contents) calls answers →
      Tells contents (call :: calls) (answer :: answers)

/-- There is one answer to a call, whatever keeps the contents. -/
theorem says_unique {contents : Contents} {call : Call} {a b : Value}
    (first : call.Says contents a) (second : call.Says contents b) : a = b := by
  cases call with
  | keys start =>
      rcases first with ⟨some, rfl, sorted, present⟩
      rcases second with ⟨others, rfl, sorted', present'⟩
      have same : some = others :=
        sorted.eq_of_mem_iff sorted' fun key => (present key).trans (present' key).symm
      rw [same]
  | _ => exact Eq.trans first (Eq.symm second)

theorem tells_unique {contents : Contents} {calls : List Call} {told others : List Value}
    (first : Tells contents calls told) (second : Tells contents calls others) : told = others := by
  induction first generalizing others with
  | nil =>
      cases second
      rfl
  | cons answered _ ih =>
      cases second with
      | cons answered' rest => rw [says_unique answered answered', ih rest]

/-! ## Calls that fit -/

/-- Is a key fit for the name of a file, and is that name short enough? -/
structure Directory.Named (key : String) : Prop where
  fit : isKey key = true
  visible : key.toList.contains (Char.ofNat 0) = false
  short : Text.Utf8.size (fileName key) ≤ nameLimit

instance (key : String) : Decidable (Directory.Named key) :=
  decidable_of_iff (_ ∧ _ ∧ _) ⟨fun ⟨fit, visible, short⟩ => ⟨fit, visible, short⟩,
    fun ⟨fit, visible, short⟩ => ⟨fit, visible, short⟩⟩

instance (key : String) : Decidable (Directory.Storable key) :=
  decidable_of_iff (_ ∧ _ ∧ _) ⟨fun ⟨fit, visible, short⟩ => ⟨fit, visible, short⟩,
    fun ⟨fit, visible, short⟩ => ⟨fit, visible, short⟩⟩

/-- Is a call about a key that a directory accepts, with a value that a document can say and of which
there can be copies? -/
def Call.Fits : Call → Prop
  | .write key v => Directory.Storable key ∧ Json.Writable v ∧ Memory.Copyable v
  | .read key | .remove key => Directory.Named key
  | .keys _ | .reopen => True

instance : DecidablePred Call.Fits := fun call =>
  match call with
  | .write key v =>
    inferInstanceAs (Decidable (Directory.Storable key ∧ Json.Writable v ∧ Memory.Copyable v))
  | .read key | .remove key => inferInstanceAs (Decidable (Directory.Named key))
  | .keys _ | .reopen => inferInstanceAs (Decidable True)

/-! ## Keys in order -/

theorem pairwise_sortNames {names : List String} (distinct : names.Nodup) :
    (sortNames names).Pairwise (· < ·) := by
  have le_iff (a b : String) : (!decide (b < a)) = true ↔ a ≤ b := by
    simp only [Bool.not_eq_true', decide_eq_false_iff_not, not_lt]
  have sorted : (sortNames names).Pairwise fun a b => (!decide (b < a)) = true := by
    refine List.pairwise_mergeSort ?_ ?_ names
    · intro a b c first second
      exact (le_iff a c).2 (((le_iff a b).1 first).trans ((le_iff b c).1 second))
    · intro a b
      rw [Bool.or_eq_true, le_iff, le_iff]
      exact le_total a b
  have apart : (sortNames names).Nodup := (List.mergeSort_perm names _).nodup_iff.2 distinct
  refine (sorted.and apart).imp ?_
  rintro a b ⟨before, other⟩
  exact lt_of_le_of_ne ((le_iff a b).1 before) other

theorem startsWith_iff {start key : String} :
    startsWith start key = true ↔ start.toList <+: key.toList :=
  List.isPrefixOf_iff_prefix

theorem mem_sortNames {names : List String} {key : String} : key ∈ sortNames names ↔ key ∈ names := by
  simp [sortNames]

/-! ## In memory -/

/-- Are the normal forms of the contents in memory, and nothing else? -/
structure Memory.Holds (contents : Contents) (entries : Memory) : Prop where
  copyable : ∀ key v, contents key = some v → Memory.Copyable v
  entry : ∀ key, Fields.get? entries key = (contents key).map Json.normalize
  distinct : (Fields.names entries).Nodup

namespace Memory

variable {contents : Contents} {entries : Memory}

theorem holds_nil : Holds (fun _ => none) [] := by
  refine ⟨?_, fun _ => rfl, List.nodup_nil⟩
  intro key v written
  cases written

theorem Holds.write (holds : Holds contents entries) (key : String) {v : Value}
    (copyable : Copyable v) :
    Holds (Function.update contents key (some v)) (Fields.set entries key (Json.normalize v)) where
  copyable := by
    intro other w written
    by_cases same : other = key
    · rw [same, Function.update_self] at written
      cases written
      exact copyable
    · rw [Function.update_of_ne same] at written
      exact holds.copyable other w written
  entry := by
    intro other
    by_cases same : other = key
    · rw [same, Function.update_self, Fields.get?_set_self]
      rfl
    · rw [Function.update_of_ne same, Fields.get?_set_of_ne (beq_eq_false_iff_ne.2 same)]
      exact holds.entry other
  distinct := Fields.nodup_names_set holds.distinct

theorem Holds.remove (holds : Holds contents entries) (key : String) :
    Holds (Function.update contents key none) (Fields.erase entries key) where
  copyable := by
    intro other w written
    by_cases same : other = key
    · rw [same, Function.update_self] at written
      cases written
    · rw [Function.update_of_ne same] at written
      exact holds.copyable other w written
  entry := by
    intro other
    by_cases same : other = key
    · rw [same, Function.update_self, Fields.get?_erase_self]
      rfl
    · rw [Function.update_of_ne same, Fields.get?_erase_of_ne (beq_eq_false_iff_ne.2 same)]
      exact holds.entry other
  distinct := holds.distinct.sublist (List.filter_sublist.map _)

theorem Holds.read (holds : Holds contents entries) (key : String) :
    Memory.read entries key = .ok (((contents key).map Json.normalize).getD .null) := by
  rw [Memory.read, holds.entry]
  cases written : contents key with
  | none => rfl
  | some v => exact (holds.copyable key v written).normalize.copyOut

/-- A call on a store in memory answers what the contents have it answer. -/
theorem exists_answer (holds : Holds contents entries) {call : Call} (fits : call.Fits) :
    ∃ answer after, call.perform (.memory entries) = (.ok answer, .memory after) ∧
      call.Says contents answer ∧ Holds (call.after contents) after := by
  cases call with
  | write key v =>
      have written : (memory entries).write key v = _ :=
        write_memory_eq_ok_iff.2 ⟨fits.2.1, rfl⟩
      refine ⟨.null, _, ?_, rfl, holds.write key fits.2.2⟩
      rw [Call.perform, written]
  | read key => exact ⟨_, entries, congrArg (·, memory entries) (holds.read key), rfl, holds⟩
  | remove key =>
      have there : Fields.has entries key = (contents key).isSome := by
        change (Fields.get? entries key).isSome = _
        rw [holds.entry, Option.isSome_map]
      refine ⟨_, _, rfl, ?_, holds.remove key⟩
      rw [Call.Says, there]
  | keys start =>
      refine ⟨_, entries, rfl, ⟨_, rfl, ?_, ?_⟩, holds⟩
      · exact pairwise_sortNames (holds.distinct.filter _)
      · intro key
        have present : key ∈ Fields.names entries ↔ (contents key).isSome = true := by
          rw [Fields.mem_names_iff, holds.entry, Option.isSome_map]
        simp only [Store.keys, Memory.keys, mem_sortNames, List.mem_filter, present, startsWith_iff]
  | reopen => exact ⟨.null, entries, rfl, rfl, holds⟩

end Memory

/-! ## In a directory -/

/-- Has each of the contents a file of its own with a document in it, and is there nothing else in the
directory? -/
structure Directory.Holds (contents : Contents) (directory : Directory) : Prop where
  storable : ∀ key v, contents key = some v → Directory.Storable key ∧ Json.Writable v
  entry : ∀ key, directory.look (directory.own (fileName key)) =
    (contents key).map fun v => .file (document v)
  known : ∀ name ∈ directory.names, ∃ key, name = fileName key
  distinct : directory.names.Nodup

namespace Directory

variable {contents : Contents} {directory : Directory} {key other name : String} {v : Value}

theorem holds_empty (empty : directory.names = []) : Holds (fun _ => none) directory := by
  refine ⟨?_, ?_, ?_, ?_⟩
  · intro key v written
    cases written
  · intro key
    cases found : directory.look (directory.own (fileName key)) with
    | none => rfl
    | some entry =>
        rw [look_own] at found
        have member := mem_names.2 (Fields.mem_names_iff.2 (by rw [found]; rfl))
        rw [empty] at member
        cases member
  · intro name member
    rw [empty] at member
    cases member
  · rw [empty]
    exact List.nodup_nil

/-! ### Names of files and keys -/

/-- Keys have files of their own. -/
theorem fileName_injective : Function.Injective fileName := by
  intro key other same
  have chars : key.toList ++ suffix.toList = other.toList ++ suffix.toList := by
    simpa [fileName] using congrArg String.toList same
  exact String.toList_inj.1 (List.append_cancel_right chars)

theorem file_eq_iff : directory.own (fileName other) = directory.own (fileName key) ↔ other = key :=
  own_eq_iff.trans fileName_injective.eq_iff

/-- The key of a file is the one that it was made for. -/
theorem keyOf?_fileName (fit : isKey key = true) : keyOf? (fileName key) = some key := by
  have chars : (fileName key).toList = key.toList ++ suffix.toList := by
    rw [fileName, String.toList_append]
  have ends : suffix.toList.isSuffixOf (key.toList ++ suffix.toList) = true := by
    simp
  have shown : startsWith "." (fileName key) = false := by
    rcases fileName_cons fit with ⟨c, rest, first, _, _, noDot⟩
    simp [startsWith, first, List.isPrefixOf, noDot.symm]
  have cut : (key.toList ++ suffix.toList).take
      ((key.toList ++ suffix.toList).length - suffix.length) = key.toList := by
    simp [String.length_toList]
  rw [keyOf?, chars, ends, shown, cut, String.ofList_toList]
  rfl

/-- A key is that of one file only. -/
theorem eq_fileName_of_keyOf? (named : keyOf? name = some key) : name = fileName key := by
  rw [keyOf?] at named
  split at named
  · rename_i ends
    rw [Bool.and_eq_true, List.isSuffixOf_iff_suffix] at ends
    rcases ends.1 with ⟨front, same⟩
    have cut : name.toList.take (name.toList.length - suffix.length) = front := by
      rw [← same]
      simp [String.length_toList]
    rw [cut] at named
    cases named
    refine String.toList_inj.1 ?_
    rw [fileName, String.toList_append, String.toList_ofList, same]
  · cases named

/-! ### Names in the directory -/

theorem names_eq (directory : Directory) :
    directory.names = (Fields.names directory.entries).filterMap directory.ownName? := by
  rw [Fields.names, List.filterMap_map]
  rfl

theorem ownName?_own (directory : Directory) (name : String) :
    directory.ownName? (directory.own name) = some name := ownName?_eq_some_iff.2 rfl

/-- What is put into the directory takes a place of its own there, or that of something else. -/
theorem names_put (directory : Directory) (name : String) (entry : Entry) :
    (directory.put (directory.own name) entry).names = directory.names ∨
      name ∉ directory.names ∧
        (directory.put (directory.own name) entry).names = directory.names ++ [name] := by
  have same (path : Path) : (directory.put (directory.own name) entry).ownName? path =
      directory.ownName? path := rfl
  rw [names_eq, names_eq directory]
  cases found : Fields.get? directory.entries (directory.own name) with
  | some old =>
      left
      rw [put, Fields.names_set_of_get? found]
      rfl
  | none =>
      right
      have absent : directory.own name ∉ Fields.names directory.entries := by
        rw [Fields.mem_names_iff, found]
        exact Bool.false_ne_true
      refine ⟨?_, ?_⟩
      · rwa [← names_eq, mem_names]
      · have last : [directory.own name].filterMap directory.ownName? = [name] := by
          rw [List.filterMap_cons, ownName?_own]
          rfl
        rw [put, Fields.set_of_not_mem absent, Fields.names, List.map_append, List.filterMap_append]
        exact congrArg _ last

theorem nodup_names_put (distinct : directory.names.Nodup) (name : String) (entry : Entry) :
    (directory.put (directory.own name) entry).names.Nodup := by
  rcases names_put directory name entry with same | ⟨new, more⟩
  · rwa [same]
  · rw [more]
    exact List.nodup_append.2 ⟨distinct, List.nodup_singleton _, fun n member m single => by
      rintro rfl
      exact new (List.mem_singleton.1 single ▸ member)⟩

theorem mem_names_put {entry : Entry}
    (member : other ∈ (directory.put (directory.own name) entry).names) :
    other ∈ directory.names ∨ other = name := by
  rcases names_put directory name entry with same | ⟨_, more⟩
  · exact .inl (same ▸ member)
  · rw [more] at member
    exact (List.mem_append.1 member).imp_right List.mem_singleton.1

theorem names_takeAway_sublist (directory : Directory) (path : Path) :
    (directory.takeAway path).names.Sublist directory.names :=
  List.filter_sublist.filterMap _

/-! ### Single calls -/

theorem Holds.resolve (holds : Holds contents directory) (named : Named key) :
    directory.resolve key = .ok (fileName key) := by
  refine resolve_direct named.fit named.visible ?_
  intro target linked
  rw [holds.entry] at linked
  cases written : contents key with
  | none =>
      rw [written] at linked
      cases linked
  | some v =>
      rw [written] at linked
      cases linked

theorem Holds.read (holds : Holds contents directory) (named : Named key) :
    directory.read key = .ok (((contents key).map Json.normalize).getD .null) := by
  have there := holds.entry key
  cases written : contents key with
  | none =>
      rw [written] at there
      have vacant := visit_free named.fit named.short there
      exact (read_vacant (holds.resolve named) (by rw [vacant]; trivial)).1
  | some v =>
      rw [written] at there
      have place := visit_file named.fit named.short there
      have said := parse_document (holds.storable key v written).2.representable
      simp only [Directory.read, holds.resolve named, bind, Except.bind, place, said]
      rfl

/-- What is removed is there when the contents say so, and no other file goes with it. -/
theorem Holds.remove (holds : Holds contents directory) (named : Named key) :
    directory.remove key =
      .ok ((contents key).isSome, directory.takeAway (directory.own (fileName key))) := by
  have there := holds.entry key
  cases written : contents key with
  | none =>
      rw [written] at there
      have vacant := visit_free named.fit named.short there
      have same : directory.takeAway (directory.own (fileName key)) = directory := by
        rw [takeAway, Fields.erase_of_absent ((look_own _ _).symm.trans there)]
      rw [same]
      exact (read_vacant (holds.resolve named) (by rw [vacant]; trivial)).2
  | some v =>
      rw [written] at there
      have place := visit_file named.fit named.short there
      simp only [Directory.remove, holds.resolve named, bind, Except.bind, place]
      rw [there]
      rfl

theorem Holds.set (holds : Holds contents directory) (storable : Storable key)
    (writable : Json.Writable v) :
    Holds (Function.update contents key (some v))
      (directory.put (directory.own (fileName key)) (.file (document v))) where
  storable := by
    intro other w written
    by_cases same : other = key
    · rw [same, Function.update_self] at written
      cases written
      exact same ▸ ⟨storable, writable⟩
    · rw [Function.update_of_ne same] at written
      exact holds.storable other w written
  entry := by
    intro other
    by_cases same : other = key
    · rw [same, Function.update_self]
      exact look_put_self
    · have apart : (directory.own (fileName other) == directory.own (fileName key)) = false :=
        beq_eq_false_iff_ne.2 fun file => same (file_eq_iff.1 file)
      rw [Function.update_of_ne same]
      exact (look_put_of_ne apart).trans (holds.entry other)
  known := by
    intro name member
    rcases mem_names_put member with member | rfl
    · exact holds.known name member
    · exact ⟨key, rfl⟩
  distinct := nodup_names_put holds.distinct _ _

theorem Holds.erase (holds : Holds contents directory) (key : String) :
    Holds (Function.update contents key none)
      (directory.takeAway (directory.own (fileName key))) where
  storable := by
    intro other w written
    by_cases same : other = key
    · rw [same, Function.update_self] at written
      cases written
    · rw [Function.update_of_ne same] at written
      exact holds.storable other w written
  entry := by
    intro other
    by_cases same : other = key
    · rw [same, Function.update_self]
      exact look_takeAway_self
    · have apart : (directory.own (fileName other) == directory.own (fileName key)) = false :=
        beq_eq_false_iff_ne.2 fun file => same (file_eq_iff.1 file)
      rw [Function.update_of_ne same]
      exact (look_takeAway_of_ne apart).trans (holds.entry other)
  known := fun name member => holds.known name ((names_takeAway_sublist _ _).subset member)
  distinct := holds.distinct.sublist (names_takeAway_sublist _ _)

/-! ### Keys -/

/-- The keys of the files are the keys with something written under them. -/
theorem Holds.mem_keys (holds : Holds contents directory) {start : String} :
    key ∈ directory.keys start ↔ (contents key).isSome = true ∧ start.toList <+: key.toList := by
  have there (key : String) : fileName key ∈ directory.names ↔ (contents key).isSome = true := by
    rw [mem_names, Fields.mem_names_iff, ← look_own, holds.entry, Option.isSome_map]
  have fit {key : String} (written : (contents key).isSome = true) : isKey key = true := by
    rcases Option.isSome_iff_exists.1 written with ⟨v, found⟩
    exact (holds.storable key v found).1.fit
  rw [mem_directoryKeys, startsWith_iff]
  refine and_congr_left fun _ => ⟨?_, ?_⟩
  · rintro ⟨name, member, named⟩
    rcases holds.known _ member with ⟨other, rfl⟩
    have written := (there other).1 member
    rw [keyOf?_fileName (fit written)] at named
    cases named
    exact written
  · intro written
    exact ⟨fileName key, (there key).2 written, keyOf?_fileName (fit written)⟩

theorem Holds.pairwise_keys (holds : Holds contents directory) (start : String) :
    (directory.keys start).Pairwise (· < ·) := by
  have keys : (directory.names.filterMap keyOf?).Nodup := by
    refine holds.distinct.filterMap ?_
    intro name other key first second
    exact (eq_fileName_of_keyOf? first).trans (eq_fileName_of_keyOf? second).symm
  exact pairwise_sortNames (keys.filter _)

/-- A call on a store in a directory answers what the contents have it answer. -/
theorem exists_answer (holds : Holds contents directory) {call : Call} (fits : call.Fits) :
    ∃ answer after, call.perform (.directory directory) = (.ok answer, .directory after) ∧
      call.Says contents answer ∧ Holds (call.after contents) after := by
  cases call with
  | write key v =>
      have plain : directory.IsPlain (fileName key) := by
        rw [IsPlain, holds.entry]
        cases contents key with
        | none => exact .inl rfl
        | some w => exact .inr ⟨_, rfl⟩
      have written := write_plain fits.1 plain fits.2.1
      refine ⟨.null, _, ?_, rfl, holds.set fits.1 fits.2.1⟩
      simp only [Call.perform, Store.write, written]
      rfl
  | read key =>
      exact ⟨_, directory, congrArg (·, Store.directory directory) (holds.read fits), rfl, holds⟩
  | remove key =>
      refine ⟨_, _, ?_, rfl, holds.erase key⟩
      simp only [Call.perform, Store.remove, holds.remove fits]
      rfl
  | keys start =>
      exact ⟨_, directory, rfl, ⟨_, rfl, holds.pairwise_keys start, fun _ => holds.mem_keys⟩, holds⟩
  | reopen => exact ⟨.null, directory, rfl, rfl, holds⟩

end Directory

/-! ## Sequences of calls -/

/-- Are the contents in a store, each in the way of that store, and nothing else? -/
def Holds (contents : Contents) : Store → Prop
  | memory entries => Memory.Holds contents entries
  | directory entries => Directory.Holds contents entries

variable {contents : Contents} {store : Store}

/-- A call answers what the contents have it answer, and what it is to leave is left. -/
theorem exists_answer (holds : Holds contents store) {call : Call} (fits : call.Fits) :
    ∃ answer after, call.perform store = (.ok answer, after) ∧ call.Says contents answer ∧
      Holds (call.after contents) after := by
  cases store with
  | memory entries =>
      rcases Memory.exists_answer holds fits with ⟨answer, after, done, told, kept⟩
      exact ⟨answer, .memory after, done, told, kept⟩
  | directory entries =>
      rcases Directory.exists_answer holds fits with ⟨answer, after, done, told, kept⟩
      exact ⟨answer, .directory after, done, told, kept⟩

/-- So do the calls of a sequence, one after the other. -/
theorem exists_answers (holds : Holds contents store) {calls : List Call}
    (fits : ∀ call ∈ calls, call.Fits) :
    ∃ told, answers store calls = told.map .ok ∧ Tells contents calls told := by
  induction calls generalizing contents store with
  | nil => exact ⟨[], rfl, .nil⟩
  | cons call calls ih =>
      rcases List.forall_mem_cons.1 fits with ⟨first, others⟩
      rcases exists_answer holds first with ⟨answer, after, done, told, kept⟩
      rcases ih kept others with ⟨rest, later, tells⟩
      refine ⟨answer :: rest, ?_, .cons told tells⟩
      rw [answers, done, later]
      rfl

/-- Keys whose files are almost one, and a value that is not written as it is. -/
def dottedCalls : List Call :=
  [.write "a.json" (.tuple [.float (.nan 1), .text "é"]), .write "a" (.int (-7)), .reopen,
    .read "a.json", .keys "a", .remove "a", .read "a"]

/-- A value is written and read. -/
def nestedCalls (depth : Nat) : List Call := [.write "a" (nested depth), .read "a"]

/-- What is nested deeper than copies go is written to both kinds of store, and read from a directory
alone. -/
theorem answers_nested {depth : Nat} (deep : Memory.copyLimit ≤ depth) (within : depth < Json.levelLimit) :
    answers (memory []) (nestedCalls depth) = [.ok .null, .error (.misuse .copyNesting)] ∧
      answers (directory {}) (nestedCalls depth) = [.ok .null, .ok (nested depth)] := by
  have writable : Json.Writable (nested depth) := requireWritable_nested within
  constructor
  · have written : (memory []).write "a" (nested depth) =
        .ok (memory (Fields.set [] "a" (nested depth))) := by
      have kept := write_memory_eq_ok_iff.2 (⟨writable, rfl⟩ : _ ∧ _ = memory (Fields.set [] "a" _))
      rwa [normalize_nested] at kept
    have failed : Memory.copyOut (nested depth) = .error (.misuse .copyNesting) := by
      rw [Memory.copyOut, nestsWithin_nested, if_neg]
      simpa using deep
    have read : (memory (Fields.set [] "a" (nested depth))).read "a" = .error (.misuse .copyNesting) :=
      (Memory.read_set_self [] "a" _).trans failed
    simp only [nestedCalls, answers, Call.perform, written, read]
  · have storable : Directory.Storable "a" := by decide
    have free : ({} : Directory).IsPlain (Directory.fileName "a") := .inl rfl
    have written := Directory.write_plain storable free writable
    have read := Directory.read_of_write written
    rw [normalize_nested] at read
    simp only [nestedCalls, answers, Call.perform, Store.write, written, Store.read, read,
      Functor.map, Except.map]

end DataGateway.Store
