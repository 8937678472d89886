import DataGateway.Proofs.Gateway.Action
import DataGateway.Proofs.Store.Replacement
import DataGateway.Store.Disk

/-!
# All of an entry or nothing

What the calls for an entry do on a disk, whatever lies in the directory already and whatever goes wrong
on the way. Storing puts a file in the place of the entry, or it leaves the disk as it was; nothing is
left of the temporary file, and nothing outside of the directory is reached.

* `temporary_isStep`, `temporaryName_ne` — the temporary file lies in the directory itself, apart from
  the entry;
* `makeTemporary_cases`, `replaceBy_apply`, `undo_apply` — the parts of storing;
* `store_cases`, `store_eq_write` — how storing ends, and how it ends where nothing goes wrong;
* `run_fetch`, `run_store`, `run_discard` — so the calls read, write and remove;
* `store_all_or_nothing` — what the calls leave, by `Replaced`.
-/

namespace DataGateway.Store.Disk

open DataGateway.Action Directory

variable {disk : Disk} {key name : String} {bytes : List UInt8} {v : Value} {chance : Chance}

/-! ## Names in the directory itself -/

/-- Is a name that of something in the directory itself? -/
structure IsStep (name : String) : Prop where
  way : Directory.wayOf name = .ok [name]
  moves : isStay name = false
  down : (name == "..") = false

theorem isStep_of_clear (visible : Char.ofNat 0 ∉ name.toList) (clear : '/' ∉ name.toList)
    (moves : isStay name = false) (down : (name == "..") = false) : IsStep name := by
  refine ⟨?_, moves, down⟩
  have steps : stepsOf name = [name] := by
    rw [stepsOf, Text.pieces_of_not_mem clear, List.map_singleton, String.ofList_toList]
  have shown : name.toList.contains (Char.ofNat 0) = false := by simpa using visible
  rw [Directory.wayOf, shown, steps]
  simp [moves]

/-- The characters of a key that is not refused. -/
theorem clear_of_resolve (found : disk.directory.resolve key = .ok name) :
    Char.ofNat 0 ∉ key.toList ∧ '/' ∉ key.toList := by
  rcases resolve_eq_ok found with ⟨fit, visible, _, _⟩
  exact ⟨by simpa using visible, (isKey_iff.1 fit).2.1⟩

theorem entry_isStep (found : disk.directory.resolve key = .ok name) : IsStep name := by
  rcases clear_of_resolve found with ⟨visible, clear⟩
  rcases resolve_eq_ok found with ⟨fit, _, rfl, _⟩
  have ending : Char.ofNat 0 ∉ suffix.toList ∧ '/' ∉ suffix.toList := by decide
  refine isStep_of_clear ?_ ?_ (isStay_fileName fit) (fileName_ne_up fit) <;>
    rw [fileName, String.toList_append, List.mem_append, not_or]
  · exact ⟨visible, ending.1⟩
  · exact ⟨clear, ending.2⟩

/-- The characters that chance draws from are plain, and none of them parts names. -/
theorem plain_of_mem_alphabet {c : Char} (drawn : c ∈ alphabet) :
    c.toNat < 128 ∧ c ≠ Char.ofNat 0 ∧ c ≠ '/' := by
  have all : alphabet.all (fun c => decide (c.toNat < 128 ∧ c ≠ Char.ofNat 0 ∧ c ≠ '/')) = true := by
    decide
  exact of_decide_eq_true (List.all_eq_true.1 all c drawn)

theorem toList_temporaryName (key : String) (chance : Chance) :
    (temporaryName key chance).toList = '.' :: key.toList ++ ('.' :: chance.letters ++ ".tmp".toList) := by
  simp [temporaryName]

theorem letters_of_temporaryName {other : Chance}
    (same : temporaryName key chance = temporaryName key other) : chance.letters = other.letters := by
  have chars := congrArg String.toList same
  rw [toList_temporaryName, toList_temporaryName] at chars
  exact List.append_cancel_right (List.cons.inj (List.append_cancel_left chars)).2

/-- A name of more than two characters neither stays nor goes up. -/
theorem moves_of_length (long : 2 < name.toList.length) :
    isStay name = false ∧ (name == "..") = false := by
  have apart (short : String) (few : short.toList.length ≤ 2) : name ≠ short := by
    rintro rfl
    omega
  have empty : name ≠ "" := apart "" (by decide)
  have dot : name ≠ "." := apart "." (by decide)
  exact ⟨by simp [isStay, empty, dot], beq_eq_false_iff_ne.2 (apart ".." (by decide))⟩

theorem temporary_isStep (found : disk.directory.resolve key = .ok name) (chance : Chance) :
    IsStep (temporaryName key chance) := by
  rcases clear_of_resolve found with ⟨visible, clear⟩
  have drawn {c : Char} (member : c ∈ chance.letters) :=
    (plain_of_mem_alphabet (chance.mem_alphabet c member)).2
  have hidden : Char.ofNat 0 ∉ chance.letters := fun member => (drawn member).1 rfl
  have single : '/' ∉ chance.letters := fun member => (drawn member).2 rfl
  have long : 2 < (temporaryName key chance).toList.length := by
    rw [toList_temporaryName]
    simp [chance.length_letters]
  refine isStep_of_clear ?_ ?_ (moves_of_length long).1 (moves_of_length long).2 <;>
    rw [toList_temporaryName]
  · simp [visible, hidden]
  · simp [clear, single]

/-- A temporary file is hidden, and an entry is not. -/
theorem temporaryName_ne (found : disk.directory.resolve key = .ok name) (chance : Chance) :
    disk.directory.own name ≠ disk.directory.own (temporaryName key chance) := by
  rcases resolve_eq_ok found with ⟨fit, _, rfl, _⟩
  rcases fileName_cons fit with ⟨c, rest, chars, _, _, shown⟩
  intro same
  have first := congrArg String.toList (own_injective same)
  rw [chars, toList_temporaryName] at first
  exact shown (List.cons.inj first).1

theorem size_temporaryName (key : String) (chance : Chance) :
    Text.Utf8.size (temporaryName key chance) = Text.Utf8.size key + temporaryExtra := by
  have drawn : (Text.Utf8.encode chance.letters).length = 8 := by
    have octets := Text.Utf8.octets_of_plain fun c member =>
      (plain_of_mem_alphabet (chance.mem_alphabet c member)).1
    rw [← List.length_map, octets, chance.length_letters]
  have dot : (String.utf8EncodeChar '.').length = 1 := by decide
  have ending : (Text.Utf8.encode ".tmp".toList).length = 4 := by decide
  simp only [Text.Utf8.size, Text.Utf8.encode, toList_temporaryName, temporaryExtra,
    List.cons_append, List.flatMap_cons, List.flatMap_append, List.length_append] at drawn dot ending ⊢
  omega

/-! ## Steps -/

/-- The disk with a file under a name. -/
abbrev withFile (disk : Disk) (name : String) (bytes : List UInt8) : Disk :=
  { disk with directory := disk.directory.withFile name bytes }

theorem withFile_withFile (disk : Disk) (name : String) (first second : List UInt8) :
    (disk.withFile name first).withFile name second = disk.withFile name second :=
  congrArg (fun entries => ({ disk with directory := { disk.directory with entries } } : Disk))
    Fields.set_set

/-- Does a way lead to nothing outside of the directory? -/
def Stays (disk : Disk) (way : List String) : Prop :=
  ∀ path, (disk.directory.visit way).path? = some path → disk.directory.encloses path = true

theorem go_apply {way : List String} (stays : disk.Stays way) :
    go way disk = (.ok (disk.directory.visit way), disk) := by
  have inside : (disk.directory.visit way).path?.any (!disk.directory.encloses ·) = false := by
    cases leads : (disk.directory.visit way).path? with
    | none => rfl
    | some path => rw [Option.any_some, stays path leads, Bool.not_true]
  rw [go, bind_get]
  dsimp only
  rw [inside]
  rfl

theorem itself_apply (step : IsStep name) (disk : Disk) :
    itself name disk =
      if nameLimit < Text.Utf8.size name then (.error (.storage .nameTooLong), disk)
      else (.ok (disk.directory.own name), disk) := by
  have here : go [name].dropLast disk = (.ok (.folder disk.directory.base), disk) := by
    refine go_apply ?_
    rintro _ ⟨⟩
    exact List.isPrefixOf_iff_prefix.2 (List.prefix_refl disk.directory.base)
  rw [itself, ofExcept_bind_ok step.way]
  dsimp only [List.getLast?_singleton]
  rw [bind_of_ok here]
  dsimp only
  rw [step.down, if_neg Bool.false_ne_true]
  split <;> rfl

theorem itself_of_short (step : IsStep name) (short : Text.Utf8.size name ≤ nameLimit) (disk : Disk) :
    itself name disk = (.ok (disk.directory.own name), disk) := by
  rw [itself_apply step, if_neg (Nat.not_lt.2 short)]

theorem exists_apply (step : IsStep name) (stays : disk.Stays [name]) :
    exists? name disk =
      (match disk.directory.visit [name] with
        | .file .. | .folder _ => .ok true
        | .tooLong => .error (.storage .nameTooLong)
        | _ => .ok false, disk) := by
  rw [exists?, ofExcept_bind_ok step.way, bind_of_ok (go_apply stays)]
  cases disk.directory.visit [name] <;> rfl

theorem readFile_apply (step : IsStep name) (stays : disk.Stays [name]) :
    readFile name disk =
      (match disk.directory.visit [name] with
        | .file _ bytes => .ok bytes
        | place => .error (.storage place.fault), disk) := by
  rw [readFile, ofExcept_bind_ok step.way, bind_of_ok (go_apply stays)]
  cases disk.directory.visit [name] <;> rfl

section Short

variable (step : IsStep name) (short : Text.Utf8.size name ≤ nameLimit)

include step short

theorem create_apply (disk : Disk) : create name disk =
    if (disk.directory.look (disk.directory.own name)).isSome then (.error (.storage .present), disk)
    else (.ok (), disk.withFile name []) := by
  rw [create, bind_of_ok (itself_of_short step short disk), bind_get]
  split <;> rfl

theorem fill_apply (disk : Disk) (bytes : List UInt8) :
    fill name bytes disk = (.ok (), disk.withFile name bytes) := by
  rw [fill, bind_of_ok (itself_of_short step short disk)]
  rfl

theorem unlink_apply (disk : Disk) : unlink name disk =
    match disk.directory.look (disk.directory.own name) with
    | none => (.error (.storage .absent), disk)
    | some .folder => (.error (.storage .folder), disk)
    | some _ =>
      (.ok (), { disk with directory := disk.directory.takeAway (disk.directory.own name) }) := by
  rw [unlink, bind_of_ok (itself_of_short step short disk), bind_get]
  cases disk.directory.look (disk.directory.own name) with
  | none => rfl
  | some entry => cases entry <;> rfl

end Short

theorem rename_apply {source target : String} (here : IsStep source) (there : IsStep target)
    (short : Text.Utf8.size source ≤ nameLimit) (fit : Text.Utf8.size target ≤ nameLimit)
    (found : disk.directory.look (disk.directory.own source) = some (.file bytes)) :
    rename source target disk =
      if disk.directory.look (disk.directory.own target) == some .folder then (.error (.storage .folder), disk)
      else (.ok (), { disk with
        directory := Directory.withFile (disk.directory.takeAway (disk.directory.own source)) target
          bytes }) := by
  rw [rename, bind_of_ok (itself_of_short here short disk),
    bind_of_ok (itself_of_short there fit disk), bind_get]
  dsimp only
  rw [found]
  dsimp only
  split <;> rfl

/-! ## Reading and removing -/

theorem nameFor_apply (key : String) (disk : Disk) :
    nameFor key disk = (disk.directory.resolve key, disk) := rfl

theorem fetch_apply (key : String) (disk : Disk) :
    fetch key disk = (disk.directory.read key, disk) := by
  have named := nameFor_apply key disk
  rw [fetch, Directory.read]
  cases found : disk.directory.resolve key with
  | error fault =>
      rw [found] at named
      exact bind_of_error named
  | ok name =>
      rw [found] at named
      have stays : disk.Stays [name] := fun _ leads => encloses_visit found leads
      have there := exists_apply (entry_isStep found) stays
      have content := readFile_apply (entry_isStep found) stays
      rw [bind_of_ok named, ok_bind]
      cases place : disk.directory.visit [name] with
      | file path bytes =>
          rw [place] at there content
          rw [bind_of_ok there]
          exact bind_of_ok content
      | folder path =>
          rw [place] at there content
          rw [bind_of_ok there]
          exact bind_of_error content
      | tooLong =>
          rw [place] at there
          exact bind_of_error there
      | _ =>
          rw [place] at there
          exact bind_of_ok there

/-- What is there can be taken away, unless it is a folder. -/
theorem unlink_entry (found : disk.directory.resolve key = .ok name)
    (short : disk.directory.visit [name] ≠ .tooLong)
    (taken : disk.directory.visit [name] ≠ .free (disk.directory.own name)) :
    unlink name disk =
      if disk.directory.look (disk.directory.own name) == some .folder then (.error (.storage .folder), disk)
      else (.ok (), { disk with directory := disk.directory.takeAway (disk.directory.own name) }) := by
  have step := entry_isStep found
  rcases resolve_eq_ok found with ⟨fit, _, rfl, _⟩
  have fits : Text.Utf8.size (fileName key) ≤ nameLimit :=
    Nat.not_lt.1 fun long => short (visit_long fit long)
  rw [unlink_apply step fits]
  cases there : disk.directory.look (disk.directory.own (fileName key)) with
  | none => exact absurd (visit_free fit fits there) taken
  | some entry => cases entry <;> rfl

theorem discard_apply (key : String) (disk : Disk) :
    discard key disk =
      match disk.directory.remove key with
      | .ok (removed, after) => (.ok removed, { disk with directory := after })
      | .error fault => (.error fault, disk) := by
  have named := nameFor_apply key disk
  rw [discard, Directory.remove]
  cases found : disk.directory.resolve key with
  | error fault =>
      rw [found] at named
      exact bind_of_error named
  | ok name =>
      rw [found] at named
      have there := exists_apply (entry_isStep found) fun _ leads => encloses_visit found leads
      have gone := unlink_entry found
      rw [bind_of_ok named, ok_bind]
      cases place : disk.directory.visit [name] with
      | file | folder =>
          rw [place] at there gone
          rw [bind_of_ok there]
          have gone := gone (by simp) (by simp)
          dsimp only
          split at gone
          · rename_i folder
            rw [if_pos folder]
            exact bind_of_error gone
          · rename_i other
            rw [if_neg other]
            exact bind_of_ok gone
      | tooLong =>
          rw [place] at there
          exact bind_of_error there
      | _ =>
          rw [place] at there
          exact bind_of_ok there

/-! ## Making and filling the temporary file -/

section Storing

variable (found : disk.directory.resolve key = .ok name)

include found

theorem makeTemporary_long (long : nameLimit < Text.Utf8.size key + temporaryExtra)
    (chances : List Chance) :
    ∃ fault, makeTemporary key chances disk = (.error (.storage fault), disk) ∧
      (chances ≠ [] → fault = .nameTooLong) := by
  cases chances with
  | nil => exact ⟨.present, rfl, fun some => absurd rfl some⟩
  | cons chance rest =>
      refine ⟨.nameTooLong, ?_, fun _ => rfl⟩
      have unmade : create (temporaryName key chance) disk = (.error (.storage .nameTooLong), disk) := by
        have unnamed := itself_apply (temporary_isStep found chance) disk
        rw [size_temporaryName, if_pos long] at unnamed
        exact bind_of_error unnamed
      rw [makeTemporary, bind_of_ok (attempt_apply _ _), unmade]
      rfl

variable (short : Text.Utf8.size key + temporaryExtra ≤ nameLimit)

include short

/-- The temporary file has a proposed name that was free, if there is one. -/
theorem makeTemporary_cases (chances : List Chance) :
    (∃ chance, disk.directory.look (disk.directory.own (temporaryName key chance)) = none ∧
      makeTemporary key chances disk = (.ok (temporaryName key chance),
        disk.withFile (temporaryName key chance) [])) ∨
    (∀ chance ∈ chances,
      (disk.directory.look (disk.directory.own (temporaryName key chance))).isSome = true) ∧
      makeTemporary key chances disk = (.error (.storage .present), disk) := by
  induction chances with
  | nil => exact .inr ⟨nofun, rfl⟩
  | cons chance rest ih =>
      have made := create_apply (temporary_isStep found chance)
        (by rwa [size_temporaryName]) disk
      rw [makeTemporary, bind_of_ok (attempt_apply _ _), made]
      cases taken : (disk.directory.look (disk.directory.own (temporaryName key chance))).isSome with
      | false => exact .inl ⟨chance, by simpa using taken, rfl⟩
      | true =>
          rcases ih with later | ⟨others, failed⟩
          · exact .inl later
          · exact .inr ⟨List.forall_mem_cons.2 ⟨taken, others⟩, failed⟩

variable (free : disk.directory.look (disk.directory.own (temporaryName key chance)) = none)

include free

/-- With the temporary file made, its name is free again when the entry has been replaced. -/
theorem replaceBy_apply (trouble : Trouble) (bytes : List UInt8) :
    replaceBy trouble (temporaryName key chance) name bytes
        (disk.withFile (temporaryName key chance) []) =
      match trouble.filling, trouble.placing with
      | some (count, fault), _ => (.error fault,
          disk.withFile (temporaryName key chance) (bytes.take count))
      | none, some fault => (.error fault,
          disk.withFile (temporaryName key chance) bytes)
      | none, none =>
        if disk.directory.look (disk.directory.own name) == some .folder then (.error (.storage .folder),
          disk.withFile (temporaryName key chance) bytes)
        else (.ok (), disk.withFile name bytes) := by
  have step := temporary_isStep found chance
  have fits : Text.Utf8.size (temporaryName key chance) ≤ nameLimit := by rwa [size_temporaryName]
  have filled (part : List UInt8) : fill (temporaryName key chance) part
      (disk.withFile (temporaryName key chance) []) =
        (.ok (), disk.withFile (temporaryName key chance) part) := by
    rw [fill_apply step fits, withFile_withFile]
  rw [replaceBy]
  cases trouble.filling with
  | some part => exact bind_of_ok (filled _)
  | none =>
      refine (bind_of_ok (filled bytes)).trans ?_
      cases trouble.placing with
      | some fault => rfl
      | none =>
          have entry := entry_isStep found
          have entry_fits : Text.Utf8.size name ≤ nameLimit := by
            rcases resolve_eq_ok found with ⟨fit, visible, rfl, _⟩
            exact Storable.short_fileName ⟨fit, visible, short⟩
          have apart := beq_eq_false_iff_ne.2 (temporaryName_ne found chance)
          have there : (disk.withFile (temporaryName key chance) bytes).directory.look
            (disk.directory.own (temporaryName key chance)) = some (.file bytes) := look_put_self
          refine (rename_apply step entry fits entry_fits there).trans ?_
          dsimp only
          rw [own_put, own_put, look_put_of_ne apart, takeAway_put free]

/-- The temporary file is found and taken away, however far it was filled. -/
theorem undo_apply (part : List UInt8) (fault : Fault) :
    (do
      if ← exists? (temporaryName key chance) then unlink (temporaryName key chance)
      Action.fail fault : Task Unit) (disk.withFile (temporaryName key chance) part) =
        (.error fault, disk) := by
  have step := temporary_isStep found chance
  have fits : Text.Utf8.size (temporaryName key chance) ≤ nameLimit := by rwa [size_temporaryName]
  have there : (disk.withFile (temporaryName key chance) part).directory.look
    (disk.directory.own (temporaryName key chance)) = some (.file part) := look_put_self
  have place : (disk.withFile (temporaryName key chance) part).directory.visit
      [temporaryName key chance] = .file (disk.directory.own (temporaryName key chance)) part := by
    rw [visit, visitWithin, stretch_down step.moves step.down fits]
    rw [own_put, there]
  have stays : (disk.withFile (temporaryName key chance) part).Stays [temporaryName key chance] := by
    rw [Stays, place]
    rintro _ ⟨⟩
    exact encloses_own disk.directory _
  have seen := exists_apply step stays
  rw [place] at seen
  have gone := unlink_apply step fits (disk.withFile (temporaryName key chance) part)
  rw [own_put, there] at gone
  refine (bind_of_ok seen).trans ((bind_of_ok gone).trans ?_)
  rw [takeAway_put free]
  rfl

end Storing

/-! ## Storing -/

/-- How storing ends when the temporary file has been made. -/
theorem store_made (found : disk.directory.resolve key = .ok name)
    (writable : Json.Writable v) (short : Text.Utf8.size key + temporaryExtra ≤ nameLimit)
    {trouble : Trouble} (unhindered : trouble.making = none)
    (made : makeTemporary key trouble.chances disk = (.ok (temporaryName key chance),
      disk.withFile (temporaryName key chance) []))
    (free : disk.directory.look (disk.directory.own (temporaryName key chance)) = none) :
    store trouble key v disk =
      match trouble.filling, trouble.placing with
      | some (_, fault), _ => (.error fault, disk)
      | none, some fault => (.error fault, disk)
      | none, none =>
        if disk.directory.look (disk.directory.own name) == some .folder then (.error (.storage .folder), disk)
        else (.ok (), disk.withFile name (document v)) := by
  have named : nameFor key disk = (.ok name, disk) := by rw [nameFor_apply, found]
  have dumped := Directory.dump_eq_ok_iff.2 ⟨writable, rfl⟩
  have replaced := replaceBy_apply found short free trouble (document v)
  rw [store, bind_of_ok named, ofExcept_bind_ok dumped, unhindered]
  refine (bind_of_ok made).trans ((bind_of_ok (attempt_apply _ _)).trans ?_)
  rw [replaced]
  cases trouble.filling with
  | some part => exact undo_apply found short free _ _
  | none =>
      cases trouble.placing with
      | some fault => exact undo_apply found short free _ _
      | none =>
          dsimp only
          split
          · exact undo_apply found short free _ _
          · rfl

theorem write_resolved (found : disk.directory.resolve key = .ok name) (writable : Json.Writable v) :
    disk.directory.write key v =
      if nameLimit < Text.Utf8.size key + temporaryExtra then .error (.storage .nameTooLong)
      else if disk.directory.look (disk.directory.own name) == some .folder then .error (.storage .folder)
      else .ok (disk.directory.withFile name (document v)) := by
  rw [Directory.write, found, ok_bind, Directory.dump_eq_ok_iff.2 ⟨writable, rfl⟩]
  rfl

theorem write_undumped (found : disk.directory.resolve key = .ok name) {fault : Fault}
    (dumped : dump v = .error fault) : disk.directory.write key v = .error fault := by
  rw [Directory.write, found, ok_bind, dumped]
  rfl

/-- Storing changes nothing, or it does what `Directory.write` says. -/
theorem store_cases (trouble : Trouble) (key : String) (v : Value) (disk : Disk) :
    (∃ fault, store trouble key v disk = (.error fault, disk)) ∨
      ∃ after, disk.directory.write key v = .ok after ∧
        store trouble key v disk = (.ok (), { disk with directory := after }) := by
  have named := nameFor_apply key disk
  cases found : disk.directory.resolve key with
  | error fault =>
      rw [found] at named
      exact .inl ⟨fault, bind_of_error named⟩
  | ok name =>
      rw [found] at named
      cases dumped : dump v with
      | error fault => exact .inl ⟨fault, (bind_of_ok named).trans (ofExcept_bind_error dumped _ _)⟩
      | ok bytes =>
          rcases Directory.dump_eq_ok_iff.1 dumped with ⟨writable, rfl⟩
          -- what fails from here on fails before the temporary file is made, or in `store_made`
          have unmade {fault : Fault} (failed : hindered trouble.making
              (makeTemporary key trouble.chances) disk = (.error fault, disk)) :
              store trouble key v disk = (.error fault, disk) :=
            (bind_of_ok named).trans ((ofExcept_bind_ok dumped _ _).trans (bind_of_error failed))
          cases unhindered : trouble.making with
          | some fault => exact .inl ⟨fault, unmade (by rw [unhindered]; rfl)⟩
          | none =>
              rcases Nat.lt_or_ge nameLimit (Text.Utf8.size key + temporaryExtra) with long | short
              · rcases makeTemporary_long found long trouble.chances with ⟨fault, failed, _⟩
                exact .inl ⟨_, unmade (by rw [unhindered]; exact failed)⟩
              · rcases makeTemporary_cases found short trouble.chances with
                  ⟨chance, free, made⟩ | ⟨_, failed⟩
                · have stored := store_made found writable short unhindered made free
                  split at stored
                  · exact .inl ⟨_, stored⟩
                  · exact .inl ⟨_, stored⟩
                  · split at stored
                    · exact .inl ⟨_, stored⟩
                    · rename_i other
                      refine .inr ⟨_, ?_, stored⟩
                      rw [write_resolved found writable, if_neg (Nat.not_lt.2 short), if_neg other]
                · exact .inl ⟨_, unmade (by rw [unhindered]; exact failed)⟩

/-- Does nothing go wrong outside? -/
structure Untroubled (disk : Disk) (key : String) (trouble : Trouble) : Prop where
  making : trouble.making = none
  filling : trouble.filling = none
  placing : trouble.placing = none
  free : ∃ chance ∈ trouble.chances,
    (disk.directory.look (disk.directory.own (temporaryName key chance))).isSome = false

/-- In a directory with fewer entries than chance has characters one of the calm proposals is free. -/
theorem untroubled_calm (few : disk.directory.entries.length < alphabet.length) :
    disk.Untroubled key .calm := by
  refine ⟨rfl, rfl, rfl, ?_⟩
  by_contra taken
  have proposed : (Trouble.calm.chances.map fun chance =>
      disk.directory.own (temporaryName key chance)).Nodup := by
    rw [Trouble.calm, List.map_map]
    refine List.Nodup.map ?_ (List.nodup_attach.2 (by decide))
    rintro ⟨c, _⟩ ⟨d, _⟩ same
    have drawn := letters_of_temporaryName (own_injective same)
    exact Subtype.ext (List.cons.inj drawn).1
  have known : ∀ path ∈ Trouble.calm.chances.map fun chance =>
      disk.directory.own (temporaryName key chance), path ∈ Fields.names disk.directory.entries := by
    intro path member
    rcases List.mem_map.1 member with ⟨chance, among, rfl⟩
    rw [Fields.mem_names_iff, ← look_own]
    by_contra absent
    exact taken ⟨chance, among, Bool.eq_false_iff.2 absent⟩
  have many := (proposed.subperm known).length_le
  rw [List.length_map, Fields.names, List.length_map, Trouble.calm, List.length_map,
    List.length_attach] at many
  omega

theorem store_eq_write {trouble : Trouble} (calm : disk.Untroubled key trouble) (v : Value) :
    store trouble key v disk =
      match disk.directory.write key v with
      | .ok after => (.ok (), { disk with directory := after })
      | .error fault => (.error fault, disk) := by
  have named := nameFor_apply key disk
  cases found : disk.directory.resolve key with
  | error fault =>
      rw [found] at named
      rw [Directory.write, found]
      exact bind_of_error named
  | ok name =>
      rw [found] at named
      cases dumped : dump v with
      | error fault =>
          rw [write_undumped found dumped, store, bind_of_ok named]
          exact ofExcept_bind_error dumped _ disk
      | ok bytes =>
          rcases Directory.dump_eq_ok_iff.1 dumped with ⟨writable, rfl⟩
          rcases calm.free with ⟨chance, proposed, unused⟩
          rcases Nat.lt_or_ge nameLimit (Text.Utf8.size key + temporaryExtra) with long | short
          · rcases makeTemporary_long found long trouble.chances with ⟨fault, failed, reason⟩
            obtain rfl := reason (List.ne_nil_of_mem proposed)
            rw [write_resolved found writable, if_pos long, store, bind_of_ok named,
              ofExcept_bind_ok dumped, calm.making]
            exact bind_of_error failed
          · rcases makeTemporary_cases found short trouble.chances with
              ⟨chance, free, made⟩ | ⟨taken, _⟩
            · rw [store_made found writable short calm.making made free, calm.filling, calm.placing,
                write_resolved found writable, if_neg (Nat.not_lt.2 short)]
              dsimp only
              split <;> rfl
            · rw [taken chance proposed] at unused
              cases unused

/-! ## Calls on a directory -/

theorem run_fetch (key : String) (directory : Directory) :
    run (fetch key) directory = (·, directory) <$> directory.read key := by
  rw [run, fetch_apply]

theorem run_discard (key : String) (directory : Directory) :
    run (discard key) directory = directory.remove key := by
  rw [run, discard_apply]
  cases directory.remove key <;> rfl

theorem run_store {directory : Directory} (few : directory.entries.length < alphabet.length)
    (v : Value) : run (store .calm key v) directory = ((), ·) <$> directory.write key v := by
  have calm : Untroubled { directory } key .calm := untroubled_calm few
  rw [run, store_eq_write calm v]
  cases directory.write key v <;> rfl

/-! ## What the calls leave -/

/-- Is there a place for the entry of a key? -/
structure Placeable (disk : Disk) (key : String) : Prop where
  accepted : ∃ name, disk.directory.resolve key = .ok name
  short : Text.Utf8.size key + temporaryExtra ≤ nameLimit
  unfolded : disk.directory.look (disk.directory.own (fileName key)) ≠ some .folder

theorem exists_write_iff (writable : Json.Writable v) :
    (∃ after, disk.directory.write key v = .ok after) ↔ disk.Placeable key := by
  constructor
  · rintro ⟨after, written⟩
    rcases bind_eq_ok_iff.1 written with ⟨name, found, _⟩
    rw [write_resolved found writable] at written
    rcases resolve_eq_ok found with ⟨_, _, rfl, _⟩
    split at written
    · cases written
    · rename_i short
      split at written
      · cases written
      · rename_i other
        exact ⟨⟨_, found⟩, Nat.not_lt.1 short, fun folder => other (beq_iff_eq.2 folder)⟩
  · rintro ⟨⟨name, found⟩, short, unfolded⟩
    rcases resolve_eq_ok found with ⟨_, _, rfl, _⟩
    refine ⟨disk.directory.withFile (fileName key) (document v), ?_⟩
    rw [write_resolved found writable, if_neg (Nat.not_lt.2 short), if_neg (by simpa using unfolded)]

/-- Has just the entry of a key been replaced, by the document of a value? Under the other keys the same
is read as before, but for links to the entry, and if the entry was no link itself. -/
structure Replaced (before : Disk) (key : String) (v : Value) (after : Disk) : Prop where
  base : after.directory.base = before.directory.base
  entry : after.directory.look (before.directory.own (fileName key)) = some (.file (document v))
  others : ∀ path, path ≠ before.directory.own (fileName key) →
    after.directory.look path = before.directory.look path
  fetched : (fetch key after).1 = .ok (Json.normalize v)
  fetched_others :
    (∀ target, before.directory.look (before.directory.own (fileName key)) ≠ some (.link target)) →
    ∀ reader, reader ≠ key → ¬before.directory.LinksTo reader key →
      (fetch reader after).1 = (fetch reader before).1

theorem look_remove {after : Directory} {removed : Bool} {path : Path}
    (gone : disk.directory.remove key = .ok (removed, after))
    (other : path ≠ disk.directory.own (fileName key)) :
    after.look path = disk.directory.look path := by
  rcases bind_eq_ok_iff.1 gone with ⟨name, found, taken⟩
  rcases resolve_eq_ok found with ⟨_, _, rfl, _⟩
  have erased : (disk.directory.takeAway (disk.directory.own (fileName key))).look path =
      disk.directory.look path := look_takeAway_of_ne (beq_eq_false_iff_ne.2 other)
  split at taken
  · split at taken
    · cases taken
    · cases taken
      exact erased
  · split at taken
    · cases taken
    · cases taken
      exact erased
  · cases taken
  · cases taken
    rfl

theorem replaced_of_write {after : Directory} (written : disk.directory.write key v = .ok after) :
    Replaced disk key v { disk with directory := after } := by
  have read := Directory.read_of_write written
  rcases write_eq_ok written with ⟨writable, storable, same⟩
  have unfolded := ((exists_write_iff writable).1 ⟨after, written⟩).unfolded
  subst same
  refine ⟨rfl, look_put_self, ?_, ?_, ?_⟩
  · exact fun path other => look_put_of_ne (beq_eq_false_iff_ne.2 other)
  · rw [fetch_apply]
    exact read
  · intro direct reader apart unlinked
    have plain : disk.directory.IsPlain (fileName key) := by
      cases found : disk.directory.look (disk.directory.own (fileName key)) with
      | none => exact .inl found
      | some entry =>
          cases entry with
          | file bytes => exact .inr ⟨bytes, found⟩
          | folder => exact absurd found unfolded
          | link target => exact absurd found (direct target)
    rw [fetch_apply, fetch_apply]
    exact read_withFile plain apart unlinked

end DataGateway.Store.Disk
