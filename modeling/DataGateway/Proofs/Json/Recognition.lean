import DataGateway.Proofs.Json.Grammar
import DataGateway.Proofs.Json.RoundTrip

/-!
# Documents are recognised

The reader says of every document what the grammar says: it accepts what says a value, as that value,
and nothing else. The fuel decides nothing, for everything that is read takes characters.

* `sound` — what has been read is what its characters say;
* `complete` — what characters say is read;
* `decode_eq_ok_iff` — both for whole documents.
-/

namespace DataGateway.Json

open Numeral

variable {levels : Nat} {s rest : List Char} {v : Value} {items : List Value} {fields : Record}

/-! ## What a value begins with -/

theorem SaysNumber.exists_digit {negative : Bool} (said : SaysNumber negative s v) :
    ∃ c tail, s = c :: tail ∧ isDigit c = true := by
  have whole {digits : List Char} (isWhole : IsWhole digits) (behind : List Char) :
      ∃ c tail, digits ++ behind = c :: tail ∧ isDigit c = true := by
    rcases isWhole with rfl | leads
    · exact ⟨'0', behind, rfl, rfl⟩
    · rcases List.exists_cons_of_ne_nil leads.some with ⟨c, tail, rfl⟩
      exact ⟨c, tail ++ behind, rfl, leads.plain c (List.mem_cons_self ..)⟩
  cases said with
  | whole isWhole _ =>
      have first := whole isWhole []
      rwa [List.append_nil] at first
  | broken isWhole _ _ _ => exact whole isWhole _

/-- What values begin with, the digits left out. -/
def openings : List Char := ['n', 't', 'f', 'N', 'I', '-', '"', '[', '\x7b']

/-- Every value begins with a digit, or with one of few other characters. -/
theorem Says.exists_first (said : Says levels s v) :
    ∃ c tail, s = c :: tail ∧ (isDigit c = true ∨ c ∈ openings) := by
  cases said with
  | unsigned number =>
      rcases number.exists_digit with ⟨c, tail, same, digit⟩
      exact ⟨c, tail, same, .inl digit⟩
  | _ => exact ⟨_, _, rfl, .inr (by decide)⟩

theorem Says.begins (said : Says levels s v) : Begins s := by
  -- none of the characters that open a value is a blank or closes a list
  have others : openings.all (fun c => !isSpace c && c != ']') = true := rfl
  rcases said.exists_first with ⟨c, tail, same, digit | opens⟩
  · have unmarked := not_mem_marks digit
    simp only [marks, List.mem_cons, List.not_mem_nil, or_false, not_or] at unmarked
    exact ⟨c, tail, same, by simp [isSpace, unmarked], unmarked.2.2.2.2.2.2.1⟩
  · have shown := List.all_eq_true.1 others c opens
    exact ⟨c, tail, same, by simpa using shown⟩

theorem SaysItems.begins (said : SaysItems levels s items) : Begins s := by
  cases said with
  | last value _ => exact value.begins.append _
  | more value _ _ _ => exact value.begins.append _

theorem SaysFields.begins (said : SaysFields levels s fields) : ∃ tail, s = '"' :: tail := by
  cases said with
  | last => exact ⟨_, rfl⟩
  | more => exact ⟨_, rfl⟩

/-! ## What has been read -/

theorem eq_append_of_after? {word : String} (found : after? word s = some rest) :
    s = word.toList ++ rest := by
  unfold after? at found
  split at found
  · rename_i first
    rcases List.isPrefixOf_iff_prefix.1 first with ⟨tail, rfl⟩
    cases found
    rw [← String.length_toList, List.drop_left]
  · cases found

/-- A word has been read as what it says. -/
theorem says_of_word {word : String} {w : Value} {tail : List Char}
    (said : Says levels word.toList w) (found : after? word s = some tail)
    (read : (Except.ok (w, tail) : Except Problem (Value × List Char)) = .ok (v, rest)) :
    ∃ used, s = used ++ rest ∧ Says levels used v := by
  cases read
  exact ⟨_, eq_append_of_after? found, said⟩

theorem says_of_scanAtom (read : scanAtom s = .ok (v, rest)) :
    ∃ used, s = used ++ rest ∧ Says levels used v := by
  unfold scanAtom at read
  -- the words in turn, then numbers with a sign and without
  split at read
  · rename_i found
    exact says_of_word .null found read
  split at read
  · rename_i found
    exact says_of_word .yes found read
  split at read
  · rename_i found
    exact says_of_word .no found read
  split at read
  · rename_i found
    exact says_of_word .nan found read
  split at read
  · rename_i found
    exact says_of_word .highest found read
  split at read
  · rename_i found
    exact says_of_word .lowest found read
  split at read
  · rcases saysNumber_of_scan read with ⟨used, rfl, number⟩
    exact ⟨_, rfl, .signed number⟩
  · rcases saysNumber_of_scan read with ⟨used, rfl, number⟩
    exact ⟨_, rfl, .unsigned number⟩

/-- What the readers make of texts is what the texts say, as far as the fuel reaches. -/
structure Sound (fuel : Nat) : Prop where
  value {levels : Nat} {s rest : List Char} {v : Value} :
    scanValue fuel levels s = .ok (v, rest) → ∃ used, s = used ++ rest ∧ Says levels used v
  items {levels : Nat} {s rest : List Char} {items : List Value} :
    scanItems fuel levels s = .ok (items, rest) → ∃ used, s = used ++ rest ∧ SaysItems levels used items
  fields {levels : Nat} {s rest : List Char} {fields : Record} :
    scanFields fuel levels s = .ok (fields, rest) →
      ∃ used, s = used ++ rest ∧ SaysFields levels used fields

section Steps

variable {fuel : Nat} (sound : Sound fuel)

include sound

theorem Sound.says_value (read : scanValue (fuel + 1) levels s = .ok (v, rest)) :
    ∃ used, s = used ++ rest ∧ Says levels used v := by
  rw [scanValue.eq_def] at read
  dsimp only at read
  split at read
  · rcases bind_eq_ok_iff.1 read with ⟨⟨name, _⟩, scanned, same⟩
    cases same
    rcases saysText_of_scan scanned with ⟨inner, rfl, said⟩
    exact ⟨_, by simp, .text said⟩
  · rename_i more
    rcases blank_skip more with ⟨blanks, whole, blank⟩
    split at read
    · cases read
    · split at read
      · rename_i closed
        cases read
        rw [whole, closed]
        exact ⟨_, by simp, .noItems blank⟩
      · rcases bind_eq_ok_iff.1 read with ⟨⟨inner, _⟩, scanned, same⟩
        cases same
        rcases sound.items scanned with ⟨used, skipped, said⟩
        rw [whole, skipped]
        exact ⟨_, by simp, .items blank said⟩
  · rename_i more
    rcases blank_skip more with ⟨blanks, whole, blank⟩
    split at read
    · cases read
    · split at read
      · rename_i closed
        cases read
        rw [whole, closed]
        exact ⟨_, by simp, .noFields blank⟩
      · rcases bind_eq_ok_iff.1 read with ⟨⟨inner, _⟩, scanned, same⟩
        cases same
        rcases sound.fields scanned with ⟨used, skipped, said⟩
        rw [whole, skipped]
        exact ⟨_, by simp, .fields blank said⟩
  · exact says_of_scanAtom read

theorem Sound.says_items (read : scanItems (fuel + 1) levels s = .ok (items, rest)) :
    ∃ used, s = used ++ rest ∧ SaysItems levels used items := by
  rw [scanItems.eq_def] at read
  dsimp only at read
  rcases bind_eq_ok_iff.1 read with ⟨⟨first, behind⟩, scanned, more⟩
  rcases sound.value scanned with ⟨used, rfl, said⟩
  rcases blank_skip behind with ⟨before, whole, blank⟩
  dsimp only at more
  split at more
  · rename_i closed
    cases more
    rw [whole, closed]
    exact ⟨_, by simp, .last said blank⟩
  · rename_i tail comma
    rcases bind_eq_ok_iff.1 more with ⟨⟨others, _⟩, later, same⟩
    cases same
    rcases blank_skip tail with ⟨after, skipped, blank'⟩
    rcases sound.items later with ⟨used', next, said'⟩
    rw [whole, comma, skipped, next]
    exact ⟨_, by simp, .more said blank blank' said'⟩
  · cases more

theorem Sound.says_fields (read : scanFields (fuel + 1) levels s = .ok (fields, rest)) :
    ∃ used, s = used ++ rest ∧ SaysFields levels used fields := by
  rw [scanFields.eq_def] at read
  dsimp only at read
  split at read
  · rcases bind_eq_ok_iff.1 read with ⟨⟨name, behind⟩, labelled, named⟩
    rcases saysText_of_scan labelled with ⟨label, rfl, called⟩
    rcases blank_skip behind with ⟨before, whole, blank⟩
    dsimp only at named
    split at named
    · rename_i tail colon
      rcases bind_eq_ok_iff.1 named with ⟨⟨inner, behind'⟩, scanned, more⟩
      rcases blank_skip tail with ⟨after, skipped, blank'⟩
      rcases sound.value scanned with ⟨used, valued, said⟩
      rcases blank_skip behind' with ⟨blanks, whole', blank''⟩
      dsimp only at more
      split at more
      · rename_i closed
        cases more
        rw [whole, colon, skipped, valued, whole', closed]
        exact ⟨_, by simp, .last called blank blank' said blank''⟩
      · rename_i tail' comma
        rcases bind_eq_ok_iff.1 more with ⟨⟨others, _⟩, later, same⟩
        cases same
        rcases blank_skip tail' with ⟨next, skipped', blank'''⟩
        rcases sound.fields later with ⟨used', following, said'⟩
        rw [whole, colon, skipped, valued, whole', comma, skipped', following]
        exact ⟨_, by simp, .more called blank blank' said blank'' blank''' said'⟩
      · cases more
    · cases named
  · cases read

end Steps

/-- Whatever has been read is what the text that has been read says. -/
theorem sound (fuel : Nat) : Sound fuel := by
  induction fuel with
  | zero =>
      constructor
      all_goals
        intros
        rename_i read
        cases read
  | succ fuel ih => exact ⟨ih.says_value, ih.says_items, ih.says_fields⟩

/-! ## What is read -/

/-- A value that begins like an atom is read as one. -/
theorem SaysNumber.scan_unsigned (said : SaysNumber false s v) (ends : EndsNumber rest) :
    scanAtom (s ++ rest) = .ok (v, rest) := by
  have read (start : List Char) : scanNumber start false (s ++ rest) = .ok (v, rest) := said.scan ends
  rcases said.exists_digit with ⟨c, tail, rfl, digit⟩
  rw [List.cons_append, scanAtom_digit digit]
  exact read _

theorem SaysNumber.scan_signed (said : SaysNumber true s v) (ends : EndsNumber rest) :
    scanAtom ('-' :: s ++ rest) = .ok (v, rest) := by
  have read (start : List Char) : scanNumber start true (s ++ rest) = .ok (v, rest) := said.scan ends
  rcases said.exists_digit with ⟨c, tail, rfl, digit⟩
  rw [List.cons_append, List.cons_append, scanAtom_minus digit]
  exact read _

/-- Is what the readers make of a text all that the text says, as far as the fuel reaches? -/
structure Complete (fuel : Nat) : Prop where
  value {levels : Nat} {s rest : List Char} {v : Value} : Says levels s v → EndsNumber rest →
    2 * s.length ≤ fuel + 1 → scanValue fuel levels (s ++ rest) = .ok (v, rest)
  items {levels : Nat} {s rest : List Char} {items : List Value} : SaysItems levels s items →
    2 * s.length ≤ fuel → scanItems fuel levels (s ++ rest) = .ok (items, rest)
  fields {levels : Nat} {s rest : List Char} {fields : Record} : SaysFields levels s fields →
    2 * s.length ≤ fuel → scanFields fuel levels (s ++ rest) = .ok (fields, rest)

/-- What is behind blanks that end before it. -/
theorem skip_blank {blanks : List Char} {c : Char} (blank : Blank blanks) (shown : isSpace c = false) :
    skip (blanks ++ c :: rest) = c :: rest := by
  rw [skip_append blank]
  simp [skip, shown]

theorem endsNumber_blank {blanks : List Char} {c : Char} (blank : Blank blanks)
    (h : isDigit c = false ∧ c ≠ '.' ∧ c ≠ 'e' ∧ c ≠ 'E') : EndsNumber (blanks ++ c :: rest) :=
  endsNumber_append blank (endsNumber_cons rest h)

section Steps

variable {fuel : Nat} (complete : Complete fuel)

include complete

theorem Complete.scan_value (said : Says levels s v) (ends : EndsNumber rest)
    (enough : 2 * s.length ≤ fuel + 2) : scanValue (fuel + 1) levels (s ++ rest) = .ok (v, rest) := by
  cases said with
  | unsigned number =>
      have read := number.scan_unsigned ends
      rcases number.exists_digit with ⟨c, tail, rfl, digit⟩
      rw [List.cons_append] at read ⊢
      rw [scanValue_atom (not_mem_marks digit), read]
  | signed number =>
      have read := number.scan_signed ends
      rw [List.cons_append] at read ⊢
      rw [scanValue_atom (by decide), read]
  | text said =>
      rw [List.cons_append, List.append_assoc, scanValue.eq_def]
      simp only [List.singleton_append, said.scan]
      rfl
  | noItems blank =>
      rw [List.cons_append, List.append_assoc, scanValue.eq_def]
      simp only [List.singleton_append, skip_blank blank (by decide : isSpace ']' = false)]
  | @items levels blanks s items blank said =>
      have read : scanItems fuel levels (s ++ rest) = .ok (items, rest) :=
        complete.items said (by simp only [List.length_cons, List.length_append] at enough; omega)
      rcases said.begins with ⟨c, tail, rfl, shown, opens⟩
      rw [List.cons_append, List.append_assoc, scanValue.eq_def]
      simp only [List.cons_append, skip_blank blank shown] at read ⊢
      split
      · rename_i closed
        exact absurd (List.cons.inj closed).1 opens
      · rw [read]
        rfl
  | noFields blank =>
      rw [List.cons_append, List.append_assoc, scanValue.eq_def]
      simp only [List.singleton_append, skip_blank blank (by decide : isSpace '\x7d' = false)]
  | @fields levels blanks s fields blank said =>
      have read : scanFields fuel levels (s ++ rest) = .ok (fields, rest) :=
        complete.fields said (by simp only [List.length_cons, List.length_append] at enough; omega)
      rcases said.begins with ⟨tail, rfl⟩
      rw [List.cons_append, List.append_assoc, scanValue.eq_def]
      simp only [List.cons_append, skip_blank blank (by decide : isSpace '"' = false)] at read ⊢
      split
      · -- the quote before the first name is no brace
        rename_i closed
        exact absurd (List.cons.inj closed).1 (by decide)
      · rw [read]
        rfl
  | _ =>
      rfl

theorem Complete.scan_items (said : SaysItems levels s items) (enough : 2 * s.length ≤ fuel + 1) :
    scanItems (fuel + 1) levels (s ++ rest) = .ok (items, rest) := by
  cases said with
  | @last _ s blanks v value blank =>
      simp only [List.length_append, List.length_singleton] at enough
      have ends : EndsNumber (blanks ++ ']' :: rest) := endsNumber_blank blank (by decide)
      have read := complete.value value ends (by omega)
      simp only [List.append_assoc, List.singleton_append]
      rw [scanItems, read, ok_bind]
      simp only [skip_blank blank (by decide : isSpace ']' = false)]
      rfl
  | @more _ s before after t v items value blank blank' said =>
      simp only [List.length_append, List.length_cons] at enough
      -- the first item takes a character, and that pays for the step to the others
      have written := value.begins.length_pos
      have ends : EndsNumber (before ++ ',' :: (after ++ (t ++ rest))) :=
        endsNumber_blank blank (by decide)
      have read := complete.value value ends (by omega)
      have next : scanItems fuel levels (t ++ rest) = .ok (items, rest) :=
        complete.items said (by omega)
      have skipped : skip (after ++ (t ++ rest)) = t ++ rest :=
        (skip_append blank').trans (said.begins.append rest).skip
      simp only [List.append_assoc, List.cons_append]
      rw [scanItems, read, ok_bind]
      simp only [skip_blank blank (by decide : isSpace ',' = false), skipped, next, ok_bind]
      rfl

theorem Complete.scan_fields (said : SaysFields levels s fields) (enough : 2 * s.length ≤ fuel + 1) :
    scanFields (fuel + 1) levels (s ++ rest) = .ok (fields, rest) := by
  cases said with
  | @last _ label name before after s blanks v called blank blank' value blank'' =>
      simp only [List.length_append, List.length_cons, List.length_nil] at enough
      have ends : EndsNumber (blanks ++ '\x7d' :: rest) := endsNumber_blank blank'' (by decide)
      have read := complete.value value ends (by omega)
      have skipped : skip (after ++ (s ++ (blanks ++ '\x7d' :: rest))) =
          s ++ (blanks ++ '\x7d' :: rest) :=
        (skip_append blank').trans (value.begins.append _).skip
      simp only [List.append_assoc, List.cons_append, List.nil_append]
      rw [scanFields.eq_def]
      simp only [called.scan, ok_bind, skip_blank blank (by decide : isSpace ':' = false), skipped,
        read, skip_blank blank'' (by decide : isSpace '\x7d' = false)]
      rfl
  | @more _ label name before after s blanks next t v fields called blank blank' value blank''
      blank''' said =>
      simp only [List.length_append, List.length_cons] at enough
      have ends : EndsNumber (blanks ++ ',' :: (next ++ (t ++ rest))) :=
        endsNumber_blank blank'' (by decide)
      have read := complete.value value ends (by omega)
      have later : scanFields fuel levels (t ++ rest) = .ok (fields, rest) :=
        complete.fields said (by omega)
      have skipped : skip (after ++ (s ++ (blanks ++ ',' :: (next ++ (t ++ rest))))) =
          s ++ (blanks ++ ',' :: (next ++ (t ++ rest))) :=
        (skip_append blank').trans (value.begins.append _).skip
      have skipped' : skip (next ++ (t ++ rest)) = t ++ rest := by
        rcases said.begins with ⟨tail, rfl⟩
        exact skip_blank blank''' (by decide)
      simp only [List.append_assoc, List.cons_append]
      rw [scanFields.eq_def]
      simp only [called.scan, ok_bind, skip_blank blank (by decide : isSpace ':' = false), skipped,
        read, skip_blank blank'' (by decide : isSpace ',' = false), skipped', later]
      rfl

end Steps

/-- Whatever a text says is read. -/
theorem complete (fuel : Nat) : Complete fuel := by
  induction fuel with
  | zero =>
      -- nothing that says something is empty, so there is always fuel
      constructor
      · intro levels s rest v said _ enough
        have written := said.begins.length_pos
        omega
      · intro levels s rest items said enough
        have written := said.begins.length_pos
        omega
      · intro levels s rest fields said enough
        rcases said.begins with ⟨tail, rfl⟩
        simp at enough
  | succ fuel ih => exact ⟨ih.scan_value, ih.scan_items, ih.scan_fields⟩

/-! ## Documents -/

theorem skip_eq_nil_iff : skip s = [] ↔ Blank s := by
  rw [skip, List.dropWhile_eq_nil_iff]
  rfl

/-- A document is read as a value if and only if it says the value. -/
theorem decode_eq_ok_iff {document : List Char} : decode document = .ok v ↔ Document document v := by
  constructor
  · intro read
    unfold decode at read
    split at read
    · cases read
    · rcases bind_eq_ok_iff.1 read with ⟨⟨inner, rest⟩, scanned, ended⟩
      dsimp only at ended
      split at ended
      · rename_i nothing
        cases ended
        rcases blank_skip document with ⟨before, whole, blank⟩
        rcases (sound _).value scanned with ⟨used, skipped, said⟩
        refine ⟨before, used, rest, ?_, blank, skip_eq_nil_iff.1 (List.isEmpty_iff.1 nothing), said⟩
        rw [← skipped, ← whole]
      · cases ended
  · rintro ⟨before, s, after, rfl, blank, blank', said⟩
    have unmarked : (before ++ (s ++ after)).head? ≠ some (Char.ofNat 0xFEFF) := by
      -- a byte order mark is no blank and opens no value
      intro first
      cases before with
      | nil =>
          have other : ¬(isDigit (Char.ofNat 0xFEFF) = true ∨ Char.ofNat 0xFEFF ∈ openings) := by decide
          rcases said.exists_first with ⟨c, tail, rfl, plain⟩
          cases first
          exact other plain
      | cons c before =>
          cases first
          exact absurd (blank _ (List.mem_cons_self ..)) (by decide)
    have skipped : skip (before ++ (s ++ after)) = s ++ after :=
      (skip_append blank).trans (said.begins.append after).skip
    have ends : EndsNumber after := by
      have behind := endsNumber_append blank' endsNumber_nil
      rwa [List.append_nil] at behind
    have enough : 2 * s.length ≤ 2 * (before ++ (s ++ after)).length + 2 + 1 := by
      simp only [List.length_append]
      omega
    have read := (complete _).value said ends enough
    have nothing : skip after = [] := skip_eq_nil_iff.2 blank'
    rw [decode, if_neg unmarked, skipped, read, ok_bind]
    simp only [nothing]
    rfl

end DataGateway.Json
