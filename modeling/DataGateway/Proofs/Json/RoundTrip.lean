import DataGateway.Proofs.Json.Number
import DataGateway.Proofs.Json.Reading
import DataGateway.Proofs.Json.Text

/-!
# Documents are read back

What is written for a value is read back as its normal form, in every layout that puts nothing but
blanks and commas between the parts. Readers give up on whole numbers of too many digits and on lists and
objects too deep inside each other, and on nothing else that is written for a value.

* `fits`, `Representable` — the values that readers do not give up on;
* `Reads` — what a reader makes of the place where a value is written;
* `Layout.IsBlank` — the layouts that put nothing but blanks and commas between the parts;
* `reads_encodeAt` — every value in its place, whether it fits or not.
-/

namespace DataGateway.Json

open Numeral

variable {rest : List Char}

/-! ## Values that can be read -/

mutual

/-- Can a value be read where at most `levels` lists and objects may be inside each other? -/
def fits (levels : Nat) : Value → Bool
  | .int n => (Nat.toDigits 10 n.natAbs).length ≤ digitLimit
  | .list items | .tuple items =>
    match levels with
    | 0 => false
    | levels + 1 => itemsFit levels items
  | .object fields =>
    match levels with
    | 0 => false
    | levels + 1 => fieldsFit levels fields
  | _ => true

def itemsFit (levels : Nat) : List Value → Bool
  | [] => true
  | item :: rest => fits levels item && itemsFit levels rest

def fieldsFit (levels : Nat) : List (String × Value) → Bool
  | [] => true
  | (_, v) :: rest => fits levels v && fieldsFit levels rest

end

/-- Can a document say a value to a reader? -/
def Representable (v : Value) : Prop := fits levelLimit v = true

instance (v : Value) : Decidable (Representable v) := inferInstanceAs (Decidable (_ = _))

/-- What a reader makes of a place: the value there with what follows it, when the value fits; else the
reader gives up. -/
inductive Reads {α : Type} (a : α) (rest : List Char) : Bool → Except Problem (α × List Char) → Prop
  | said : Reads a rest true (.ok (a, rest))
  | gaveUp {problem : Problem} : problem.cause.IsLimit → Reads a rest false (.error problem)

/-! ## Words -/

/-- A text that begins otherwise does not begin with the word. -/
theorem after?_of_ne {word : String} {w c : Char} {letters : List Char}
    (spelled : word.toList = w :: letters) (other : w ≠ c) : after? word (c :: rest) = none := by
  simp [after?, spelled, List.isPrefixOf, other]

theorem ne_of_isDigit {c d : Char} (digit : isDigit c = true) (letter : isDigit d = false) : d ≠ c := by
  rintro rfl
  rw [digit] at letter
  cases letter

/-! ## Numbers in their places -/

/-- What begins with a digit is a number without a sign. -/
theorem scanAtom_digit {c : Char} (digit : isDigit c = true) :
    scanAtom (c :: rest) = scanNumber (c :: rest) false (c :: rest) := by
  have other {d : Char} (letter : isDigit d = false) : d ≠ c := ne_of_isDigit digit letter
  have null : after? "null" (c :: rest) = none := after?_of_ne rfl (other (by decide))
  have yes : after? "true" (c :: rest) = none := after?_of_ne rfl (other (by decide))
  have no : after? "false" (c :: rest) = none := after?_of_ne rfl (other (by decide))
  have nan : after? "NaN" (c :: rest) = none := after?_of_ne rfl (other (by decide))
  have highest : after? "Infinity" (c :: rest) = none := after?_of_ne rfl (other (by decide))
  have lowest : after? "-Infinity" (c :: rest) = none := after?_of_ne rfl (other (by decide))
  have unsigned : c ≠ '-' := (other (by decide)).symm
  simp [scanAtom, null, yes, no, nan, highest, lowest, unsigned]

/-- A minus before a digit is the sign of a number. -/
theorem scanAtom_minus {c : Char} (digit : isDigit c = true) :
    scanAtom ('-' :: c :: rest) = scanNumber ('-' :: c :: rest) true (c :: rest) := by
  have null : after? "null" ('-' :: c :: rest) = none := after?_of_ne rfl (by decide)
  have yes : after? "true" ('-' :: c :: rest) = none := after?_of_ne rfl (by decide)
  have no : after? "false" ('-' :: c :: rest) = none := after?_of_ne rfl (by decide)
  have nan : after? "NaN" ('-' :: c :: rest) = none := after?_of_ne rfl (by decide)
  have highest : after? "Infinity" ('-' :: c :: rest) = none := after?_of_ne rfl (by decide)
  have lowest : after? "-Infinity" ('-' :: c :: rest) = none := by
    have letter : 'I' ≠ c := ne_of_isDigit digit (by decide)
    simp [after?, letter]
  simp [scanAtom, null, yes, no, nan, highest, lowest]

/-- What is read as a number begins with a digit. -/
theorem exists_digit_of_scanNumber {start s : List Char} {negative : Bool}
    {result : Value × List Char} (read : scanNumber start negative s = .ok result) :
    ∃ c tail, s = c :: tail ∧ isDigit c = true := by
  cases s with
  | nil => cases read
  | cons c tail =>
      cases digit : isDigit c with
      | true => exact ⟨c, tail, rfl, digit⟩
      | false =>
          have nonzero : c ≠ '0' := by
            rintro rfl
            cases digit
          have none : scanWhole (c :: tail) = none := by
            simp [scanWhole, digit]
          rw [scanNumber, none] at read
          cases read

/-- What goes for a number after any sign goes for it where it stands, with a sign and without. -/
theorem scanAtom_number {P : Bool → Except Problem (Value × List Char) → Prop} {s : List Char}
    (digit : ∃ c tail, s = c :: tail ∧ isDigit c = true)
    (read : ∀ start negative, P negative (scanNumber start negative (s ++ rest))) :
    P false (scanAtom (s ++ rest)) ∧ P true (scanAtom ('-' :: s ++ rest)) := by
  rcases digit with ⟨c, tail, rfl, digit⟩
  simp only [List.cons_append] at read ⊢
  rw [scanAtom_digit digit, scanAtom_minus digit]
  exact ⟨read _ false, read _ true⟩

theorem exists_digit_toDigits (n : Nat) :
    ∃ c tail, Nat.toDigits 10 n = c :: tail ∧ isDigit c = true := by
  rcases List.exists_cons_of_ne_nil (Nat.toDigits_ne_nil : Nat.toDigits 10 n ≠ []) with
    ⟨c, tail, same⟩
  have member : c ∈ Nat.toDigits 10 n := by
    rw [same]
    exact List.mem_cons_self ..
  exact ⟨c, tail, same, isDigit_of_mem_toDigits member⟩

theorem exists_digit_text (m : Magnitude) : ∃ c tail, m.text = c :: tail ∧ isDigit c = true := by
  have read := scanNumber_text [] false m endsNumber_nil
  rw [List.append_nil] at read
  exact exists_digit_of_scanNumber read

/-! ## Atoms -/

/-- Has a value no parts of its own, and is it no text? -/
def IsAtom : Value → Prop
  | .null | .bool _ | .int _ | .float _ => True
  | _ => False

theorem toList_int (n : Int) : (toString n).toList =
    if n < 0 then '-' :: Nat.toDigits 10 n.natAbs else Nat.toDigits 10 n.natAbs := by
  have digits (n : Nat) : (toString n).toList = Nat.toDigits 10 n := by
    rw [Nat.toString_eq_ofList_toDigits, String.toList_ofList]
  cases n with
  | ofNat n =>
      rw [if_neg (by simp)]
      exact digits n
  | negSucc n =>
      have signed : (toString (Int.negSucc n)).toList = '-' :: (toString (n + 1)).toList :=
        String.toList_append
      rw [if_pos (Int.negSucc_lt_zero n), signed, digits]
      rfl

theorem encodeFloat_finite (negative : Bool) (m : Magnitude) :
    encodeFloat (.finite negative m) = if negative then '-' :: m.text else m.text :=
  String.toList_ofList

theorem reads_int (n : Int) (ends : EndsNumber rest) : Reads (.int n) rest
    (decide ((Nat.toDigits 10 n.natAbs).length ≤ digitLimit))
    (scanAtom ((toString n).toList ++ rest)) := by
  let count := (Nat.toDigits 10 n.natAbs).length
  have read (start : List Char) (negative : Bool) :
      Reads (.int (if negative then -(n.natAbs : Int) else n.natAbs)) rest
        (decide (count ≤ digitLimit)) (scanNumber start negative (Nat.toDigits 10 n.natAbs ++ rest)) := by
    rw [scanNumber_whole start negative n.natAbs ends]
    by_cases long : digitLimit < count
    · rw [if_pos long, decide_eq_false (Nat.not_le.2 long)]
      exact .gaveUp trivial
    · rw [if_neg long, decide_eq_true (Nat.not_lt.1 long)]
      exact .said
  rcases scanAtom_number (exists_digit_toDigits n.natAbs) read with ⟨unsigned, signed⟩
  rw [toList_int]
  by_cases negative : n < 0
  · have value : -(n.natAbs : Int) = n := by omega
    rw [if_pos negative]
    simpa only [value, if_true] using signed
  · have value : (n.natAbs : Int) = n := by omega
    rw [if_neg negative]
    simpa only [value, if_false, Bool.false_eq_true] using unsigned

theorem reads_float (x : Binary64) (ends : EndsNumber rest) :
    Reads (normalize (.float x)) rest true (scanAtom (encodeFloat x ++ rest)) := by
  cases x with
  | nan origin => exact .said
  | infinity negative => cases negative <;> exact .said
  | finite negative m =>
      have read (start : List Char) (negative : Bool) :
          Reads (.float (.finite negative m)) rest true
            (scanNumber start negative (m.text ++ rest)) := by
        rw [scanNumber_text start negative m ends]
        exact .said
      rcases scanAtom_number (exists_digit_text m) read with ⟨unsigned, signed⟩
      have normal : normalize (.float (.finite negative m)) = .float (.finite negative m) := rfl
      rw [encodeFloat_finite, normal]
      cases negative with
      | false => simpa using unsigned
      | true => simpa using signed

/-- A value without parts is read up to its end. -/
theorem reads_atom {layout : Layout} {level levels : Nat} {v : Value} (atom : IsAtom v)
    (ends : EndsNumber rest) : Reads (normalize v) rest (fits levels v)
      (scanAtom (encodeAt layout level v ++ rest)) := by
  cases v with
  | null => exact .said
  | bool b => cases b <;> exact .said
  | int n => exact reads_int n ends
  | float x => exact reads_float x ends
  | _ => exact atom.elim

/-! ## What a value begins with -/

/-- What no atom begins with: blanks, quotes and brackets. -/
def marks : List Char := [' ', '\t', '\n', '\r', '"', '[', ']', '\x7b']

theorem not_mem_marks {c : Char} (digit : isDigit c = true) : c ∉ marks := by
  have none : marks.all (fun d => !isDigit d) = true := rfl
  intro mark
  have other := List.all_eq_true.1 none c mark
  simp [digit] at other

theorem exists_first {layout : Layout} {level : Nat} {v : Value} (atom : IsAtom v) :
    ∃ c tail, encodeAt layout level v = c :: tail ∧ c ∉ marks := by
  have minus : '-' ∉ marks := by decide
  cases v with
  | null => exact ⟨'n', _, rfl, by decide⟩
  | bool b =>
      cases b with
      | false => exact ⟨'f', _, rfl, by decide⟩
      | true => exact ⟨'t', _, rfl, by decide⟩
  | int n =>
      rcases exists_digit_toDigits n.natAbs with ⟨c, tail, same, digit⟩
      rw [encodeAt, toList_int, same]
      split
      · exact ⟨'-', _, rfl, minus⟩
      · exact ⟨c, tail, rfl, not_mem_marks digit⟩
  | float x =>
      rw [encodeAt]
      cases x with
      | nan origin => exact ⟨'N', _, rfl, by decide⟩
      | infinity negative =>
          cases negative with
          | false => exact ⟨'I', _, rfl, by decide⟩
          | true => exact ⟨'-', _, rfl, minus⟩
      | finite negative m =>
          rcases exists_digit_text m with ⟨c, tail, same, digit⟩
          rw [encodeFloat_finite, same]
          cases negative with
          | false => exact ⟨c, tail, rfl, not_mem_marks digit⟩
          | true => exact ⟨'-', _, rfl, minus⟩
  | _ => exact atom.elim

/-- What begins like an atom is read as one. -/
theorem scanValue_atom {c : Char} (unmarked : c ∉ marks) (fuel levels : Nat) (s : List Char) :
    scanValue (fuel + 1) levels (c :: s) = scanAtom (c :: s) := by
  simp only [marks, List.mem_cons, List.not_mem_nil, or_false, not_or] at unmarked
  rcases unmarked with ⟨_, _, _, _, quote, bracket, _, brace⟩
  rw [scanValue.eq_def]
  simp [quote, bracket, brace]

/-- Does a text begin with something that is no blank, and that does not close a list? -/
def Begins (s : List Char) : Prop := ∃ c tail, s = c :: tail ∧ isSpace c = false ∧ c ≠ ']'

theorem Begins.skip {s : List Char} (begins : Begins s) : skip s = s := by
  rcases begins with ⟨c, tail, rfl, shown, _⟩
  simp [Json.skip, shown]

theorem Begins.length_pos {s : List Char} (begins : Begins s) : 0 < s.length := by
  rcases begins with ⟨c, tail, rfl, -⟩
  exact Nat.succ_pos _

theorem Begins.append {s : List Char} (begins : Begins s) (rest : List Char) : Begins (s ++ rest) := by
  rcases begins with ⟨c, tail, rfl, shown, opens⟩
  exact ⟨c, tail ++ rest, rfl, shown, opens⟩

theorem begins_encodeText (s : String) : Begins (encodeText s) := ⟨'"', _, rfl, rfl, by decide⟩

/-- What is written for a value begins neither with a blank nor with the end of a list. -/
theorem begins_encodeAt (layout : Layout) (level : Nat) (v : Value) :
    Begins (encodeAt layout level v) := by
  have atom (single : IsAtom v) : Begins (encodeAt layout level v) := by
    rcases exists_first single with ⟨c, tail, same, unmarked⟩
    simp only [marks, List.mem_cons, List.not_mem_nil, or_false, not_or] at unmarked
    exact ⟨c, tail, same, by simp [isSpace, unmarked], unmarked.2.2.2.2.2.2.1⟩
  have surrounded {left right : Char} (items : List (List Char))
      (shown : isSpace left = false) (opens : left ≠ ']') :
      Begins (layout.surround (level + 1) left right items) := by
    unfold Layout.surround
    split
    · exact ⟨left, _, rfl, shown, opens⟩
    · exact ⟨left, _, rfl, shown, opens⟩
  cases v with
  | text s => exact begins_encodeText s
  | octets bytes => exact begins_encodeText _
  | entity kind mark fields => exact begins_encodeText _
  | list items => exact surrounded _ rfl (by decide)
  | tuple items => exact surrounded _ rfl (by decide)
  | object fields => exact surrounded _ rfl (by decide)
  | _ => exact atom trivial

/-! ## Layouts -/

/-- Does a layout put nothing but blanks and commas between the parts of a document? -/
structure Layout.IsBlank (layout : Layout) : Prop where
  opening : ∀ level, ∀ c ∈ layout.opening level, isSpace c = true
  separator : ∀ level, ∃ blanks, layout.separator level = ',' :: blanks ∧
    ∀ c ∈ blanks, isSpace c = true
  closing : ∀ level, ∀ c ∈ layout.closing level, isSpace c = true

theorem blank_lineBreak (level : Nat) : ∀ c ∈ lineBreak level, isSpace c = true := by
  intro c member
  rcases List.mem_cons.1 member with rfl | blank
  · rfl
  · rw [List.eq_of_mem_replicate blank]
    rfl

theorem isBlank_compact : compact.IsBlank where
  opening _ := nofun
  separator _ := ⟨[' '], rfl, List.forall_mem_singleton.2 rfl⟩
  closing _ := nofun

theorem isBlank_indented : indented.IsBlank where
  opening := blank_lineBreak
  separator level := ⟨lineBreak level, rfl, blank_lineBreak level⟩
  closing level := blank_lineBreak (level - 1)

theorem skip_append {blanks s : List Char} (blank : ∀ c ∈ blanks, isSpace c = true) :
    skip (blanks ++ s) = skip s :=
  List.dropWhile_append_of_pos blank

theorem endsNumber_append {blanks s : List Char} (blank : ∀ c ∈ blanks, isSpace c = true)
    (ends : EndsNumber s) : EndsNumber (blanks ++ s) := by
  cases blanks with
  | nil => exact ends
  | cons c blanks =>
      have space : isSpace c = true := blank c List.mem_cons_self
      simp only [isSpace, Bool.or_eq_true, beq_iff_eq] at space
      refine endsNumber_cons _ ?_
      rcases space with ((rfl | rfl) | rfl) | rfl <;> decide

/-! ## Parts between brackets -/

variable {layout : Layout} {level levels fuel : Nat}

/-- The parts of a document as they stand between two brackets. -/
def joined (layout : Layout) (level : Nat) (parts : List (List Char)) : List Char :=
  (layout.separator level).intercalate parts

theorem joined_singleton (layout : Layout) (level : Nat) (part : List Char) :
    joined layout level [part] = part := by
  simp [joined]

theorem joined_cons (layout : Layout) (level : Nat) (part : List Char) {parts : List (List Char)}
    (more : parts ≠ []) : joined layout level (part :: parts) =
      part ++ (layout.separator level ++ joined layout level parts) := by
  cases parts with
  | nil => contradiction
  | cons next parts => simp [joined, List.intercalate]

theorem Begins.joined {part : List Char} (begins : Begins part) (layout : Layout) (level : Nat)
    (parts : List (List Char)) : Begins (joined layout level (part :: parts)) := by
  cases parts with
  | nil => rwa [joined_singleton]
  | cons next parts =>
      rw [joined_cons layout level part (List.cons_ne_nil next parts)]
      exact begins.append _

theorem surround_cons (layout : Layout) (level : Nat) (left right : Char) (part : List Char)
    (parts : List (List Char)) : layout.surround level left right (part :: parts) ++ rest =
      left :: (layout.opening level ++
        (joined layout level (part :: parts) ++ (layout.closing level ++ right :: rest))) := by
  simp [Layout.surround, joined]

theorem exists_surround (layout : Layout) (level : Nat) (left right : Char)
    (parts : List (List Char)) :
    ∃ tail, layout.surround level left right parts = left :: tail := by
  unfold Layout.surround
  split
  · exact ⟨_, rfl⟩
  · exact ⟨_, rfl⟩

/-- The brackets take two steps of the reader, and four of the fuel. -/
theorem length_surround_cons (layout : Layout) (level : Nat) (left right : Char) (part : List Char)
    (parts : List (List Char)) : (joined layout level (part :: parts)).length + 2 ≤
      (layout.surround level left right (part :: parts)).length := by
  have whole : layout.surround level left right (part :: parts) ++ [] = _ :=
    surround_cons layout level left right part parts
  have same := congrArg List.length whole
  simp only [List.length_append, List.length_cons, List.length_nil] at same
  omega

/-! ## One part after the other -/

theorem reads_text (fuel levels : Nat) (s : String) (rest : List Char) :
    Reads (.text s) rest true (scanValue (fuel + 1) levels (encodeText s ++ rest)) := by
  have whole : encodeText s ++ rest = '"' :: (s.toList.flatMap encodeChar ++ '"' :: rest) := by
    simp [encodeText]
  have read : scanValue (fuel + 1) levels (encodeText s ++ rest) = .ok (.text s, rest) := by
    rw [whole, scanValue.eq_def]
    simp only [scanText_encodeText]
    exact congrArg (fun t => Except.ok (Value.text t, rest)) String.ofList_toList
  rw [read]
  exact .said

section Parts

variable (blank : layout.IsBlank) {part others : List Char} {parts : List (List Char)} {v : Value}
  {items : List Value} {fields : Record} {name : String} {fit othersFit : Bool}

include blank

theorem skip_closing {right : Char} (shown : isSpace right = false) :
    skip (layout.closing level ++ right :: rest) = right :: rest := by
  rw [skip_append (blank.closing level)]
  simp [skip, shown]

theorem exists_skip_separator (begins : Begins others) :
    ∃ tail, skip (layout.separator level ++ others) = ',' :: tail ∧ skip tail = others := by
  rcases blank.separator level with ⟨blanks, same, spaces⟩
  refine ⟨blanks ++ others, ?_, ?_⟩
  · rw [same]
    rfl
  · rw [skip_append spaces, begins.skip]

theorem endsNumber_closing {right : Char}
    (h : isDigit right = false ∧ right ≠ '.' ∧ right ≠ 'e' ∧ right ≠ 'E') :
    EndsNumber (layout.closing level ++ right :: rest) :=
  endsNumber_append (blank.closing level) (endsNumber_cons rest h)

theorem endsNumber_separator : EndsNumber (layout.separator level ++ others) := by
  rcases blank.separator level with ⟨blanks, same, -⟩
  rw [same]
  exact endsNumber_cons _ (by decide)

/-! ### Items -/

theorem reads_last_item (read : Reads v (layout.closing level ++ ']' :: rest) fit
    (scanValue fuel levels (part ++ (layout.closing level ++ ']' :: rest)))) :
    Reads [v] rest fit
      (scanItems (fuel + 1) levels (part ++ (layout.closing level ++ ']' :: rest))) := by
  have closed : skip (layout.closing level ++ ']' :: rest) = ']' :: rest := skip_closing blank rfl
  rw [scanItems]
  generalize scanValue fuel levels (part ++ (layout.closing level ++ ']' :: rest)) = result at read ⊢
  cases read with
  | gaveUp limit => exact .gaveUp limit
  | said =>
      simp only [bind, Except.bind, closed]
      exact .said

theorem reads_more_items (begins : Begins others)
    (read : Reads v (layout.separator level ++ others) fit
      (scanValue fuel levels (part ++ (layout.separator level ++ others))))
    (next : Reads items rest othersFit (scanItems fuel levels others)) :
    Reads (v :: items) rest (fit && othersFit)
      (scanItems (fuel + 1) levels (part ++ (layout.separator level ++ others))) := by
  have begun : ∃ tail, skip (layout.separator level ++ others) = ',' :: tail ∧ skip tail = others :=
    exists_skip_separator blank begins
  rcases begun with ⟨tail, comma, skipped⟩
  rw [scanItems]
  generalize scanValue fuel levels (part ++ (layout.separator level ++ others)) = result at read ⊢
  cases read with
  | gaveUp limit => exact .gaveUp limit
  | said =>
      simp only [bind, Except.bind, comma, skipped]
      generalize scanItems fuel levels others = result at next ⊢
      cases next with
      | gaveUp limit => exact .gaveUp limit
      | said => exact .said

/-- The items between the brackets of a list. -/
theorem reads_items (begins : Begins part)
    (read : Reads items rest fit (scanItems fuel levels (joined layout level (part :: parts) ++
      (layout.closing level ++ ']' :: rest)))) :
    Reads (.list items) rest fit
      (scanValue (fuel + 1) (levels + 1) (layout.surround level '[' ']' (part :: parts) ++ rest)) := by
  have whole : Begins (joined layout level (part :: parts) ++
      (layout.closing level ++ ']' :: rest)) :=
    (begins.joined layout level parts).append _
  have skipped := (skip_append (blank.opening level)).trans whole.skip
  rcases whole with ⟨c, tail, same, -, opens⟩
  rw [surround_cons, scanValue.eq_def]
  simp only [skipped]
  rw [same] at read ⊢
  split
  · rename_i closed
    exact absurd (List.cons.inj closed).1 opens
  · generalize scanItems fuel levels (c :: tail) = result at read ⊢
    cases read with
    | gaveUp limit => exact .gaveUp limit
    | said => exact .said

/-! ### Fields -/

omit blank in
/-- A field begins with the quote of its name, and one blank stands between its colon and its value. -/
theorem field_eq (begins : Begins part) (tail : List Char) :
    encodeText name ++ ':' :: ' ' :: part ++ tail =
        '"' :: (name.toList.flatMap encodeChar ++ '"' :: ':' :: ' ' :: (part ++ tail)) ∧
      skip (':' :: ' ' :: (part ++ tail)) = ':' :: ' ' :: (part ++ tail) ∧
      skip (' ' :: (part ++ tail)) = part ++ tail := by
  refine ⟨?_, rfl, (begins.append tail).skip⟩
  simp [encodeText]

theorem reads_last_field (begins : Begins part)
    (read : Reads v (layout.closing level ++ '\x7d' :: rest) fit
      (scanValue fuel levels (part ++ (layout.closing level ++ '\x7d' :: rest)))) :
    Reads [(name, v)] rest fit (scanFields (fuel + 1) levels
      (encodeText name ++ ':' :: ' ' :: part ++ (layout.closing level ++ '\x7d' :: rest))) := by
  have closed : skip (layout.closing level ++ '\x7d' :: rest) = '\x7d' :: rest :=
    skip_closing blank rfl
  rcases field_eq begins (layout.closing level ++ '\x7d' :: rest) with ⟨whole, colon, skipped⟩
  rw [whole, scanFields.eq_def]
  simp only [scanText_encodeText, bind, Except.bind, colon, skipped, String.ofList_toList]
  generalize scanValue fuel levels (part ++ (layout.closing level ++ '\x7d' :: rest)) = result
    at read ⊢
  cases read with
  | gaveUp limit => exact .gaveUp limit
  | said =>
      simp only [closed]
      exact .said

theorem reads_more_fields (begins : Begins part) (starts : Begins others)
    (read : Reads v (layout.separator level ++ others) fit
      (scanValue fuel levels (part ++ (layout.separator level ++ others))))
    (next : Reads fields rest othersFit (scanFields fuel levels others)) :
    Reads ((name, v) :: fields) rest (fit && othersFit) (scanFields (fuel + 1) levels
      (encodeText name ++ ':' :: ' ' :: part ++ (layout.separator level ++ others))) := by
  have begun : ∃ tail, skip (layout.separator level ++ others) = ',' :: tail ∧ skip tail = others :=
    exists_skip_separator blank starts
  rcases begun with ⟨tail, comma, skipped⟩
  rcases field_eq begins (layout.separator level ++ others) with ⟨whole, colon, value⟩
  rw [whole, scanFields.eq_def]
  simp only [scanText_encodeText, bind, Except.bind, colon, value, String.ofList_toList]
  generalize scanValue fuel levels (part ++ (layout.separator level ++ others)) = result at read ⊢
  cases read with
  | gaveUp limit => exact .gaveUp limit
  | said =>
      simp only [comma, skipped]
      generalize scanFields fuel levels others = result at next ⊢
      cases next with
      | gaveUp limit => exact .gaveUp limit
      | said => exact .said

/-- The fields between the braces of an object. -/
theorem reads_fields (read : Reads fields rest fit (scanFields fuel levels
      (joined layout level ((encodeText name ++ part) :: parts) ++
        (layout.closing level ++ '\x7d' :: rest)))) :
    Reads (.object (Fields.ofPairs fields)) rest fit (scanValue (fuel + 1) (levels + 1)
      (layout.surround level '\x7b' '\x7d' ((encodeText name ++ part) :: parts) ++ rest)) := by
  have quoted : ∃ tail, joined layout level ((encodeText name ++ part) :: parts) ++
      (layout.closing level ++ '\x7d' :: rest) = '"' :: tail := by
    cases parts with
    | nil => exact ⟨_, rfl⟩
    | cons next parts => exact ⟨_, rfl⟩
  rcases quoted with ⟨tail, same⟩
  have skipped : skip (layout.opening level ++ '"' :: tail) = '"' :: tail :=
    skip_append (blank.opening level)
  rw [same] at read
  rw [surround_cons, scanValue.eq_def]
  simp only [same, skipped]
  split
  · -- the quote before the first name is no brace
    rename_i closed
    exact absurd (List.cons.inj closed).1 (by decide)
  · generalize scanFields fuel levels ('"' :: tail) = result at read ⊢
    cases read with
    | gaveUp limit => exact .gaveUp limit
    | said => exact .said

/-! ### Lists and objects -/

theorem reads_list (values : List Value)
    (enough : 2 * (layout.surround level '[' ']' (encodeItems layout level values)).length ≤ fuel + 2)
    (read : ∀ levels, values ≠ [] →
      2 * (joined layout level (encodeItems layout level values)).length ≤ fuel →
        Reads (normalizeItems values) rest (itemsFit levels values)
          (scanItems fuel levels (joined layout level (encodeItems layout level values) ++
            (layout.closing level ++ ']' :: rest)))) :
    Reads (.list (normalizeItems values)) rest (fits levels (.list values))
      (scanValue (fuel + 1) levels
        (layout.surround level '[' ']' (encodeItems layout level values) ++ rest)) := by
  cases levels with
  | zero =>
      rcases exists_surround layout level '[' ']' (encodeItems layout level values) with ⟨tail, same⟩
      rw [same]
      exact .gaveUp trivial
  | succ levels =>
      cases values with
      | nil => exact .said
      | cons value values =>
          have room := length_surround_cons layout level '[' ']' (encodeAt layout level value)
            (encodeItems layout level values)
          simp only [encodeItems] at enough read ⊢
          exact reads_items blank (begins_encodeAt layout level value)
            (read levels (List.cons_ne_nil _ _) (by omega))

theorem reads_object (values : Record)
    (enough : 2 * (layout.surround level '\x7b' '\x7d'
      (encodeFields layout level values)).length ≤ fuel + 2)
    (read : ∀ levels, values ≠ [] →
      2 * (joined layout level (encodeFields layout level values)).length ≤ fuel →
        Reads (normalizeFields values) rest (fieldsFit levels values)
          (scanFields fuel levels (joined layout level (encodeFields layout level values) ++
            (layout.closing level ++ '\x7d' :: rest)))) :
    Reads (.object (Fields.ofPairs (normalizeFields values))) rest (fits levels (.object values))
      (scanValue (fuel + 1) levels
        (layout.surround level '\x7b' '\x7d' (encodeFields layout level values) ++ rest)) := by
  cases levels with
  | zero =>
      rcases exists_surround layout level '\x7b' '\x7d' (encodeFields layout level values) with
        ⟨tail, same⟩
      rw [same]
      exact .gaveUp trivial
  | succ levels =>
      cases values with
      | nil => exact .said
      | cons field values =>
          rcases field with ⟨name, value⟩
          have room := length_surround_cons layout level '\x7b' '\x7d'
            (encodeText name ++ ':' :: ' ' :: encodeAt layout level value)
            (encodeFields layout level values)
          simp only [encodeFields] at enough read ⊢
          exact reads_fields blank (read levels (List.cons_ne_nil _ _) (by omega))

end Parts

/-! ## Whole values -/

theorem encodeItems_ne_nil {items : List Value} (nonempty : items ≠ []) :
    encodeItems layout level items ≠ [] := by
  cases items with
  | nil => contradiction
  | cons item items => simp [encodeItems]

theorem encodeFields_ne_nil {fields : Record} (nonempty : fields ≠ []) :
    encodeFields layout level fields ≠ [] := by
  cases fields with
  | nil => contradiction
  | cons field fields => simp [encodeFields]

/-- The items of a list begin as the first of them does. -/
theorem begins_items {items : List Value} (nonempty : items ≠ []) :
    Begins (joined layout level (encodeItems layout level items)) := by
  cases items with
  | nil => contradiction
  | cons item items => exact (begins_encodeAt layout level item).joined layout level _

/-- The fields of an object begin with the quote of the first name. -/
theorem begins_fields {fields : Record} (nonempty : fields ≠ []) :
    Begins (joined layout level (encodeFields layout level fields)) := by
  cases fields with
  | nil => contradiction
  | cons field fields =>
      have begins : Begins (encodeText field.1 ++ ':' :: ' ' :: encodeAt layout level field.2) :=
        (begins_encodeText field.1).append _
      exact begins.joined layout level _

mutual

/-- A value is read from its place in a document, and what follows is left; unless it does not fit. -/
theorem reads_encodeAt (blank : layout.IsBlank) (v : Value) (level levels fuel : Nat)
    (rest : List Char) (ends : EndsNumber rest)
    (enough : 2 * (encodeAt layout level v).length ≤ fuel + 1) :
    Reads (normalize v) rest (fits levels v)
      (scanValue fuel levels (encodeAt layout level v ++ rest)) := by
  -- every value takes a character, so there is fuel for a step
  have written := (begins_encodeAt layout level v).length_pos
  cases fuel with
  | zero => omega
  | succ fuel =>
      have atom (single : IsAtom v) : Reads (normalize v) rest (fits levels v)
          (scanValue (fuel + 1) levels (encodeAt layout level v ++ rest)) := by
        have read : Reads (normalize v) rest (fits levels v)
            (scanAtom (encodeAt layout level v ++ rest)) := reads_atom single ends
        rcases exists_first single with ⟨c, tail, same, unmarked⟩
        rw [same, List.cons_append] at read ⊢
        rwa [scanValue_atom unmarked]
      cases v with
      | text s => exact reads_text fuel levels s rest
      | octets bytes => exact reads_text fuel levels _ rest
      | entity kind mark fields => exact reads_text fuel levels _ rest
      | list items =>
          have read := fun levels => reads_encodeItems blank items (level + 1) levels fuel rest
          exact reads_list blank items enough read
      | tuple items =>
          have same : fits levels (.tuple items) = fits levels (.list items) := by
            cases levels <;> rfl
          have read := fun levels => reads_encodeItems blank items (level + 1) levels fuel rest
          rw [same]
          exact reads_list blank items enough read
      | object fields =>
          have read := fun levels => reads_encodeFields blank fields (level + 1) levels fuel rest
          exact reads_object blank fields enough read
      | _ => exact atom trivial

/-- The items of a list are read up to its bracket. -/
theorem reads_encodeItems (blank : layout.IsBlank) (items : List Value)
    (level levels fuel : Nat) (rest : List Char) (nonempty : items ≠ [])
    (enough : 2 * (joined layout level (encodeItems layout level items)).length ≤ fuel) :
    Reads (normalizeItems items) rest (itemsFit levels items)
      (scanItems fuel levels (joined layout level (encodeItems layout level items) ++
        (layout.closing level ++ ']' :: rest))) := by
  have begun : Begins (joined layout level (encodeItems layout level items)) :=
    begins_items nonempty
  have written := begun.length_pos
  cases fuel with
  | zero => omega
  | succ fuel =>
      cases items with
      | nil => contradiction
      | cons item items =>
          have read (tail : List Char) (ends : EndsNumber tail)
              (enough : 2 * (encodeAt layout level item).length ≤ fuel + 1) :
              Reads (normalize item) tail (fits levels item)
                (scanValue fuel levels (encodeAt layout level item ++ tail)) :=
            reads_encodeAt blank item level levels fuel tail ends enough
          by_cases last : items = []
          · subst last
            simp only [encodeItems, joined_singleton, itemsFit, Bool.and_true] at enough ⊢
            exact reads_last_item blank (read _ (endsNumber_closing blank (by decide)) enough)
          · have others : Begins (joined layout level (encodeItems layout level items)) :=
              begins_items last
            have more := reads_encodeItems blank items level levels fuel rest last
            have room := (begins_encodeAt layout level item).length_pos
            simp only [encodeItems, joined_cons layout level _ (encodeItems_ne_nil last),
              List.length_append, List.append_assoc] at enough ⊢
            exact reads_more_items blank (others.append _)
              (read _ (endsNumber_separator blank) (by omega)) (more (by omega))

/-- The fields of an object are read up to its brace. -/
theorem reads_encodeFields (blank : layout.IsBlank) (fields : List (String × Value))
    (level levels fuel : Nat) (rest : List Char) (nonempty : fields ≠ [])
    (enough : 2 * (joined layout level (encodeFields layout level fields)).length ≤ fuel) :
    Reads (normalizeFields fields) rest (fieldsFit levels fields)
      (scanFields fuel levels (joined layout level (encodeFields layout level fields) ++
        (layout.closing level ++ '\x7d' :: rest))) := by
  have begun : Begins (joined layout level (encodeFields layout level fields)) :=
    begins_fields nonempty
  have written := begun.length_pos
  cases fuel with
  | zero => omega
  | succ fuel =>
      cases fields with
      | nil => contradiction
      | cons field fields =>
          rcases field with ⟨name, value⟩
          have begins : Begins (encodeAt layout level value) := begins_encodeAt layout level value
          have read (tail : List Char) (ends : EndsNumber tail)
              (enough : 2 * (encodeAt layout level value).length ≤ fuel + 1) :
              Reads (normalize value) tail (fits levels value)
                (scanValue fuel levels (encodeAt layout level value ++ tail)) :=
            reads_encodeAt blank value level levels fuel tail ends enough
          by_cases last : fields = []
          · subst last
            simp only [encodeFields, joined_singleton, List.length_append, List.length_cons,
              fieldsFit, Bool.and_true] at enough ⊢
            exact reads_last_field blank begins
              (read _ (endsNumber_closing blank (by decide)) (by omega))
          · have others : Begins (joined layout level (encodeFields layout level fields)) :=
              begins_fields last
            have more := reads_encodeFields blank fields level levels fuel rest last
            simp only [encodeFields, joined_cons layout level _ (encodeFields_ne_nil last),
              List.length_append, List.length_cons] at enough ⊢
            rw [List.append_assoc _ (_ ++ _) _, List.append_assoc (layout.separator level)]
            exact reads_more_fields blank begins (others.append _)
              (read _ (endsNumber_separator blank) (by omega)) (more (by omega))

end

end DataGateway.Json
