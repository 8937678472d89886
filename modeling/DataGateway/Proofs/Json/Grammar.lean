import DataGateway.Proofs.Except
import DataGateway.Proofs.Json.Number
import DataGateway.Proofs.Json.Text

/-!
# The grammar of documents

What a document says, told without a reader. Beside the grammar proper three words are numbers, a code
unit that is half a pair stands for a character by itself unless the other half follows it, and there is
a limit to the digits of a whole number and to the lists and objects inside each other.

* `SaysText`, `SaysNumber`, `Says` — the text, number or value that characters say;
* `Document` — the value that a whole document says;
* `isPaired` — nothing in a text stands for half a pair of code units, so what it says is all characters;
* `SaysText.scan`, `saysText_of_scan` — texts are read as what they say, up to their closing quote;
* `SaysNumber.scan`, `saysNumber_of_scan` — numbers are read as what they say, up to their end.
-/

namespace DataGateway.Json

open Numeral Text

/-! ## The grammar -/

/-- Is a text nothing but blanks? -/
def Blank (s : List Char) : Prop := ∀ c ∈ s, isSpace c = true

/-- Does a text begin with the second half of a pair of code units? -/
def BeginsLow (s : List Char) : Prop :=
  ∃ a b c d code rest, s = '\\' :: 'u' :: a :: b :: c :: d :: rest ∧ unit? a b c d = some code ∧
    isLow code = true

/-- The text that stands between two quotes. -/
inductive SaysText : List Char → List Char → Prop
  | nil : SaysText [] []
  | plain {c : Char} {s t : List Char} : c ≠ '"' → c ≠ '\\' → 0x20 ≤ c.toNat → SaysText s t →
      SaysText (c :: s) (c :: t)
  | short {letter c : Char} {s t : List Char} : shortEscape? letter = some c → SaysText s t →
      SaysText ('\\' :: letter :: s) (c :: t)
  -- half a pair stands for itself, unless the other half comes right behind it
  | unit {a b c d : Char} {code : Nat} {s t : List Char} : unit? a b c d = some code →
      ¬(isHigh code = true ∧ BeginsLow s) → SaysText s t →
      SaysText ('\\' :: 'u' :: a :: b :: c :: d :: s) (unitChar code :: t)
  | pair {a b c d e f g h : Char} {high low : Nat} {s t : List Char} :
      unit? a b c d = some high → isHigh high = true → unit? e f g h = some low →
      isLow low = true → SaysText s t →
      SaysText ('\\' :: 'u' :: a :: b :: c :: d :: '\\' :: 'u' :: e :: f :: g :: h :: s)
        (pairChar high low :: t)

/-- Are these the digits of a whole number, without needless zeros? -/
def IsWhole (digits : List Char) : Prop := digits = ['0'] ∨ Leads digits

/-- The digits after a point. -/
inductive SaysFraction : List Char → List Char → Prop
  | none : SaysFraction [] []
  | some {digits : List Char} : digits ≠ [] → (∀ c ∈ digits, isDigit c = true) →
      SaysFraction ('.' :: digits) digits

/-- Is a text nothing, or one of the two signs? -/
def IsSign (front : List Char) : Prop := front = [] ∨ front = ['+'] ∨ front = ['-']

/-- An exponent. -/
inductive SaysExponent : List Char → Option Int → Prop
  | none : SaysExponent [] none
  | some {mark : Char} {front digits : List Char} : mark = 'e' ∨ mark = 'E' → IsSign front →
      digits ≠ [] → (∀ c ∈ digits, isDigit c = true) →
      SaysExponent (mark :: (front ++ digits))
        (some (if front = ['-'] then -(digitsValue digits : Int) else digitsValue digits))

/-- The number that stands behind its sign. Whole ones have no more than so many digits. -/
inductive SaysNumber (negative : Bool) : List Char → Value → Prop
  -- a point or an exponent takes the limit away, however many digits there are
  | whole {digits : List Char} : IsWhole digits → digits.length ≤ digitLimit →
      SaysNumber negative digits
        (.int (if negative then -(digitsValue digits : Int) else digitsValue digits))
  | broken {digits s fraction t : List Char} {exponent : Option Int} : IsWhole digits →
      SaysFraction s fraction → SaysExponent t exponent → fraction ≠ [] ∨ exponent ≠ none →
      SaysNumber negative (digits ++ (s ++ t)) (.float
        ((⟨digitsValue (digits ++ fraction), exponent.getD 0 - fraction.length⟩ : Decimal).toBinary64
          negative))

mutual

/-- The value that a text says, with at most `levels` lists and objects inside each other. -/
inductive Says : Nat → List Char → Value → Prop
  | null {levels : Nat} : Says levels "null".toList .null
  | yes {levels : Nat} : Says levels "true".toList (.bool true)
  | no {levels : Nat} : Says levels "false".toList (.bool false)
  | nan {levels : Nat} : Says levels "NaN".toList (.float .nan)
  | highest {levels : Nat} : Says levels "Infinity".toList (.float (.infinity false))
  | lowest {levels : Nat} : Says levels "-Infinity".toList (.float (.infinity true))
  | unsigned {levels : Nat} {s : List Char} {v : Value} : SaysNumber false s v → Says levels s v
  | signed {levels : Nat} {s : List Char} {v : Value} : SaysNumber true s v →
      Says levels ('-' :: s) v
  | text {levels : Nat} {s t : List Char} : SaysText s t →
      Says levels ('"' :: (s ++ ['"'])) (.text (String.ofList t))
  | noItems {levels : Nat} {blanks : List Char} : Blank blanks →
      Says (levels + 1) ('[' :: (blanks ++ [']'])) (.list [])
  | items {levels : Nat} {blanks s : List Char} {items : List Value} : Blank blanks →
      SaysItems levels s items → Says (levels + 1) ('[' :: (blanks ++ s)) (.list items)
  | noFields {levels : Nat} {blanks : List Char} : Blank blanks →
      Says (levels + 1) ('\x7b' :: (blanks ++ ['\x7d'])) (.object [])
  -- of two fields with one name the later counts, at the place of the earlier
  | fields {levels : Nat} {blanks s : List Char} {fields : Record} : Blank blanks →
      SaysFields levels s fields →
      Says (levels + 1) ('\x7b' :: (blanks ++ s)) (.object (Fields.ofPairs fields))

/-- The items up to the bracket that closes their list. -/
inductive SaysItems : Nat → List Char → List Value → Prop
  | last {levels : Nat} {s blanks : List Char} {v : Value} : Says levels s v → Blank blanks →
      SaysItems levels (s ++ (blanks ++ [']'])) [v]
  | more {levels : Nat} {s before after t : List Char} {v : Value} {items : List Value} :
      Says levels s v → Blank before → Blank after → SaysItems levels t items →
      SaysItems levels (s ++ (before ++ ',' :: (after ++ t))) (v :: items)

/-- The fields up to the brace that closes their object. -/
inductive SaysFields : Nat → List Char → Record → Prop
  | last {levels : Nat} {label name before after s blanks : List Char} {v : Value} :
      SaysText label name → Blank before → Blank after → Says levels s v → Blank blanks →
      SaysFields levels
        ('"' :: (label ++ '"' :: (before ++ ':' :: (after ++ (s ++ (blanks ++ ['\x7d']))))))
        [(String.ofList name, v)]
  | more {levels : Nat} {label name before after s blanks next t : List Char} {v : Value}
      {fields : Record} :
      SaysText label name → Blank before → Blank after → Says levels s v → Blank blanks →
      Blank next → SaysFields levels t fields →
      SaysFields levels
        ('"' :: (label ++ '"' :: (before ++ ':' :: (after ++ (s ++ (blanks ++ ',' :: (next ++ t)))))))
        ((String.ofList name, v) :: fields)

end

/-- The value that a whole document says, with blanks around it. -/
def Document (document : List Char) (v : Value) : Prop :=
  ∃ before s after, document = before ++ (s ++ after) ∧ Blank before ∧ Blank after ∧
    Says levelLimit s v

/-- Does each half of a pair of code units, as escapes write them, stand beside its other half? -/
def isPaired : List Char → Bool
  | '\\' :: 'u' :: a :: b :: c :: d :: rest =>
    match unit? a b c d with
    | none => isPaired rest
    | some code =>
      if isLow code then false
      else if isHigh code then
        match rest with
        | '\\' :: 'u' :: e :: f :: g :: h :: rest => (unit? e f g h).any isLow && isPaired rest
        | _ => false
      else isPaired rest
  -- what is behind a backslash begins no escape of its own
  | '\\' :: _ :: rest => isPaired rest
  | _ :: rest => isPaired rest
  | [] => true

/-! ## Blanks -/

theorem blank_skip (s : List Char) : ∃ blanks, s = blanks ++ skip s ∧ Blank blanks :=
  ⟨s.takeWhile isSpace, List.takeWhile_append_dropWhile.symm,
    fun _ member => List.mem_takeWhile_imp member⟩

/-! ## Texts -/

variable {opening rest s t : List Char}

/-- What stands between two quotes and begins like a code unit has that unit first. -/
theorem SaysText.unit_first {a b c d : Char} {more : List Char} (said : SaysText s t)
    (begins : s ++ '"' :: rest = '\\' :: 'u' :: a :: b :: c :: d :: more) :
    ∃ code others, unit? a b c d = some code ∧ s = '\\' :: 'u' :: a :: b :: c :: d :: others := by
  cases said with
  | nil => cases begins
  | plain _ escape _ _ =>
      rw [List.cons_append] at begins
      exact absurd (List.cons.inj begins).1 escape
  | short known _ =>
      rw [List.cons_append, List.cons_append] at begins
      -- the letter of a code unit is none of those that stand for a character
      obtain rfl := (List.cons.inj (List.cons.inj begins).2).1
      cases known
  | unit known _ _ =>
      simp only [List.cons_append, List.cons.injEq, true_and] at begins
      rcases begins with ⟨rfl, rfl, rfl, rfl, _⟩
      exact ⟨_, _, known, rfl⟩
  | pair known _ _ _ _ =>
      simp only [List.cons_append, List.cons.injEq, true_and] at begins
      rcases begins with ⟨rfl, rfl, rfl, rfl, _⟩
      exact ⟨_, _, known, rfl⟩

/-- A code unit is read by itself, unless it is the first half of a pair and the second follows. -/
theorem scanText_single {a b c d next : Char} {code : Nat} (known : unit? a b c d = some code)
    (alone : isHigh code = true → ∀ e f g h last more,
      next :: rest = '\\' :: 'u' :: e :: f :: g :: h :: last :: more →
        ∃ low, unit? e f g h = some low ∧ isLow low = false) :
    scanText opening ('\\' :: 'u' :: a :: b :: c :: d :: next :: rest) =
      prepend (unitChar code) (scanText opening (next :: rest)) := by
  rw [scanText.eq_def]
  cases high : isHigh code with
  | false =>
      simp only [known, high]
      rfl
  | true =>
      simp only [known, high, if_true]
      split
      · rename_i e f g h last more
        rcases alone high _ _ _ _ _ _ rfl with ⟨low, read, other⟩
        simp only [read, other]
        rfl
      · rfl

/-- Two halves are read as one character. -/
theorem scanText_halves {a b c d e f g h next : Char} {high low : Nat}
    (first : unit? a b c d = some high) (isFirst : isHigh high = true)
    (second : unit? e f g h = some low) (isSecond : isLow low = true) :
    scanText opening ('\\' :: 'u' :: a :: b :: c :: d :: '\\' :: 'u' :: e :: f :: g :: h :: next ::
      rest) = prepend (pairChar high low) (scanText opening (next :: rest)) := by
  rw [scanText.eq_def]
  simp only [first, isFirst, second, isSecond, if_true]
  rfl

/-- A text is read up to its closing quote. -/
theorem SaysText.scan (said : SaysText s t) : scanText opening (s ++ '"' :: rest) = .ok (t, rest) := by
  -- what follows a code unit is never empty, for the closing quote is there
  have follows (s : List Char) : ∃ next more, s ++ '"' :: rest = next :: more :=
    List.exists_cons_of_ne_nil (List.append_ne_nil_of_right_ne_nil s (List.cons_ne_nil '"' rest))
  induction said with
  | nil => rfl
  | plain quote escape shown _ ih =>
      rw [List.cons_append, scanText_plain quote escape shown, ih]
      rfl
  | @short letter c s t known _ ih =>
      have apart : letter ≠ 'u' := by
        rintro rfl
        cases known
      rw [List.cons_append, List.cons_append, scanText_short known apart, ih]
      rfl
  | @unit a b c d code s t known alone said ih =>
      rcases follows s with ⟨next, more, same⟩
      simp only [List.cons_append]
      rw [same, scanText_single known, ← same, ih]
      · rfl
      · -- what looks like another unit behind a first half is one, and is no second half
        intro high e f g h last others begins
        rw [← same] at begins
        rcases said.unit_first begins with ⟨low, rest, read, rfl⟩
        refine ⟨low, read, Bool.eq_false_iff.2 fun isSecond => alone ⟨high, ?_⟩⟩
        exact ⟨e, f, g, h, low, rest, rfl, read, isSecond⟩
  | @pair a b c d e f g h high low s t first isFirst second isSecond _ ih =>
      rcases follows s with ⟨next, more, same⟩
      simp only [List.cons_append]
      rw [same, scanText_halves first isFirst second isSecond, ← same, ih]
      rfl

theorem exists_of_prepend {c : Char} {read : Except Problem (List Char × List Char)}
    (same : prepend c read = .ok (t, rest)) : ∃ tail, read = .ok (tail, rest) ∧ t = c :: tail := by
  rcases bind_eq_ok_iff.1 same with ⟨⟨tail, _⟩, said, together⟩
  cases together
  exact ⟨tail, said, rfl⟩

/-- Behind the second half of a pair there is always a character, the closing quote at least. -/
theorem BeginsLow.exists_last {inner : List Char} (low : BeginsLow inner)
    (same : s = inner ++ '"' :: rest) : ∃ e f g h last more code,
      s = '\\' :: 'u' :: e :: f :: g :: h :: last :: more ∧ unit? e f g h = some code ∧
        isLow code = true := by
  rcases low with ⟨e, f, g, h, code, others, rfl, known, isSecond⟩
  rcases List.exists_cons_of_ne_nil
    (List.append_ne_nil_of_right_ne_nil others (List.cons_ne_nil '"' rest)) with ⟨last, more, whole⟩
  refine ⟨e, f, g, h, last, more, code, ?_, known, isSecond⟩
  rw [same, ← whole]
  rfl

/-- What has been read is a text and its closing quote. -/
theorem saysText_of_scan (read : scanText opening s = .ok (t, rest)) :
    ∃ inner, s = inner ++ '"' :: rest ∧ SaysText inner t := by
  fun_induction scanText opening s generalizing t rest with
  | case2 =>
      cases read
      exact ⟨[], rfl, .nil⟩
  | case6 a b c d high first isFirst e f g h last more low second isSecond _ ih =>
      rcases exists_of_prepend read with ⟨tail, later, rfl⟩
      rcases ih later with ⟨inner, same, said⟩
      rw [same]
      exact ⟨_, rfl, .pair first isFirst second isSecond said⟩
  | case7 a b c d high first isFirst e f g h last more low second other _ =>
      -- a first half with another unit behind it that is no second half
      rename_i ih
      rcases exists_of_prepend read with ⟨tail, later, rfl⟩
      rcases ih later with ⟨inner, same, said⟩
      rw [same]
      refine ⟨_, rfl, .unit first ?_ said⟩
      rintro ⟨_, pair⟩
      rcases pair.exists_last same with ⟨_, _, _, _, _, _, code, begins, known, isSecond⟩
      cases begins
      cases second.symm.trans known
      exact other isSecond
  | case8 a b c d next more high first _ isFirst unpaired =>
      -- a first half with anything else behind it
      rename_i ih
      rcases exists_of_prepend read with ⟨tail, later, rfl⟩
      rcases ih later with ⟨inner, same, said⟩
      rw [same]
      refine ⟨_, rfl, .unit first ?_ said⟩
      rintro ⟨_, pair⟩
      rcases pair.exists_last same with ⟨_, _, _, _, _, _, code, begins, -, -⟩
      cases begins
      exact unpaired _ _ _ _ _ _ rfl rfl
  | case9 a b c d next more code known _ whole =>
      rename_i ih
      rcases exists_of_prepend read with ⟨tail, later, rfl⟩
      rcases ih later with ⟨inner, same, said⟩
      rw [same]
      exact ⟨_, rfl, .unit known (fun half => whole half.1) said⟩
  | case12 letter more _ _ c known ih =>
      rcases exists_of_prepend read with ⟨tail, later, rfl⟩
      rcases ih later with ⟨inner, rfl, said⟩
      exact ⟨_, rfl, .short known said⟩
  | case14 c more quote last _ _ escape shown ih =>
      rcases exists_of_prepend read with ⟨tail, later, rfl⟩
      rcases ih later with ⟨inner, same, said⟩
      have other : c ≠ '\\' := by
        intro begins
        cases more with
        | nil => exact last begins rfl
        | cons letter more => exact escape letter more begins rfl
      rw [same]
      exact ⟨_, rfl, .plain quote other (Nat.not_lt.1 shown) said⟩
  | _ => cases read

/-! ## Numbers -/

theorem IsWhole.plain {digits : List Char} (whole : IsWhole digits) :
    ∀ c ∈ digits, isDigit c = true := by
  rcases whole with rfl | leads
  · exact List.forall_mem_singleton.2 rfl
  · exact leads.plain

theorem scanWhole_isWhole {digits : List Char} (whole : IsWhole digits)
    (ends : ∀ c ∈ rest.head?, isDigit c = false) : scanWhole (digits ++ rest) = some (digits, rest) := by
  rcases whole with rfl | leads
  · rfl
  · exact scanWhole_leads leads ends

theorem SaysFraction.scan {fraction : List Char} (said : SaysFraction s fraction)
    (ends : ∀ c ∈ rest.head?, isDigit c = false ∧ c ≠ '.') :
    scanFraction (s ++ rest) = (fraction, rest) := by
  cases said with
  | none => exact scanFraction_none fun c first => (ends c first).2
  | some nonempty plain => exact scanFraction_digits plain nonempty fun c first => (ends c first).1

/-- A sign is taken off the digits behind it. -/
theorem sign_append {front digits : List Char} (isSign : IsSign front) (some : digits ≠ [])
    (plain : ∀ c ∈ digits, isDigit c = true) :
    sign (front ++ digits ++ rest) = (decide (front = ['-']), digits ++ rest) := by
  rcases isSign with rfl | rfl | rfl
  · rcases List.exists_cons_of_ne_nil some with ⟨c, tail, rfl⟩
    have digit := plain c (List.mem_cons_self ..)
    simp only [List.nil_append, List.cons_append]
    rw [sign.eq_def]
    split
    · rename_i begins
      cases begins
      cases digit
    · rename_i begins
      cases begins
      cases digit
    · rfl
  · rfl
  · rfl

theorem SaysExponent.scan {exponent : Option Int} (said : SaysExponent s exponent)
    (ends : EndsNumber rest) : scanExponent (s ++ rest) = (exponent, rest) := by
  cases said with
  | none => exact scanExponent_none fun c first => (ends c first).2.2
  | @some mark front digits isMark isSign nonempty plain =>
      have stops := not_digit_of_endsNumber ends
      have marked : (mark == 'e' || mark == 'E') = true := by simpa using isMark
      simp only [List.cons_append, scanExponent, marked, if_true, sign_append isSign nonempty plain,
        takeWhile_digits plain stops, dropWhile_digits plain stops]
      simp [nonempty]

/-- What follows the digits before a point. -/
theorem SaysExponent.ends {exponent : Option Int} (said : SaysExponent s exponent)
    (ends : EndsNumber rest) : ∀ c ∈ (s ++ rest).head?, isDigit c = false ∧ c ≠ '.' := by
  intro c first
  cases said with
  | none => exact ⟨(ends c first).1, (ends c first).2.1⟩
  | some isMark _ _ _ =>
      cases first
      rcases isMark with rfl | rfl <;> decide

theorem SaysFraction.ends {fraction : List Char} (said : SaysFraction s fraction)
    (ends : ∀ c ∈ rest.head?, isDigit c = false ∧ c ≠ '.') :
    ∀ c ∈ (s ++ rest).head?, isDigit c = false := by
  intro c first
  cases said with
  | none => exact (ends c first).1
  | some _ _ =>
      cases first
      decide

/-- A number is read up to its end. -/
theorem SaysNumber.scan {start : List Char} {negative : Bool} {v : Value}
    (said : SaysNumber negative s v) (ends : EndsNumber rest) :
    scanNumber start negative (s ++ rest) = .ok (v, rest) := by
  cases said with
  | whole isWhole short =>
      have whole := scanWhole_isWhole isWhole (not_digit_of_endsNumber ends)
      have point : scanFraction rest = ([], rest) :=
        scanFraction_none fun c first => (ends c first).2.1
      have power : scanExponent rest = (none, rest) :=
        scanExponent_none fun c first => (ends c first).2.2
      simp only [scanNumber, whole, point, power]
      exact if_neg (Nat.not_lt.2 short)
  | @broken digits s fraction t exponent isWhole behind raised some =>
      have whole := scanWhole_isWhole isWhole (behind.ends (raised.ends ends))
      have point := behind.scan (raised.ends ends)
      have power := raised.scan ends
      rw [List.append_assoc, List.append_assoc]
      exact scanNumber_parts start negative whole point power some

theorem isWhole_of_scan {digits : List Char} (read : scanWhole s = some (digits, rest)) :
    s = digits ++ rest ∧ IsWhole digits := by
  unfold scanWhole at read
  split at read
  · cases read
    exact ⟨rfl, .inl rfl⟩
  · rename_i c more nonzero
    split at read
    · rename_i digit
      cases read
      refine ⟨?_, .inr ⟨?_, List.cons_ne_nil _ _, ?_⟩⟩
      · rw [List.cons_append, List.takeWhile_append_dropWhile]
      · exact List.forall_mem_cons.2 ⟨digit, fun _ member => List.mem_takeWhile_imp member⟩
      · simpa using nonzero
    · cases read
  · cases read

theorem saysFraction_of_scan {fraction : List Char} (read : scanFraction s = (fraction, rest)) :
    ∃ used, s = used ++ rest ∧ SaysFraction used fraction := by
  unfold scanFraction at read
  split at read
  · rename_i more
    dsimp only at read
    split at read
    · cases read
      exact ⟨[], rfl, .none⟩
    · rename_i some
      cases read
      refine ⟨_, ?_, .some (by simpa using some) fun _ member => List.mem_takeWhile_imp member⟩
      rw [List.cons_append, List.takeWhile_append_dropWhile]
  · cases read
    exact ⟨[], rfl, .none⟩

theorem isSign_of_sign {digits : List Char} {negative : Bool} (read : sign s = (negative, digits)) :
    ∃ front, s = front ++ digits ∧ IsSign front ∧ negative = decide (front = ['-']) := by
  unfold sign at read
  split at read
  · cases read
    exact ⟨['-'], rfl, .inr (.inr rfl), rfl⟩
  · cases read
    exact ⟨['+'], rfl, .inr (.inl rfl), rfl⟩
  · cases read
    exact ⟨[], rfl, .inl rfl, rfl⟩

theorem saysExponent_of_scan {exponent : Option Int} (read : scanExponent s = (exponent, rest)) :
    ∃ used, s = used ++ rest ∧ SaysExponent used exponent := by
  unfold scanExponent at read
  split at read
  · rename_i mark more
    split at read
    · rename_i marked
      cases signed : sign more with
      | mk negative digits =>
          rcases isSign_of_sign signed with ⟨front, rfl, isSign, rfl⟩
          simp only [signed] at read
          split at read
          · cases read
            exact ⟨[], rfl, .none⟩
          · rename_i some
            cases read
            have used := SaysExponent.some (by simpa using marked) isSign (by simpa using some)
              fun _ member => List.mem_takeWhile_imp member
            refine ⟨_, ?_, by simpa using used⟩
            rw [List.cons_append, List.append_assoc, List.takeWhile_append_dropWhile]
    · cases read
      exact ⟨[], rfl, .none⟩
  · cases read
    exact ⟨[], rfl, .none⟩

/-- What has been read of a number is one. -/
theorem saysNumber_of_scan {start : List Char} {negative : Bool} {v : Value}
    (read : scanNumber start negative s = .ok (v, rest)) :
    ∃ used, s = used ++ rest ∧ SaysNumber negative used v := by
  unfold scanNumber at read
  split at read
  · cases read
  · rename_i digits behind whole
    rcases isWhole_of_scan whole with ⟨rfl, isWhole⟩
    cases point : scanFraction behind with
    | mk fraction raised =>
        cases power : scanExponent raised with
        | mk exponent last =>
            rcases saysFraction_of_scan point with ⟨s, rfl, fractional⟩
            rcases saysExponent_of_scan power with ⟨t, rfl, exponential⟩
            simp only [point, power] at read
            split at read
            · rename_i neither
              rw [Bool.and_eq_true, List.isEmpty_iff, Option.isNone_iff_eq_none] at neither
              rcases neither with ⟨rfl, rfl⟩
              split at read
              · cases read
              · rename_i short
                cases read
                cases exponential
                cases fractional with
                | none => exact ⟨digits, rfl, .whole isWhole (Nat.not_lt.1 short)⟩
                | some nonempty _ => exact absurd rfl nonempty
            · rename_i either
              rw [Bool.and_eq_true, List.isEmpty_iff, Option.isNone_iff_eq_none, not_and_or] at either
              cases read
              refine ⟨_, ?_, .broken isWhole fractional exponential either⟩
              rw [List.append_assoc, List.append_assoc]

end DataGateway.Json
