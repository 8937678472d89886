import DataGateway.Calendar.Stamp
import DataGateway.Proofs.Calendar.Date
import DataGateway.Proofs.Number.Numeral
import DataGateway.Proofs.Text.Utf8
import Mathlib.Data.List.GetD

/-!
# Time stamps and their texts

The text of a stamp is read back as that stamp.

* `digits?_padded` — a number with leading zeros is read back;
* `clock?_clockText`, `zone?_offsetText`, `date?_dateText` — so are the parts of a stamp;
* `parse?_text` — so is a stamp that exists;
* `isValid_of_parse?` — only stamps that exist are read.
-/

namespace DataGateway.Calendar.Stamp

open Numeral

/-! ## Digits -/

theorem padded_natCast (width n : Nat) :
    padded width (n : Int) = List.replicate (width - (Nat.toDigits 10 n).length) '0' ++
      Nat.toDigits 10 n := rfl

theorem isDigit_of_mem_padded {width n : Nat} {c : Char} (hc : c ∈ padded width (n : Int)) :
    isDigit c = true := by
  rw [padded_natCast] at hc
  rcases List.mem_append.1 hc with hc | hc
  · rw [List.eq_of_mem_replicate hc]
    decide
  · exact isDigit_of_mem_toDigits hc

theorem length_padded {width n : Nat} (positive : 0 < width) (h : n < 10 ^ width) :
    (padded width (n : Int)).length = width := by
  have short : (Nat.toDigits 10 n).length ≤ width :=
    (Nat.length_toDigits_le_iff (by decide) positive).2 h
  rw [padded_natCast]
  simp
  omega

theorem digitsValue_padded (width n : Nat) : digitsValue (padded width (n : Int)) = n := by
  have zeros (count : Nat) (digits : List Char) :
      digitsValue (List.replicate count '0' ++ digits) = digitsValue digits := by
    induction count with
    | zero => rfl
    | succ count ih =>
        rw [List.replicate_succ, List.cons_append, ← ih]
        rfl
  rw [padded_natCast, zeros, digitsValue_toDigits]

/-- A number with leading zeros is read back. -/
theorem digits?_padded {width n : Nat} (positive : 0 < width) (h : n < 10 ^ width)
    (rest : List Char) : digits? width (padded width (n : Int) ++ rest) = some (n, rest) := by
  have length := length_padded positive h
  have taken : (padded width (n : Int) ++ rest).take width = padded width (n : Int) := by
    rw [List.take_append_of_le_length (by omega), List.take_of_length_le (by omega)]
  have dropped : (padded width (n : Int) ++ rest).drop width = rest := by
    rw [List.drop_append_of_le_length (by omega), List.drop_of_length_le (by omega), List.nil_append]
  have digits : (padded width (n : Int)).all isDigit = true :=
    List.all_eq_true.2 fun c hc => isDigit_of_mem_padded hc
  simp [digits?, taken, dropped, length, digits, digitsValue_padded]

theorem digits?_padded_nil {width n : Nat} (positive : 0 < width) (h : n < 10 ^ width) :
    digits? width (padded width (n : Int)) = some (n, []) := by
  have whole := digits?_padded positive h []
  rwa [List.append_nil] at whole

/-! ## Times of day -/

/-- Hours and minutes. -/
def minuteText (hour minute : Nat) : List Char :=
  padded 2 (hour : Int) ++ ':' :: padded 2 (minute : Int)

/-- Hours, minutes, seconds, and microseconds if there are any. -/
def clockText (hour minute second micros : Nat) : List Char :=
  minuteText hour minute ++ ':' :: padded 2 (second : Int) ++ fractionText (micros : Int)

theorem fraction?_padded (clock : Clock) {micros : Nat} (h : micros < 1000000) (next : Char) :
    fraction? clock (padded 6 (micros : Int)) next =
      some { clock with micros, rest := next != ending } := by
  have length : (padded 6 (micros : Int)).length = 6 := length_padded (by decide) h
  have read := digits?_padded_nil (by decide : 0 < 6) (h : micros < 10 ^ 6)
  simp [fraction?, length, read, power]

/-- The clock with the part at an index. -/
def Clock.put (clock : Clock) (index n : Nat) : Clock :=
  if index == 0 then { clock with hour := n }
  else if index == 1 then { clock with minute := n }
  else { clock with second := n }

theorem padded_ne_nil {width n : Nat} (positive : 0 < width) (h : n < 10 ^ width) :
    padded width (n : Int) ≠ [] := by
  intro empty
  have length := length_padded positive h
  rw [empty] at length
  cases length
  exact absurd positive (by decide)

/-- The first character of a number with leading zeros is a digit. -/
theorem exists_digit_padded {width n : Nat} (positive : 0 < width) (h : n < 10 ^ width) :
    ∃ c rest, padded width (n : Int) = c :: rest ∧ isDigit c = true := by
  cases digits : padded width (n : Int) with
  | nil => exact absurd digits (padded_ne_nil positive h)
  | cons c rest =>
      have first : c ∈ padded width (n : Int) := digits ▸ List.mem_cons_self ..
      exact ⟨c, rest, rfl, isDigit_of_mem_padded first⟩

theorem parts?_last {left n : Nat} (h : n < 100) (next : Char) (clock : Clock) :
    parts? next true clock (left + 1) (padded 2 (n : Int)) =
      some { clock.put (2 - left) n with rest := next != ending } := by
  have read := digits?_padded_nil (by decide : 0 < 2) (h : n < 10 ^ 2)
  simp [parts?, read, Clock.put]

theorem parts?_colon {left n : Nat} (h : n < 100) (next : Char) (clock : Clock) {after : List Char}
    (some : after ≠ []) :
    parts? next true clock (left + 1) (padded 2 (n : Int) ++ ':' :: after) =
      parts? next true (clock.put (2 - left) n) left after := by
  have read := digits?_padded (by decide : 0 < 2) (h : n < 10 ^ 2) (':' :: after)
  cases after with
  | nil => exact absurd rfl some
  | cons c after => simp [parts?, read, Clock.put]

theorem parts?_point {n micros : Nat} (h : n < 100) (fraction : micros < 1000000) (next : Char)
    (clock : Clock) :
    parts? next true clock 1 (padded 2 (n : Int) ++ '.' :: padded 6 (micros : Int)) =
      some { clock with second := n, micros, rest := next != ending } := by
  have read := digits?_padded (by decide : 0 < 2) (h : n < 10 ^ 2) ('.' :: padded 6 (micros : Int))
  have some := padded_ne_nil (by decide : 0 < 6) (fraction : micros < 10 ^ 6)
  have rest := fraction?_padded { clock with second := n } fraction next
  cases digits : padded 6 (micros : Int) with
  | nil => exact absurd digits some
  | cons c after =>
      rw [digits] at read rest
      simp [parts?, read, rest]

theorem clock?_minuteText {hour minute : Nat} (hours : hour < 100) (minutes : minute < 100)
    (next : Char) : clock? (minuteText hour minute) next =
      some { hour, minute, rest := next != ending } := by
  have some := padded_ne_nil (by decide : 0 < 2) (minutes : minute < 10 ^ 2)
  rw [clock?, minuteText, parts?_colon hours next {} some, parts?_last minutes]
  rfl

theorem clock?_clockText {hour minute second micros : Nat} (hours : hour < 100)
    (minutes : minute < 100) (seconds : second < 100) (fraction : micros < 1000000) (next : Char) :
    clock? (clockText hour minute second micros) next =
      some { hour, minute, second, micros, rest := next != ending } := by
  have text : clockText hour minute second micros =
      padded 2 (hour : Int) ++ ':' :: (padded 2 (minute : Int) ++
        ':' :: (padded 2 (second : Int) ++ fractionText (micros : Int))) := by
    simp [clockText, minuteText]
  have some := padded_ne_nil (by decide : 0 < 2) (seconds : second < 10 ^ 2)
  rw [clock?, text, parts?_colon hours next {} (by simp),
    parts?_colon minutes next _ (by simp [some])]
  by_cases whole : micros = 0
  · subst whole
    have nothing : fractionText ((0 : Nat) : Int) = [] := rfl
    rw [nothing, List.append_nil, parts?_last seconds]
    rfl
  · have point : fractionText (micros : Int) = '.' :: padded 6 (micros : Int) := by
      simp [fractionText, whole]
    rw [point, parts?_point seconds fraction]
    rfl

/-- Can the character be in a time of day? -/
def IsClockChar (c : Char) : Prop := isDigit c = true ∨ c = ':' ∨ c = '.'

theorem isClockChar_of_mem_minuteText {hour minute : Nat} {c : Char}
    (hc : c ∈ minuteText hour minute) : IsClockChar c := by
  simp only [minuteText, List.mem_append, List.mem_cons] at hc
  rcases hc with h | rfl | h
  · exact .inl (isDigit_of_mem_padded h)
  · exact .inr (.inl rfl)
  · exact .inl (isDigit_of_mem_padded h)

theorem isClockChar_of_mem_clockText {hour minute second micros : Nat} {c : Char}
    (hc : c ∈ clockText hour minute second micros) : IsClockChar c := by
  simp only [clockText, List.mem_append, List.mem_cons] at hc
  rcases hc with (h | rfl | h) | h
  · exact isClockChar_of_mem_minuteText h
  · exact .inr (.inl rfl)
  · exact .inl (isDigit_of_mem_padded h)
  · unfold fractionText at h
    split at h
    · cases h
    · rcases List.mem_cons.1 h with rfl | h
      · exact .inr (.inr rfl)
      · exact .inl (isDigit_of_mem_padded h)

theorem isZoneStart_of_isClockChar {c : Char} (h : IsClockChar c) : isZoneStart c = false := by
  rcases h with h | rfl | rfl
  · have bounds := toNat_of_isDigit h
    simp only [isZoneStart, Bool.or_eq_false_iff, beq_eq_false_iff_ne]
    refine ⟨⟨?_, ?_⟩, ?_⟩ <;> rintro rfl <;> simp at bounds
  · rfl
  · rfl

theorem plain_of_isDigit {c : Char} (h : isDigit c = true) : c.toNat < 128 := by
  have bounds := toNat_of_isDigit h
  omega

theorem plain_of_isClockChar {c : Char} (h : IsClockChar c) : c.toNat < 128 := by
  rcases h with h | rfl | rfl
  · exact plain_of_isDigit h
  · decide
  · decide

/-! ## Distances from UTC -/

/-- Is it a distance that a text can say? Less than a second is none. -/
def IsOffset (offset : Int) : Prop :=
  (offset.natAbs : Int) < day ∧ ((offset.natAbs : Int) < Calendar.second → offset = 0)

theorem offsetText_eq (offset : Int) :
    let size := offset.natAbs
    let seconds := size / 1000000
    offsetText offset = (if offset < 0 then '-' else '+') ::
      if seconds % 60 = 0 ∧ size % 1000000 = 0 then minuteText (seconds / 3600) (seconds / 60 % 60)
      else clockText (seconds / 3600) (seconds / 60 % 60) (seconds % 60) (size % 1000000) := by
  generalize same : offset.natAbs = size
  have seconds : (size : Int) / Calendar.second = (size / 1000000 : Nat) := rfl
  have micros : (size : Int) % Calendar.second = (size % 1000000 : Nat) := rfl
  simp only [offsetText, same, seconds, micros]
  have hours : ((size / 1000000 : Nat) : Int) / 3600 = (size / 1000000 / 3600 : Nat) := rfl
  have minutes : ((size / 1000000 : Nat) : Int) / 60 % 60 = (size / 1000000 / 60 % 60 : Nat) := rfl
  have rest : ((size / 1000000 : Nat) : Int) % 60 = (size / 1000000 % 60 : Nat) := rfl
  rw [hours, minutes, rest]
  -- the text depends on the four parts alone, whatever they come from
  generalize size / 1000000 / 3600 = hour
  generalize size / 1000000 / 60 % 60 = minute
  generalize size / 1000000 % 60 = second
  generalize size % 1000000 = micros
  by_cases whole : second = 0 ∧ micros = 0
  · simp [whole, minuteText]
  · have part : (((second : Int) == 0 && (micros : Int) == 0) = true) ↔ second = 0 ∧ micros = 0 := by
      simp
    simp [whole, minuteText, clockText, part]

theorem total_parts {size : Nat} (clock : Clock) (hours : clock.hour = size / 1000000 / 3600)
    (minutes : clock.minute = size / 1000000 / 60 % 60)
    (seconds : clock.second = size / 1000000 % 60) (micros : clock.micros = size % 1000000) :
    clock.total = size := by
  simp only [Clock.total, hours, minutes, seconds, micros, Calendar.second]
  omega

/-- A distance from UTC is read back. -/
theorem zone?_offsetText {offset : Int} (valid : IsOffset offset) :
    ∃ sign text, offsetText offset = sign :: text ∧ isZoneStart sign = true ∧
      zone? sign text = some offset := by
  rcases valid with ⟨short, tiny⟩
  simp only [day, Calendar.second] at short tiny
  have hours : offset.natAbs / 1000000 / 3600 < 100 := by omega
  have minutes : offset.natAbs / 1000000 / 60 % 60 < 100 := by omega
  have seconds : offset.natAbs / 1000000 % 60 < 100 := by omega
  have fraction : offset.natAbs % 1000000 < 1000000 := by omega
  refine ⟨_, _, offsetText_eq offset, by split <;> rfl, ?_⟩
  -- with and without seconds in its text the clock adds up to the distance
  have read : ∃ clock : Clock, clock? (if offset.natAbs / 1000000 % 60 = 0 ∧
        offset.natAbs % 1000000 = 0 then
          minuteText (offset.natAbs / 1000000 / 3600) (offset.natAbs / 1000000 / 60 % 60)
        else clockText (offset.natAbs / 1000000 / 3600) (offset.natAbs / 1000000 / 60 % 60)
          (offset.natAbs / 1000000 % 60) (offset.natAbs % 1000000)) ending = some clock ∧
      clock.total = offset.natAbs ∧ clock.micros = offset.natAbs % 1000000 ∧
      clock.rest = false := by
    split
    · rename_i whole
      refine ⟨_, clock?_minuteText hours minutes ending, ?_, whole.2.symm, rfl⟩
      exact total_parts _ rfl rfl whole.1.symm whole.2.symm
    · refine ⟨_, clock?_clockText hours minutes seconds fraction ending, ?_, rfl, rfl⟩
      exact total_parts _ rfl rfl rfl rfl
  rcases read with ⟨clock, found, total, micros, complete⟩
  have notZulu : ((if offset < 0 then '-' else '+') == 'Z') = false := by split <;> rfl
  have sign : ((if offset < 0 then '-' else '+') == '-') = decide (offset < 0) := by
    split <;> simp [*]
  -- below a second reading rounds to no distance, and no distance is the only valid one there
  have size : (if ((offset.natAbs : Int) - (offset.natAbs % 1000000 : Nat) == 0) = true then 0
      else (offset.natAbs : Int)) = offset.natAbs := by
    split
    · rename_i none
      have small : (offset.natAbs : Int) < 1000000 := by
        simp only [beq_iff_eq] at none
        omega
      rw [tiny small]
      rfl
    · rfl
  have bounded : ¬day ≤ (offset.natAbs : Int) := by
    simp only [day, Calendar.second]
    omega
  simp only [zone?, notZulu, found, complete, total, micros, sign, size, bounded,
    Bool.false_eq_true, if_false, Bool.false_or, decide_false]
  by_cases negative : offset < 0
  · simp only [negative, decide_true, if_true]
    exact congrArg some (by omega)
  · simp only [negative, decide_false, Bool.false_eq_true, if_false]
    exact congrArg some (by omega)

theorem plain_of_mem_offsetText {offset : Int} {c : Char} (hc : c ∈ offsetText offset) :
    c.toNat < 128 := by
  rw [offsetText_eq] at hc
  rcases List.mem_cons.1 hc with rfl | hc
  · split <;> decide
  · split at hc
    · exact plain_of_isClockChar (isClockChar_of_mem_minuteText hc)
    · exact plain_of_isClockChar (isClockChar_of_mem_clockText hc)

/-! ## Dates -/

/-- A date as its text says it. -/
def dateText (year month dayOfMonth : Nat) : List Char :=
  padded 4 (year : Int) ++ '-' :: padded 2 (month : Int) ++ '-' :: padded 2 (dayOfMonth : Int)

theorem length_dateText {year month dayOfMonth : Nat} (years : year < 10000) (months : month < 100)
    (days : dayOfMonth < 100) : (dateText year month dayOfMonth).length = 10 := by
  have y := length_padded (by decide : 0 < 4) (years : year < 10 ^ 4)
  have m := length_padded (by decide : 0 < 2) (months : month < 10 ^ 2)
  have d := length_padded (by decide : 0 < 2) (days : dayOfMonth < 10 ^ 2)
  simp [dateText, y, m, d]

theorem plain_of_mem_dateText {year month dayOfMonth : Nat} {c : Char}
    (hc : c ∈ dateText year month dayOfMonth) : c.toNat < 128 := by
  simp only [dateText, List.mem_append, List.mem_cons] at hc
  rcases hc with (h | rfl | h) | rfl | h
  · exact plain_of_isDigit (isDigit_of_mem_padded h)
  · decide
  · exact plain_of_isDigit (isDigit_of_mem_padded h)
  · decide
  · exact plain_of_isDigit (isDigit_of_mem_padded h)

/-- The date ends where the text of a date ends. -/
theorem separatorIndex_dateText {year month dayOfMonth : Nat} (years : year < 10000)
    (months : month < 100) (days : dayOfMonth < 100) (rest : List Char) :
    separatorIndex (dateText year month dayOfMonth ++ rest) = 10 := by
  have long : ¬(dateText year month dayOfMonth ++ rest).length = 7 := by
    rw [List.length_append, length_dateText years months days]
    omega
  have text : dateText year month dayOfMonth ++ rest = padded 4 (year : Int) ++
      '-' :: (padded 2 (month : Int) ++ ('-' :: padded 2 (dayOfMonth : Int) ++ rest)) := by
    simp [dateText]
  have length := length_padded (by decide : 0 < 4) (years : year < 10 ^ 4)
  rcases exists_digit_padded (by decide : 0 < 2) (months : month < 10 ^ 2) with
    ⟨c, digits, start, digit⟩
  have dash : charAt (dateText year month dayOfMonth ++ rest) 4 = '-' := by
    rw [text, charAt, List.getD_append_right _ _ _ _ (by omega), length]
    rfl
  have first : charAt (dateText year month dayOfMonth ++ rest) 5 = c := by
    rw [text, start, charAt, List.getD_append_right _ _ _ _ (by omega), length]
    rfl
  -- a date of a week would have its letter where the month begins
  have week : c ≠ 'W' := by
    rintro rfl
    cases digit
  rw [separatorIndex, if_neg (by simpa using long), dash, first]
  simp [week]

theorem date?_dateText {year month dayOfMonth : Nat} (years : year < 10000) (months : month < 100)
    (days : dayOfMonth < 100) :
    date? (dateText year month dayOfMonth) = some ⟨year, month, dayOfMonth⟩ := by
  have y := digits?_padded (by decide : 0 < 4) (years : year < 10 ^ 4)
    ('-' :: (padded 2 (month : Int) ++ '-' :: padded 2 (dayOfMonth : Int)))
  have m := digits?_padded (by decide : 0 < 2) (months : month < 10 ^ 2)
    ('-' :: padded 2 (dayOfMonth : Int))
  have d := digits?_padded_nil (by decide : 0 < 2) (days : dayOfMonth < 10 ^ 2)
  have text : dateText year month dayOfMonth = padded 4 (year : Int) ++
      '-' :: (padded 2 (month : Int) ++ '-' :: padded 2 (dayOfMonth : Int)) := by
    simp [dateText]
  have week : charAt (padded 2 (month : Int) ++ '-' :: padded 2 (dayOfMonth : Int)) 0 ≠ 'W' := by
    rcases exists_digit_padded (by decide : 0 < 2) (months : month < 10 ^ 2) with
      ⟨c, rest, digits, digit⟩
    rw [digits]
    intro same
    have letter : c = 'W' := same
    rw [letter] at digit
    cases digit
  -- both hyphens stand, so the second one is asked for
  have dash (s : List Char) : charAt ('-' :: s) 0 = '-' := rfl
  rw [text]
  simp [date?, y, m, d, dash, week]

/-! ## Stamps -/

/-- Can a text say the stamp? -/
structure IsValid (stamp : Stamp) : Prop where
  first : Date.toDays ⟨1, 1, 1⟩ * day ≤ stamp.clock
  last : stamp.clock ≤ lastClock
  offset : ∀ offset ∈ stamp.offset, IsOffset offset

/-- The text of an optional distance from UTC. -/
def zoneText : Option Int → List Char
  | some offset => offsetText offset
  | none => []

theorem plain_of_mem_zoneText {offset : Option Int} {c : Char} (hc : c ∈ zoneText offset) :
    c.toNat < 128 := by
  cases offset with
  | none => cases hc
  | some offset => exact plain_of_mem_offsetText hc

/-- A time of day with an optional distance from UTC is read back. -/
theorem time?_clockText {hour minute second micros : Nat} (hours : hour < 100)
    (minutes : minute < 100) (seconds : second < 100) (fraction : micros < 1000000)
    {offset : Option Int} (valid : ∀ distance ∈ offset, IsOffset distance) :
    time? (clockText hour minute second micros ++ zoneText offset) =
      some ({ hour, minute, second, micros, rest := offset.isSome }, offset) := by
  -- the distance begins at the first sign, and the time of day has none
  have inside : ∀ c ∈ clockText hour minute second micros, (!isZoneStart c) = true := by
    intro c hc
    rw [isZoneStart_of_isClockChar (isClockChar_of_mem_clockText hc)]
    rfl
  have read := clock?_clockText hours minutes seconds fraction
  rw [time?, List.takeWhile_append_of_pos inside, List.dropWhile_append_of_pos inside]
  cases offset with
  | none =>
      have whole := read ending
      simp [zoneText, whole]
  | some distance =>
      rcases zone?_offsetText (valid distance rfl) with ⟨sign, text, written, start, zone⟩
      have whole := read sign
      have more : sign ≠ ending := by
        rintro rfl
        cases start
      simp [zoneText, written, start, whole, zone, more]

/-- The text of a stamp in its parts. -/
theorem exists_text_eq {stamp : Stamp} (valid : stamp.IsValid) :
    ∃ year month dayOfMonth hour minute second micros : Nat,
      (year < 10000 ∧ month < 100 ∧ dayOfMonth < 100) ∧
      (hour < 24 ∧ minute < 60 ∧ second < 60 ∧ micros < 1000000) ∧
      stamp.text.toList = dateText year month dayOfMonth ++
        'T' :: (clockText hour minute second micros ++ zoneText stamp.offset) ∧
      ∀ rest, ofParts? ⟨year, month, dayOfMonth⟩ { hour, minute, second, micros, rest }
        stamp.offset = some stamp := by
  rcases valid with ⟨first, last, _⟩
  have positive : (0 : Int) < day := by decide
  have split := Int.fdiv_mul_add_fmod stamp.clock day
  have lower := Int.fmod_nonneg_of_pos stamp.clock positive
  have upper := Int.fmod_lt_of_pos stamp.clock positive
  have exists_date : (Date.ofDays (stamp.clock.fdiv day)).isValid = true := by
    apply Date.isValid_ofDays
    · rw [Date.toDays_first] at first ⊢
      simp only [day, Calendar.second] at *
      omega
    · rw [lastClock, Date.toDays_last] at last
      rw [Date.toDays_last]
      simp only [day, Calendar.second] at *
      omega
  have back := Date.toDays_ofDays (stamp.clock.fdiv day)
  -- the clock is a day and the microseconds since midnight
  rcases Int.eq_ofNat_of_zero_le lower with ⟨time, elapsed⟩
  rw [elapsed] at split upper
  cases written : Date.ofDays (stamp.clock.fdiv day) with
  | mk year month dayOfMonth =>
      rw [written] at exists_date back
      have bounds := exists_date
      simp only [Date.isValid, Bool.and_eq_true, decide_eq_true_eq] at bounds
      rcases bounds with ⟨⟨⟨⟨⟨_, years⟩, _⟩, months⟩, _⟩, days⟩
      have longest := Date.monthLength_le year month
      rcases Int.eq_ofNat_of_zero_le (by omega : 0 ≤ year) with ⟨year, rfl⟩
      simp only [day, Calendar.second] at upper split
      refine ⟨year, month, dayOfMonth, time / 1000000 / 3600, time / 1000000 / 60 % 60,
        time / 1000000 % 60, time % 1000000, ?_, ?_, ?_, ?_⟩
      · omega
      · omega
      · have seconds : (time : Int) / Calendar.second = (time / 1000000 : Nat) := rfl
        have micros : (time : Int) % Calendar.second = (time % 1000000 : Nat) := rfl
        have hours : ((time / 1000000 : Nat) : Int) / 3600 = (time / 1000000 / 3600 : Nat) := rfl
        have minutes : ((time / 1000000 : Nat) : Int) / 60 % 60 = (time / 1000000 / 60 % 60 : Nat) :=
          rfl
        have rest : ((time / 1000000 : Nat) : Int) % 60 = (time / 1000000 % 60 : Nat) := rfl
        rw [text, String.toList_ofList]
        simp only [written, elapsed, seconds, micros, hours, minutes, rest]
        cases stamp.offset <;> simp [dateText, clockText, minuteText, zoneText]
      · intro rest
        have total := total_parts ⟨time / 1000000 / 3600, time / 1000000 / 60 % 60,
          time / 1000000 % 60, time % 1000000, rest⟩ rfl rfl rfl rfl
        have clock : (Date.mk year month dayOfMonth).toDays * day + (time : Int) = stamp.clock := by
          rw [back]
          exact split
        have hours : time / 1000000 / 3600 < 24 := by omega
        have minutes : time / 1000000 / 60 % 60 < 60 := by omega
        have seconds : time / 1000000 % 60 < 60 := by omega
        simp [ofParts?, exists_date, hours, minutes, seconds, total, clock]

/-- The text of a stamp is read back. -/
theorem parse?_text {stamp : Stamp} (valid : stamp.IsValid) : parse? stamp.text = some stamp := by
  rcases exists_text_eq valid with ⟨year, month, dayOfMonth, hour, minute, second, micros,
    ⟨years, months, days⟩, ⟨hours, minutes, seconds, fraction⟩, written, whole⟩
  have length := length_dateText years months days
  have plain : ∀ c ∈ stamp.text.toList, c.toNat < 128 := by
    intro c hc
    rw [written, List.mem_append, List.mem_cons, List.mem_append] at hc
    rcases hc with h | rfl | h | h
    · exact plain_of_mem_dateText h
    · decide
    · exact plain_of_isClockChar (isClockChar_of_mem_clockText h)
    · exact plain_of_mem_zoneText h
  rw [parse?, Text.Utf8.octets_of_plain plain, written]
  have read := time?_clockText (by omega : hour < 100) (by omega : minute < 100)
    (by omega : second < 100) fraction valid.offset
  -- where the date ends is all that matters from here on
  generalize clockText hour minute second micros ++ zoneText stamp.offset = time at read
  have index := separatorIndex_dateText years months days ('T' :: time)
  have date := date?_dateText years months days
  generalize dateText year month dayOfMonth = day at length index date
  have dated : (day ++ 'T' :: time).take 10 = day := by
    rw [← length, List.take_left]
  have separator : charAt (day ++ 'T' :: time) 10 = 'T' := by
    rw [charAt, List.getD_append_right _ _ _ _ (by omega), length]
    rfl
  have timed : (day ++ 'T' :: time).drop (10 + characterSize 'T') = time := by
    rw [← List.drop_drop, ← length, List.drop_left]
    rfl
  have long : ¬(day ++ 'T' :: time).length ≤ 10 := by
    rw [List.length_append, length, List.length_cons]
    omega
  have enough : ¬(day ++ 'T' :: time).length < 7 := by omega
  simp only [parseOctets?, if_neg enough, index, dated, date, separator, timed, read, if_neg long,
    Option.bind_eq_bind, Option.bind_some, whole]

/-! ## What is read -/

theorem lt_of_digits? {count value : Nat} {s rest : List Char}
    (h : digits? count s = some (value, rest)) : value < 10 ^ count := by
  simp only [digits?] at h
  split at h
  · rename_i plain
    cases h
    simp only [Bool.and_eq_true, beq_iff_eq, List.all_eq_true] at plain
    have bound := digitsValue_lt plain.2
    rwa [plain.1] at bound
  · cases h

theorem micros_of_fraction? {clock read : Clock} {s : List Char} {next : Char}
    (h : fraction? clock s next = some read) : read.micros < 1000000 := by
  simp only [fraction?, Option.bind_eq_bind, Option.bind_eq_some_iff] at h
  rcases h with ⟨⟨value, rest⟩, digits, h⟩
  cases h
  have bound := lt_of_digits? digits
  have positive : 0 < 10 ^ (6 - min 6 s.length) := Nat.pow_pos (by decide)
  -- the places that are read and those that are filled with zeros are six together
  have whole : 10 ^ min 6 s.length * 10 ^ (6 - min 6 s.length) = 1000000 := by
    rw [← Nat.pow_add, Nat.add_sub_of_le (Nat.min_le_left ..)]
  exact Nat.lt_of_lt_of_eq (Nat.mul_lt_mul_of_pos_right bound positive) whole

theorem micros_of_parts? {next : Char} {separated : Bool} {clock read : Clock} {left : Nat}
    {s : List Char} (small : clock.micros < 1000000)
    (h : parts? next separated clock left s = some read) : read.micros < 1000000 := by
  -- induction on the parts that are left; none of them touches the microseconds
  induction left generalizing clock separated s with
  | zero => exact micros_of_fraction? h
  | succ left ih =>
      simp only [parts?, Option.bind_eq_bind, Option.bind_eq_some_iff] at h
      rcases h with ⟨⟨value, rest⟩, -, h⟩
      have kept : (clock.put (2 - left) value).micros < 1000000 := by
        unfold Clock.put
        repeat' split
        all_goals exact small
      unfold Clock.put at kept
      generalize (if (2 - left == 0) = true then { clock with hour := value }
        else if (2 - left == 1) = true then { clock with minute := value }
        else { clock with second := value }) = put at h kept
      rcases rest with _ | ⟨c, _ | ⟨d, after⟩⟩
      · cases h
        exact kept
      · cases h
        exact kept
      · dsimp only at h
        generalize (if (2 - left == 0) = true then c == ':' else separated) = colons at h
        split at h
        · exact ih kept h
        · split at h
          · exact micros_of_fraction? h
          · split at h
            · cases h
            · exact ih kept h

theorem isOffset_of_zone? {sign : Char} {s : List Char} {offset : Int}
    (h : zone? sign s = some offset) : IsOffset offset := by
  unfold zone? at h
  split at h
  · split at h
    · cases h
      exact ⟨by decide, fun _ => rfl⟩
    · cases h
  · split at h
    · cases h
    · rename_i clock read
      have whole : clock.total - clock.micros =
          (clock.hour * 3600 + clock.minute * 60 + clock.second : Nat) * Calendar.second := by
        unfold Clock.total
        omega
      dsimp only at h
      -- a distance with no whole second in it counts as none
      have size : 0 ≤ (if (clock.total - clock.micros == 0) = true then 0 else clock.total) ∧
          ((if (clock.total - clock.micros == 0) = true then 0 else clock.total) < Calendar.second →
            (if (clock.total - clock.micros == 0) = true then 0 else clock.total) = 0) := by
        simp only [beq_iff_eq, Calendar.second] at whole ⊢
        split <;> omega
      generalize (if (clock.total - clock.micros == 0) = true then 0 else clock.total) = size
        at h size
      split at h
      · cases h
      · rename_i fits
        simp only [Bool.or_eq_true, decide_eq_true_eq, not_or] at fits
        cases h
        unfold IsOffset
        split <;> omega

theorem isOffset_of_time? {s : List Char} {clock : Clock} {offset : Option Int}
    (h : time? s = some (clock, offset)) :
    clock.micros < 1000000 ∧ ∀ distance ∈ offset, IsOffset distance := by
  unfold time? at h
  dsimp only at h
  split at h
  · simp only [Option.bind_eq_bind, Option.bind_eq_some_iff] at h
    rcases h with ⟨read, parts, h⟩
    split at h
    · cases h
    · cases h
      exact ⟨micros_of_parts? (by decide) parts, fun _ none => nomatch none⟩
  · simp only [Option.bind_eq_bind, Option.bind_eq_some_iff] at h
    rcases h with ⟨read, parts, distance, zone, h⟩
    cases h
    refine ⟨micros_of_parts? (by decide) parts, ?_⟩
    intro other same
    cases same
    exact isOffset_of_zone? zone

theorem isValid_of_ofParts? {date : Date} {clock : Clock} {offset : Option Int} {stamp : Stamp}
    (small : clock.micros < 1000000) (valid : ∀ distance ∈ offset, IsOffset distance)
    (h : ofParts? date clock offset = some stamp) : stamp.IsValid := by
  unfold ofParts? at h
  split at h
  · rename_i stands
    cases h
    simp only [Bool.and_eq_true, decide_eq_true_eq] at stands
    rcases Date.toDays_of_isValid stands.1.1.1 with ⟨first, last⟩
    have total : clock.total = (clock.hour * 3600 + clock.minute * 60 + clock.second : Nat) *
        Calendar.second + clock.micros := rfl
    refine ⟨?_, ?_, valid⟩
    · simp only [day, Calendar.second] at *
      omega
    · simp only [lastClock, day, Calendar.second] at *
      omega
  · cases h

/-- Only stamps that a text can say are read. -/
theorem isValid_of_parse? {s : String} {stamp : Stamp} (h : parse? s = some stamp) :
    stamp.IsValid := by
  have nowhere : ∀ distance ∈ (none : Option Int), IsOffset distance := fun _ none => nomatch none
  unfold parse? parseOctets? at h
  split at h
  · cases h
  · simp only [Option.bind_eq_bind, Option.bind_eq_some_iff] at h
    rcases h with ⟨date, -, h⟩
    split at h
    · exact isValid_of_ofParts? (by decide) nowhere h
    · rcases Option.bind_eq_some_iff.1 h with ⟨⟨clock, offset⟩, time, h⟩
      rcases isOffset_of_time? time with ⟨small, valid⟩
      exact isValid_of_ofParts? small valid h

end DataGateway.Calendar.Stamp
