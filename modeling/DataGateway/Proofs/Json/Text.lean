import DataGateway.Json.Decode
import DataGateway.Json.Encode
import DataGateway.Proofs.Text.Hex
import Mathlib.Tactic.SplitIfs

/-!
# Texts are read back

A text in a document is read back as it was, whatever its characters: those that have no place in a
document are written by their code units, one or a pair, and a pair says its character again.

* `scanText_encodeText` — a text is read up to its closing quote;
* `plain_encodeText` — what is written for a text has no characters but plain ones.
-/

namespace DataGateway.Json

open Text

variable {opening rest : List Char}

/-- What is read of a text goes before what is read after it. -/
def prepend (c : Char) (read : Except Problem (List Char × List Char)) :
    Except Problem (List Char × List Char) := do
  let (chars, rest) ← read
  return (c :: chars, rest)

/-! ## Code units -/

theorem unitEscape_eq (code : Nat) : unitEscape code =
    ['\\', 'u', hexDigit 'a' (code / 16 / 16 / 16 % 16), hexDigit 'a' (code / 16 / 16 % 16),
      hexDigit 'a' (code / 16 % 16), hexDigit 'a' (code % 16)] := rfl

theorem unit?_hexDigits {code : Nat} (small : code < 0x10000) :
    unit? (hexDigit 'a' (code / 16 / 16 / 16 % 16)) (hexDigit 'a' (code / 16 / 16 % 16))
      (hexDigit 'a' (code / 16 % 16)) (hexDigit 'a' (code % 16)) = some code := by
  have digit (n : Nat) : hexValue? (hexDigit 'a' (n % 16)) = some (n % 16) :=
    hexValue?_hexDigit (by decide) (Nat.mod_lt n (by decide))
  rw [unit?, digit, digit, digit, digit]
  exact congrArg some (by omega)

theorem scanText_unit {code : Nat} (small : code < 0x10000) (whole : isHigh code = false)
    (next : Char) : scanText opening (unitEscape code ++ next :: rest) =
      prepend (unitChar code) (scanText opening (next :: rest)) := by
  simp only [unitEscape_eq, List.cons_append, List.nil_append]
  rw [scanText, unit?_hexDigits small]
  simp only [whole]
  rfl

theorem scanText_pair {high low : Nat} (first : isHigh high = true) (second : isLow low = true)
    (next : Char) : scanText opening (unitEscape high ++ (unitEscape low ++ next :: rest)) =
      prepend (pairChar high low) (scanText opening (next :: rest)) := by
  simp only [isHigh, isLow, Bool.and_eq_true, decide_eq_true_eq] at first second
  have top : isHigh high = true := by simp [isHigh, first]
  have bottom : isLow low = true := by simp [isLow, second]
  simp only [unitEscape_eq, List.cons_append, List.nil_append]
  rw [scanText, unit?_hexDigits (by omega)]
  simp only [top, unit?_hexDigits (show low < 0x10000 by omega), bottom, if_true]
  rfl

/-! ## Characters -/

theorem isHigh_of_char (c : Char) : isHigh c.toNat = false ∧ isLow c.toNat = false := by
  have valid : c.toNat < 0xD800 ∨ 0xDFFF < c.toNat ∧ c.toNat < 0x110000 := c.valid
  simp only [isHigh, isLow, Bool.and_eq_false_iff, decide_eq_false_iff_not]
  omega

theorem unitChar_toNat (c : Char) : unitChar c.toNat = c := by
  rcases isHigh_of_char c with ⟨high, low⟩
  rw [unitChar, high, low]
  exact Char.ofNat_toNat c

/-- A character beyond the first 65536 is the one of its pair of code units. -/
theorem scanText_wide {c : Char} (wide : 0x10000 ≤ c.toNat) (next : Char) :
    scanText opening (unitEscape (0xD800 + (c.toNat - 0x10000) / 0x400) ++
      (unitEscape (0xDC00 + (c.toNat - 0x10000) % 0x400) ++ next :: rest)) =
        prepend c (scanText opening (next :: rest)) := by
  have valid : c.toNat < 0xD800 ∨ 0xDFFF < c.toNat ∧ c.toNat < 0x110000 := c.valid
  have high : isHigh (0xD800 + (c.toNat - 0x10000) / 0x400) = true := by
    simp only [isHigh, Bool.and_eq_true, decide_eq_true_eq]
    omega
  have low : isLow (0xDC00 + (c.toNat - 0x10000) % 0x400) = true := by
    simp only [isLow, Bool.and_eq_true, decide_eq_true_eq]
    omega
  have char : pairChar (0xD800 + (c.toNat - 0x10000) / 0x400)
      (0xDC00 + (c.toNat - 0x10000) % 0x400) = c := by
    rw [pairChar]
    refine Eq.trans (congrArg Char.ofNat ?_) (Char.ofNat_toNat c)
    omega
  rw [scanText_pair high low, char]

/-- A character that stands for itself. -/
theorem scanText_plain {c : Char} (quote : c ≠ '"') (escape : c ≠ '\\') (shown : 0x20 ≤ c.toNat) :
    scanText opening (c :: rest) = prepend c (scanText opening rest) := by
  rw [scanText, if_neg (by omega)]
  · rfl
  all_goals simp [quote, escape]

/-- A character with a letter of its own. -/
theorem scanText_short {letter c : Char} (short : shortEscape? letter = some c) (apart : letter ≠ 'u') :
    scanText opening ('\\' :: letter :: rest) = prepend c (scanText opening rest) := by
  rw [scanText, short]
  · rfl
  all_goals simp [apart]

theorem eq_ofNat_of_toNat {c : Char} {code : Nat} (same : (c.toNat == code) = true) :
    c = Char.ofNat code := by
  rw [← eq_of_beq same, Char.ofNat_toNat]

/-- Every character is read back, whatever follows it in the text. -/
theorem scanText_encodeChar (c next : Char) : scanText opening (encodeChar c ++ next :: rest) =
    prepend c (scanText opening (next :: rest)) := by
  unfold encodeChar
  split_ifs with marked feed back tab bell form shown narrow
  · rcases (by simpa using marked : c = '"' ∨ c = '\\') with rfl | rfl
    · exact scanText_short rfl (by decide)
    · exact scanText_short rfl (by decide)
  · rw [eq_of_beq feed]
    exact scanText_short rfl (by decide)
  · rw [eq_of_beq back]
    exact scanText_short rfl (by decide)
  · rw [eq_of_beq tab]
    exact scanText_short rfl (by decide)
  · rw [eq_ofNat_of_toNat bell]
    exact scanText_short rfl (by decide)
  · rw [eq_ofNat_of_toNat form]
    exact scanText_short rfl (by decide)
  · rcases not_or.1 (by simpa using marked : ¬(c = '"' ∨ c = '\\')) with ⟨quote, escape⟩
    have bounds : 0x20 ≤ c.toNat ∧ c.toNat < 0x7F := by simpa using shown
    exact scanText_plain quote escape bounds.1
  · rw [scanText_unit narrow (isHigh_of_char c).1, unitChar_toNat]
  · rw [List.append_assoc]
    exact scanText_wide (Nat.not_lt.1 narrow) next

/-! ## Texts -/

/-- A text is read up to its closing quote, and what follows is left. -/
theorem scanText_encodeText (s : List Char) :
    scanText opening (s.flatMap encodeChar ++ '"' :: rest) = .ok (s, rest) := by
  induction s with
  | nil => rfl
  | cons c s ih =>
      -- a code unit is only read when something follows it, and the closing quote always does
      rcases List.exists_cons_of_ne_nil (List.append_ne_nil_of_right_ne_nil (s.flatMap encodeChar)
        (List.cons_ne_nil '"' rest)) with ⟨next, others, more⟩
      rw [List.flatMap_cons, List.append_assoc, more, scanText_encodeChar, ← more, ih]
      rfl

/-! ## Octets -/

theorem plain_unitEscape (code : Nat) : ∀ c ∈ unitEscape code, c.toNat < 128 := by
  have digit (n : Nat) : (hexDigit 'a' (n % 16)).toNat < 128 :=
    plain_hexDigit (by decide) (Nat.mod_lt n (by decide))
  simp [unitEscape_eq, digit]

theorem plain_encodeChar (c : Char) : ∀ d ∈ encodeChar c, d.toNat < 128 := by
  have letter {b : Char} (plain : b.toNat < 128) : ∀ d ∈ ['\\', b], d.toNat < 128 :=
    List.forall_mem_cons.2 ⟨by decide, List.forall_mem_singleton.2 plain⟩
  unfold encodeChar
  split_ifs with marked feed back tab bell form shown narrow
  · rcases (by simpa using marked : c = '"' ∨ c = '\\') with rfl | rfl
    · exact letter (by decide)
    · exact letter (by decide)
  · exact letter (by decide)
  · exact letter (by decide)
  · exact letter (by decide)
  · exact letter (by decide)
  · exact letter (by decide)
  · have bounds : 0x20 ≤ c.toNat ∧ c.toNat < 0x7F := by simpa using shown
    simp only [List.mem_singleton, forall_eq]
    omega
  · exact plain_unitEscape _
  · rw [List.forall_mem_append]
    exact ⟨plain_unitEscape _, plain_unitEscape _⟩

/-- What is written for a text is plain. -/
theorem plain_encodeText (s : String) : ∀ c ∈ encodeText s, c.toNat < 128 := by
  intro c member
  simp only [encodeText, List.mem_cons, List.mem_append, List.mem_flatMap, List.not_mem_nil,
    or_false] at member
  rcases member with rfl | ⟨d, _, inside⟩ | rfl
  · decide
  · exact plain_encodeChar d c inside
  · decide

end DataGateway.Json
