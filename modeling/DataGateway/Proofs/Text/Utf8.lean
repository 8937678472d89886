import DataGateway.Proofs.Except
import DataGateway.Text.Utf8
import Mathlib.Tactic.Common

/-!
# Texts and their octets

A text is read back from its octets, whatever its characters. One below 128 has a single octet, which is
its code.

* `octets_of_plain` — the octets of a plain text are its characters;
* `decode_encode` — the strict decoder says the text that was encoded;
* `decode_eq_ok_iff` — and it says no text for octets that are not those of the text.
-/

namespace DataGateway.Text.Utf8

/-! ## Plain characters -/

theorem toNat_octet_of_plain {c : Char} (plain : c.toNat < 128) : c.val.toUInt8.toNat = c.toNat := by
  have code : c.toNat = c.val.toNat := rfl
  rw [UInt32.toNat_toUInt8, ← code]
  omega

theorem utf8EncodeChar_of_plain {c : Char} (plain : c.toNat < 128) :
    String.utf8EncodeChar c = [c.val.toUInt8] := by
  have code : c.toNat = c.val.toNat := rfl
  have small : c.val ≤ 0x7f := by
    rw [UInt32.le_iff_toNat_le, ← code]
    simp only [UInt32.reduceToNat]
    omega
  exact String.utf8EncodeChar_eq_singleton (by simp [Char.utf8Size, small])

/-- The octets of a plain text are its characters. -/
theorem octets_of_plain {s : List Char} (plain : ∀ c ∈ s, c.toNat < 128) :
    (encode s).map (fun octet => Char.ofNat octet.toNat) = s := by
  induction s with
  | nil => rfl
  | cons c s ih =>
      have small := plain c (List.mem_cons_self ..)
      have rest := ih fun d hd => plain d (List.mem_cons_of_mem c hd)
      rw [encode, List.flatMap_cons, utf8EncodeChar_of_plain small, List.singleton_append,
        List.map_cons, toNat_octet_of_plain small, Char.ofNat_toNat]
      exact congrArg (c :: ·) rest

/-! ## Octets by their codes -/

theorem isContinuation_iff {octet : UInt8} :
    isContinuation octet = true ↔ 0x80 ≤ octet.toNat ∧ octet.toNat < 0xC0 := by
  rw [isContinuation, Bool.and_eq_true, decide_eq_true_iff, decide_eq_true_iff,
    UInt8.le_iff_toNat_le, UInt8.lt_iff_toNat_lt]
  exact Iff.rfl

/-- The last six bits of a code, as an octet inside of a character. -/
def tail (n : Nat) : UInt8 := UInt8.ofNat (n % 64 + 128)

theorem toNat_tail (n : Nat) : (tail n).toNat = n % 64 + 128 :=
  UInt8.toNat_ofNat_of_lt' (show n % 64 + 128 < 256 by omega)

theorem isContinuation_tail (n : Nat) : isContinuation (tail n) = true := by
  rw [isContinuation_iff, toNat_tail]
  omega

theorem payload_tail (n : Nat) : payload (tail n) = n % 64 := by
  have code := toNat_tail n
  unfold payload
  omega

/-- Four first octets leave out some of the octets that could come second. -/
theorem secondStands_tail {first : UInt8} {n : Nat}
    (short : first.toNat = 0xE0 → 0x20 ≤ n % 64) (surrogate : first.toNat = 0xED → n % 64 < 0x20)
    (long : first.toNat = 0xF0 → 0x10 ≤ n % 64) (last : first.toNat = 0xF4 → n % 64 < 0x10) :
    secondStands first (tail n) = true := by
  simp only [secondStands, isContinuation_tail, Bool.true_and, Bool.and_eq_true, Bool.not_eq_true',
    Bool.and_eq_false_iff, beq_eq_false_iff_ne, decide_eq_false_iff_not, ne_eq, ← UInt8.toNat_inj,
    UInt8.lt_iff_toNat_lt, UInt8.le_iff_toNat_le, toNat_tail, UInt8.reduceToNat]
  omega

/-! ## Characters -/

section Characters

variable {a : UInt8} (position : Nat) (rest : List UInt8)

theorem not_lt_of_toNat {octet : UInt8} (le : octet.toNat ≤ a.toNat) : ¬a < octet := by
  rw [UInt8.lt_iff_toNat_lt]
  exact Nat.not_lt.2 le

/-- May the octet stand first in a character of several octets? -/
theorem not_strays (least : 0xC2 ≤ a.toNat) (most : a.toNat ≤ 0xF4) :
    ¬(a < 0xC2 || 0xF4 < a) = true := by
  have first : ¬a < (0xC2 : UInt8) := not_lt_of_toNat least
  have last : ¬(0xF4 : UInt8) < a := not_lt_of_toNat most
  rw [Bool.or_eq_true, decide_eq_true_iff, decide_eq_true_iff]
  exact not_or.2 ⟨first, last⟩

theorem decodeFrom_one (most : a.toNat < 0x80) : decodeFrom position (a :: rest) =
    (Char.ofNat a.toNat :: ·) <$> decodeFrom (position + 1) rest := by
  have one : a < 0x80 := UInt8.lt_iff_toNat_lt.2 most
  rw [decodeFrom.eq_def]
  dsimp only
  rw [if_pos one]
  cases decodeFrom (position + 1) rest <;> rfl

theorem decodeFrom_two (least : 0xC2 ≤ a.toNat) (most : a.toNat < 0xE0) (n : Nat) :
    decodeFrom position (a :: tail n :: rest) =
      (Char.ofNat ((a.toNat - 0xC0) * 64 + n % 64) :: ·) <$> decodeFrom (position + 2) rest := by
  have large : ¬a < 0x80 := not_lt_of_toNat (Nat.le_trans (by decide) least)
  have two : a < 0xE0 := UInt8.lt_iff_toNat_lt.2 most
  have stands : secondStands a (tail n) = true := by apply secondStands_tail <;> omega
  rw [decodeFrom.eq_def]
  dsimp only
  rw [if_neg large, if_neg (not_strays least (by omega)), if_neg (by rw [stands]; nofun),
    if_pos two, payload_tail]
  cases decodeFrom (position + 2) rest <;> rfl

theorem decodeFrom_three (least : 0xE0 ≤ a.toNat) (most : a.toNat < 0xF0) {m : Nat}
    (stands : secondStands a (tail m) = true) (n : Nat) :
    decodeFrom position (a :: tail m :: tail n :: rest) =
      (Char.ofNat (((a.toNat - 0xE0) * 64 + m % 64) * 64 + n % 64) :: ·) <$>
        decodeFrom (position + 3) rest := by
  have large : ¬a < 0x80 := not_lt_of_toNat (Nat.le_trans (by decide) least)
  have two : ¬a < 0xE0 := not_lt_of_toNat least
  have three : a < 0xF0 := UInt8.lt_iff_toNat_lt.2 most
  rw [decodeFrom.eq_def]
  dsimp only
  rw [if_neg large, if_neg (not_strays (by omega) (by omega)), if_neg (by rw [stands]; nofun),
    if_neg two, if_neg (by rw [isContinuation_tail]; nofun), if_pos three, payload_tail,
    payload_tail]
  cases decodeFrom (position + 3) rest <;> rfl

theorem decodeFrom_four (least : 0xF0 ≤ a.toNat) (most : a.toNat ≤ 0xF4) {l : Nat}
    (stands : secondStands a (tail l) = true) (m n : Nat) :
    decodeFrom position (a :: tail l :: tail m :: tail n :: rest) =
      (Char.ofNat ((((a.toNat - 0xF0) * 64 + l % 64) * 64 + m % 64) * 64 + n % 64) :: ·) <$>
        decodeFrom (position + 4) rest := by
  have large : ¬a < 0x80 := not_lt_of_toNat (Nat.le_trans (by decide) least)
  have two : ¬a < 0xE0 := not_lt_of_toNat (Nat.le_trans (by decide) least)
  have three : ¬a < 0xF0 := not_lt_of_toNat least
  rw [decodeFrom.eq_def]
  dsimp only
  rw [if_neg large, if_neg (not_strays (by omega) most), if_neg (by rw [stands]; nofun),
    if_neg two, if_neg (by rw [isContinuation_tail]; nofun), if_neg three,
    if_neg (by rw [isContinuation_tail]; nofun), payload_tail, payload_tail, payload_tail]
  cases decodeFrom (position + 4) rest <;> rfl

end Characters

/-- A character is read back from its octets, whatever follows. -/
theorem decodeFrom_char (c : Char) (position : Nat) (rest : List UInt8) :
    ∃ next, decodeFrom position (String.utf8EncodeChar c ++ rest) =
      (c :: ·) <$> decodeFrom next rest := by
  have code : c.toNat = c.val.toNat := rfl
  have valid : c.toNat < 0xD800 ∨ (0xDFFF < c.toNat ∧ c.toNat < 0x110000) := c.valid
  have whole {n : Nat} (same : n = c.toNat) : Char.ofNat n = c := by rw [same, Char.ofNat_toNat]
  unfold String.utf8EncodeChar
  rw [← code]
  dsimp only
  split
  · rename_i small
    have first : (UInt8.ofNat c.toNat).toNat = c.toNat :=
      UInt8.toNat_ofNat_of_lt' (show c.toNat < 256 by omega)
    refine ⟨position + 1, (decodeFrom_one position rest (by omega)).trans ?_⟩
    rw [whole first]
  · split
    · have first : (UInt8.ofNat (c.toNat / 64 % 32 + 192)).toNat = c.toNat / 64 % 32 + 192 :=
        UInt8.toNat_ofNat_of_lt' (show c.toNat / 64 % 32 + 192 < 256 by omega)
      refine ⟨position + 2, (decodeFrom_two position rest (by omega) (by omega) c.toNat).trans ?_⟩
      rw [whole (by omega)]
    · split
      · have first : (UInt8.ofNat (c.toNat / 4096 % 16 + 224)).toNat = c.toNat / 4096 % 16 + 224 :=
          UInt8.toNat_ofNat_of_lt' (show c.toNat / 4096 % 16 + 224 < 256 by omega)
        have stands : secondStands (UInt8.ofNat (c.toNat / 4096 % 16 + 224)) (tail (c.toNat / 64)) =
            true := by apply secondStands_tail <;> omega
        refine ⟨position + 3,
          (decodeFrom_three position rest (by omega) (by omega) stands c.toNat).trans ?_⟩
        rw [whole (by omega)]
      · have first : (UInt8.ofNat (c.toNat / 262144 % 8 + 240)).toNat = c.toNat / 262144 % 8 + 240 :=
          UInt8.toNat_ofNat_of_lt' (show c.toNat / 262144 % 8 + 240 < 256 by omega)
        have stands : secondStands (UInt8.ofNat (c.toNat / 262144 % 8 + 240))
            (tail (c.toNat / 4096)) = true := by apply secondStands_tail <;> omega
        refine ⟨position + 4, (decodeFrom_four position rest (by omega) (by omega) stands
          (c.toNat / 64) c.toNat).trans ?_⟩
        rw [whole (by omega)]

/-- A text is read back from its octets. -/
theorem decodeFrom_encode (s : List Char) (position : Nat) :
    decodeFrom position (encode s) = .ok s := by
  induction s generalizing position with
  | nil => rfl
  | cons c s ih =>
      rcases decodeFrom_char c position (encode s) with ⟨next, read⟩
      rw [encode, List.flatMap_cons, ← encode, read, ih next]
      rfl

theorem decode_encode (s : List Char) : decode (encode s) = .ok s := decodeFrom_encode s 0

/-! ## Octets that say a text -/

theorem ofNat_eq {n : Nat} (octet : UInt8) (same : n = octet.toNat) : UInt8.ofNat n = octet := by
  rw [same, UInt8.ofNat_toNat]

theorem toNat_ofNat {n : Nat} (valid : n < 0xD800 ∨ 0xDFFF < n ∧ n < 0x110000) :
    (Char.ofNat n).val.toNat = n := by
  rw [Char.ofNat, dif_pos valid]
  rfl

theorem toNat_eq_payload {octet : UInt8} (inside : isContinuation octet = true) :
    octet.toNat = payload octet + 128 ∧ payload octet < 64 := by
  rw [isContinuation_iff] at inside
  unfold payload
  omega

/-- What the second octet is like when it may follow the first. -/
theorem payload_of_secondStands {first second : UInt8} (stands : secondStands first second = true) :
    (second.toNat = payload second + 128 ∧ payload second < 64) ∧
      (first.toNat = 0xE0 → 0x20 ≤ payload second) ∧ (first.toNat = 0xED → payload second < 0x20) ∧
      (first.toNat = 0xF0 → 0x10 ≤ payload second) ∧ (first.toNat = 0xF4 → payload second < 0x10) := by
  simp only [secondStands, Bool.and_eq_true, Bool.not_eq_true', Bool.and_eq_false_iff,
    beq_eq_false_iff_ne, decide_eq_false_iff_not, ne_eq, ← UInt8.toNat_inj, UInt8.lt_iff_toNat_lt,
    UInt8.le_iff_toNat_le, UInt8.reduceToNat] at stands
  rcases stands with ⟨⟨⟨⟨inside, _⟩, _⟩, _⟩, _⟩
  rcases toNat_eq_payload inside with ⟨second, small⟩
  refine ⟨⟨second, small⟩, ?_⟩
  omega

theorem le_of_not_lt {octet least : UInt8} (large : ¬octet < least) : least.toNat ≤ octet.toNat := by
  rw [UInt8.lt_iff_toNat_lt] at large
  exact Nat.not_lt.1 large

/-- An octet that does not stray may stand first in a character of several. -/
theorem bounds_of_not_strays {first : UInt8} (stands : ¬(first < 0xC2 || 0xF4 < first) = true) :
    0xC2 ≤ first.toNat ∧ first.toNat ≤ 0xF4 := by
  rw [Bool.or_eq_true, decide_eq_true_iff, decide_eq_true_iff, not_or] at stands
  refine ⟨le_of_not_lt stands.1, ?_⟩
  have last := stands.2
  rw [UInt8.lt_iff_toNat_lt] at last
  exact Nat.not_lt.1 last

section Front

variable {a b c d : UInt8}

theorem encodeChar_one (most : a.toNat < 0x80) :
    String.utf8EncodeChar (Char.ofNat a.toNat) = [a] := by
  have code : (Char.ofNat a.toNat).val.toNat = a.toNat := toNat_ofNat (by omega)
  unfold String.utf8EncodeChar
  rw [code]
  dsimp only
  rw [if_pos (by omega), ofNat_eq a rfl]

theorem encodeChar_two (least : 0xC2 ≤ a.toNat) (most : a.toNat < 0xE0)
    (second : secondStands a b = true) :
    String.utf8EncodeChar (Char.ofNat ((a.toNat - 0xC0) * 64 + payload b)) = [a, b] := by
  have stands := payload_of_secondStands second
  have code := toNat_ofNat (n := (a.toNat - 0xC0) * 64 + payload b) (by omega)
  unfold String.utf8EncodeChar
  rw [code]
  dsimp only
  rw [if_neg (by omega), if_pos (by omega), ofNat_eq a (by omega), ofNat_eq b (by omega)]

theorem encodeChar_three (least : 0xE0 ≤ a.toNat) (most : a.toNat < 0xF0)
    (second : secondStands a b = true) (third : isContinuation c = true) :
    String.utf8EncodeChar (Char.ofNat (((a.toNat - 0xE0) * 64 + payload b) * 64 + payload c)) =
      [a, b, c] := by
  have stands := payload_of_secondStands second
  have inside := toNat_eq_payload third
  have code := toNat_ofNat (n := ((a.toNat - 0xE0) * 64 + payload b) * 64 + payload c) (by omega)
  unfold String.utf8EncodeChar
  rw [code]
  dsimp only
  rw [if_neg (by omega), if_neg (by omega), if_pos (by omega), ofNat_eq a (by omega),
    ofNat_eq b (by omega), ofNat_eq c (by omega)]

theorem encodeChar_four (least : 0xF0 ≤ a.toNat) (most : a.toNat ≤ 0xF4)
    (second : secondStands a b = true) (third : isContinuation c = true)
    (fourth : isContinuation d = true) :
    String.utf8EncodeChar (Char.ofNat
      ((((a.toNat - 0xF0) * 64 + payload b) * 64 + payload c) * 64 + payload d)) = [a, b, c, d] := by
  have stands := payload_of_secondStands second
  have inside := toNat_eq_payload third
  have inside' := toNat_eq_payload fourth
  have code := toNat_ofNat
    (n := (((a.toNat - 0xF0) * 64 + payload b) * 64 + payload c) * 64 + payload d) (by omega)
  unfold String.utf8EncodeChar
  rw [code]
  dsimp only
  rw [if_neg (by omega), if_neg (by omega), if_neg (by omega), ofNat_eq a (by omega),
    ofNat_eq b (by omega), ofNat_eq c (by omega), ofNat_eq d (by omega)]

end Front

/-- The octets of the first character stand before those of the others. -/
theorem encode_of_step {c : Char} {front rest : List UInt8} {s : List Char}
    {others : Except Encoding.Fault (List Char)} (first : String.utf8EncodeChar c = front)
    (later : ∀ {s}, others = .ok s → rest = encode s)
    (read : (do return c :: (← others)) = .ok s) : front ++ rest = encode s := by
  rcases bind_eq_ok_iff.1 read with ⟨tail, said, same⟩
  cases same
  rw [encode, List.flatMap_cons, first, ← encode, ← later said]

/-- What is decoded is encoded as the octets that it was decoded from. -/
theorem encode_of_decodeFrom {position : Nat} {bytes : List UInt8} {s : List Char}
    (read : decodeFrom position bytes = .ok s) : bytes = encode s := by
  fun_induction decodeFrom position bytes generalizing s with
  | case1 =>
      cases read
      rfl
  | case2 position a rest one ih =>
      have most := UInt8.lt_iff_toNat_lt.1 one
      exact encode_of_step (encodeChar_one most) ih read
  | case6 position a _ strays b rest stands two _ =>
      rename_i ih
      have most := UInt8.lt_iff_toNat_lt.1 two
      have second : secondStands a b = true := by simpa using stands
      exact encode_of_step (encodeChar_two (bounds_of_not_strays strays).1 most second) ih read
  | case9 position a _ _ b stands two c rest inside three _ =>
      rename_i ih
      have most := UInt8.lt_iff_toNat_lt.1 three
      have second : secondStands a b = true := by simpa using stands
      have third : isContinuation c = true := by simpa using inside
      exact encode_of_step (encodeChar_three (le_of_not_lt two) most second third) ih read
  | case12 position a _ strays b stands _ c inside three d rest inside' _ =>
      rename_i ih
      have second : secondStands a b = true := by simpa using stands
      have third : isContinuation c = true := by simpa using inside
      have fourth : isContinuation d = true := by simpa using inside'
      exact encode_of_step (encodeChar_four (le_of_not_lt three) (bounds_of_not_strays strays).2 second
        third fourth) ih read
  | _ => cases read

/-- Octets say a text if and only if they are its octets. -/
theorem decode_eq_ok_iff {bytes : List UInt8} {s : List Char} :
    decode bytes = .ok s ↔ bytes = encode s := by
  constructor
  · exact encode_of_decodeFrom
  · rintro rfl
    exact decode_encode s

end DataGateway.Text.Utf8
