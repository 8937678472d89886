import DataGateway.Proofs.Except
import DataGateway.Proofs.Text.Hex
import DataGateway.Proofs.Text.Search
import DataGateway.Proofs.Text.Utf8
import DataGateway.Text.Percent

/-!
# Percent encoding is read back

What the readers of an address do: a percent sign with two digits says an octet, every other character
its own octets, and the octets are those of a text. A form comes apart at the ampersands and every field
at its first equality sign; a plus sign is a space.

* `unescape` — the octets that a text says;
* `readSegment_segment` — a segment of a path says its text;
* `readForm_form` — a form says its names and values, all of them and in their order.
-/

namespace DataGateway.Text.Percent

/-! ## Readers -/

/-- The octets that a text says. -/
def unescape : List Char → List UInt8
  | [] => []
  | '%' :: a :: b :: rest =>
    match hexValue? a, hexValue? b with
    | some high, some low => UInt8.ofNat (high * 16 + low) :: unescape rest
    | _, _ => 0x25 :: unescape (a :: b :: rest)
  | c :: rest => String.utf8EncodeChar c ++ unescape rest

/-- The text of a segment of a path. -/
def readSegment (s : List Char) : Except Encoding.Fault String :=
  String.ofList <$> Utf8.decode (unescape s)

/-- Spaces in the place of the plus signs. -/
def spaced (s : List Char) : List Char := s.map fun c => if c == '+' then ' ' else c

/-- The text of a name or a value of a form. -/
def readEntry (s : List Char) : Except Encoding.Fault String := readSegment (spaced s)

/-- A field of a form; without an equality sign its value is blank. -/
def readField (field : List Char) : Except Encoding.Fault (String × String) := do
  let (name, value) := cut '=' field
  return (← readEntry name, ← readEntry (value.getD []))

/-- The fields of a form; nothing between two ampersands is no field. -/
def readForm (s : List Char) : Except Encoding.Fault (List (String × String)) :=
  ((pieces '&' s).filter fun piece => !piece.isEmpty).mapM readField

/-! ## Octets -/

/-- Characters that say something in an address. -/
def marks : List Char := ['%', '+', '&', '=', '?', '/', '#']

/-- To check all octets is to check finitely many. -/
theorem forall_octet {p : UInt8 → Prop} (all : ∀ n < 256, p (UInt8.ofNat n)) (octet : UInt8) :
    p octet := by
  have here := all octet.toNat octet.toNat_lt
  rwa [UInt8.ofNat_toNat] at here

/-- An octet that stands as it is has one plain character, which is no mark. -/
theorem plain_of_stands (octet : UInt8) (stands : (isUnreserved octet || octet == 0x2C) = true) :
    octet.toNat < 128 ∧ Char.ofNat octet.toNat ∉ marks := by
  refine forall_octet (p := fun octet => (isUnreserved octet || octet == 0x2C) = true →
    octet.toNat < 128 ∧ Char.ofNat octet.toNat ∉ marks) ?_ octet stands
  decide +kernel

theorem not_mem_escapeOctet {mark : Char} (listed : mark ∈ marks) (other : mark ≠ '%')
    (octet : UInt8) : mark ∉ escapeOctet octet := by
  have digits : ∀ value < 16, hexDigit 'A' value ∉ marks := by decide
  have apart (n : Nat) : mark ≠ hexDigit 'A' (n % 16) := by
    rintro rfl
    exact digits (n % 16) (Nat.mod_lt n (by decide)) listed
  simp only [escapeOctet, hexDigits, List.nil_append, List.cons_append, List.mem_cons,
    List.not_mem_nil, or_false, not_or]
  exact ⟨other, apart _, apart _⟩

theorem unescape_escapeOctet (octet : UInt8) (rest : List Char) :
    unescape (escapeOctet octet ++ rest) = octet :: unescape rest := by
  have small : octet.toNat < 256 := octet.toNat_lt
  have digit (n : Nat) : hexValue? (hexDigit 'A' (n % 16)) = some (n % 16) :=
    hexValue?_hexDigit (by decide) (Nat.mod_lt n (by decide))
  have whole : octet.toNat / 16 % 16 * 16 + octet.toNat % 16 = octet.toNat := by omega
  simp only [escapeOctet, hexDigits, List.nil_append, List.cons_append]
  rw [unescape, digit, digit]
  dsimp only
  rw [whole, UInt8.ofNat_toNat]

theorem unescape_cons {c : Char} (other : c ≠ '%') (rest : List Char) :
    unescape (c :: rest) = String.utf8EncodeChar c ++ unescape rest := by
  rw [unescape]
  exact fun _ _ _ same _ => other same

/-- A plain character says the octet of its code. -/
theorem unescape_plain {octet : UInt8} (plain : octet.toNat < 128)
    (other : Char.ofNat octet.toNat ≠ '%') (rest : List Char) :
    unescape (Char.ofNat octet.toNat :: rest) = octet :: unescape rest := by
  have codes : ∀ n < 128, (Char.ofNat n).toNat = n := by decide
  have code := codes octet.toNat plain
  have small : (Char.ofNat octet.toNat).toNat < 128 := by rwa [code]
  have same : (Char.ofNat octet.toNat).val.toUInt8 = octet := by
    rw [← UInt8.toNat_inj, Utf8.toNat_octet_of_plain small, code]
  rw [unescape_cons other, Utf8.utf8EncodeChar_of_plain small, same, List.singleton_append]

/-! ## Segments -/

theorem not_mem_segment {mark : Char} (listed : mark ∈ marks) (other : mark ≠ '%')
    (octets : List UInt8) : mark ∉ segment octets := by
  rw [segment, List.mem_flatMap]
  rintro ⟨octet, -, there⟩
  split at there
  · rename_i stands
    have clear := (plain_of_stands octet (Bool.or_eq_true .. ▸ Or.inl stands)).2
    rw [List.mem_singleton] at there
    exact clear (there ▸ listed)
  · exact not_mem_escapeOctet listed other octet there

theorem unescape_segment (octets : List UInt8) : unescape (segment octets) = octets := by
  induction octets with
  | nil => rfl
  | cons octet octets ih =>
      rw [segment, List.flatMap_cons, ← segment]
      split
      · rename_i stands
        rcases plain_of_stands octet (Bool.or_eq_true .. ▸ Or.inl stands) with ⟨plain, clear⟩
        have other : Char.ofNat octet.toNat ≠ '%' := fun same => clear (same ▸ by decide)
        rw [List.singleton_append, unescape_plain plain other, ih]
      · rw [unescape_escapeOctet, ih]

/-- A segment of a path says its text. -/
theorem readSegment_segment (s : String) : readSegment (segment (octetsOf s)) = .ok s := by
  rw [readSegment, unescape_segment, octetsOf, Utf8.decode_encode]
  exact congrArg Except.ok String.ofList_toList

/-! ## Forms -/

theorem not_mem_formOctets {mark : Char} (listed : mark ∈ marks) (other : mark ≠ '%')
    (space : mark ≠ '+') (octets : List UInt8) : mark ∉ formOctets octets := by
  rw [formOctets, List.mem_flatMap]
  rintro ⟨octet, -, there⟩
  split at there
  · rename_i stands
    rw [List.mem_singleton] at there
    exact (plain_of_stands octet stands).2 (there ▸ listed)
  · split at there
    · exact space (List.mem_singleton.1 there)
    · exact not_mem_escapeOctet listed other octet there

theorem spaced_of_not_mem {s : List Char} (clear : '+' ∉ s) : spaced s = s := by
  rw [spaced, List.map_congr_left (g := id), List.map_id]
  intro c hc
  have other : c ≠ '+' := fun same => clear (same ▸ hc)
  exact if_neg fun same => other (beq_iff_eq.1 same)

theorem unescape_formOctets (octets : List UInt8) :
    unescape (spaced (formOctets octets)) = octets := by
  induction octets with
  | nil => rfl
  | cons octet octets ih =>
      rw [formOctets, List.flatMap_cons, ← formOctets, spaced, List.map_append, ← spaced, ← spaced]
      -- an octet stands as it is, or is a space, or is escaped; only a space is written as a plus sign
      split
      · rename_i stands
        rcases plain_of_stands octet stands with ⟨plain, clear⟩
        have other : Char.ofNat octet.toNat ≠ '%' := fun same => clear (same ▸ by decide)
        have sign : '+' ∉ [Char.ofNat octet.toNat] := by
          rw [List.mem_singleton]
          exact fun same => clear (same ▸ by decide)
        rw [spaced_of_not_mem sign, List.singleton_append, unescape_plain plain other, ih]
      · split
        · rename_i space
          have said : unescape (' ' :: spaced (formOctets octets)) =
              0x20 :: unescape (spaced (formOctets octets)) := unescape_cons (by decide) _
          rw [beq_iff_eq.1 space]
          exact said.trans (congrArg _ ih)
        · have sign : '+' ∉ escapeOctet octet := not_mem_escapeOctet (by decide) (by decide) octet
          rw [spaced_of_not_mem sign, unescape_escapeOctet, ih]

theorem readEntry_formOctets (s : String) : readEntry (formOctets (octetsOf s)) = .ok s := by
  rw [readEntry, readSegment, unescape_formOctets, octetsOf, Utf8.decode_encode]
  exact congrArg Except.ok String.ofList_toList

/-- A name and a value as a field of a form. -/
def fieldOf (field : String × String) : List Char :=
  formOctets (octetsOf field.1) ++ '=' :: formOctets (octetsOf field.2)

theorem form_eq (fields : List (String × String)) :
    form fields = ['&'].intercalate (fields.map fieldOf) := by
  rw [form, formOf, List.map_map]
  rfl

theorem readField_fieldOf (field : String × String) : readField (fieldOf field) = .ok field := by
  have clear : '=' ∉ formOctets (octetsOf field.1) :=
    not_mem_formOctets (by decide) (by decide) (by decide) _
  rw [readField, fieldOf, cut_append_cons clear]
  dsimp only [Option.getD_some]
  rw [readEntry_formOctets, readEntry_formOctets]
  rfl

theorem not_mem_fieldOf {mark : Char} (listed : mark ∈ marks) (other : mark ≠ '%')
    (space : mark ≠ '+') (sign : mark ≠ '=') (field : String × String) : mark ∉ fieldOf field := by
  rw [fieldOf, List.mem_append, List.mem_cons, not_or, not_or]
  exact ⟨not_mem_formOctets listed other space _, sign, not_mem_formOctets listed other space _⟩

/-- Each field of a form says its name and its value. -/
theorem mapM_readField (fields : List (String × String)) :
    (fields.map fieldOf).mapM readField = .ok fields := by
  induction fields with
  | nil => rfl
  | cons field fields ih =>
      rw [List.map_cons, List.mapM_cons, readField_fieldOf, ih]
      rfl

/-- A form says its names and values, all of them and in their order. -/
theorem readForm_form (fields : List (String × String)) : readForm (form fields) = .ok fields := by
  cases fields with
  | nil => rfl
  | cons field fields =>
      have clear : ∀ part ∈ (field :: fields).map fieldOf, '&' ∉ part := by
        refine List.forall_mem_map.2 fun field _ => ?_
        exact not_mem_fieldOf (by decide) (by decide) (by decide) (by decide) field
      have full : ∀ part ∈ (field :: fields).map fieldOf, (!part.isEmpty) = true := by
        refine List.forall_mem_map.2 fun field _ => ?_
        rw [fieldOf, Bool.not_eq_true', List.isEmpty_eq_false_iff]
        exact List.append_ne_nil_of_right_ne_nil _ nofun
      rw [readForm, form_eq, pieces_intercalate (List.map_cons .. ▸ List.cons_ne_nil _ _) clear,
        List.filter_eq_self.2 full, mapM_readField]

end DataGateway.Text.Percent
