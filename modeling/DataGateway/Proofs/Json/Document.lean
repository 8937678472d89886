import DataGateway.Proofs.Json.RoundTrip
import Mathlib.Tactic.ByContra

/-!
# Whole documents

A document is plain ASCII, whatever it says, and it is read back to the normal form of the value that it
was written for.

* `plain_encode` — a document has no characters but plain ones;
* `decode_encode` — it says the normal form of its value, if the value is representable;
* `decode_encode_error` — readers give up on every other document.
-/

namespace DataGateway.Json

open Numeral

/-- Are all characters of a text plain ones? -/
def Plain (s : List Char) : Prop := ∀ c ∈ s, c.toNat < 128

instance (s : List Char) : Decidable (Plain s) := List.decidableBAll _ s

theorem Plain.append {s t : List Char} (first : Plain s) (second : Plain t) : Plain (s ++ t) :=
  List.forall_mem_append.2 ⟨first, second⟩

theorem Plain.cons {c : Char} {s : List Char} (here : c.toNat < 128) (rest : Plain s) :
    Plain (c :: s) :=
  List.forall_mem_cons.2 ⟨here, rest⟩

theorem plain_nil : Plain [] := nofun

/-! ## Numbers -/

theorem plain_of_digits {digits : List Char} (plain : ∀ c ∈ digits, isDigit c = true) :
    Plain digits := by
  intro c member
  have bounds := toNat_of_isDigit (plain c member)
  omega

theorem plain_toDigits (n : Nat) : Plain (Nat.toDigits 10 n) :=
  plain_of_digits fun _ member => isDigit_of_mem_toDigits member

theorem plain_exponentText (e : Int) : Plain (exponentText e) := by
  rcases exists_exponentText e with ⟨digits, _, plain, _, same⟩
  rw [same]
  refine .cons ?_ (plain_of_digits plain)
  split <;> decide

theorem plain_layout {digits : List Char} (plain : Plain digits) (position : Int) :
    Plain (layout digits position) := by
  have zeros (count : Nat) : Plain (List.replicate count '0') := by
    intro c member
    rw [List.eq_of_mem_replicate member]
    decide
  have front (count : Nat) : Plain (digits.take count) :=
    fun c member => plain c (List.mem_of_mem_take member)
  have back (count : Nat) : Plain (digits.drop count) :=
    fun c member => plain c (List.mem_of_mem_drop member)
  unfold layout
  split_ifs with near before behind
  · exact Plain.append (by decide : Plain ['0', '.']) ((zeros _).append plain)
  · exact (plain.append (zeros _)).append (by decide)
  · exact (front _).append (.cons (by decide) (back _))
  · have fraction : Plain (if (digits.drop 1).isEmpty then [] else '.' :: digits.drop 1) := by
      split
      · exact plain_nil
      · exact .cons (by decide) (back 1)
    exact ((front 1).append fraction).append (.cons (by decide) (plain_exponentText _))

theorem plain_magnitude (m : Magnitude) : Plain m.text := by
  unfold Magnitude.text
  split
  · decide
  · rename_i some
    have leads := Decimal.leads_significant (Decimal.digits_shortest_ne_zero some)
    exact plain_layout (plain_of_digits leads.plain) _

theorem plain_encodeFloat (x : Binary64) : Plain (encodeFloat x) := by
  cases x with
  | nan origin => exact (by decide : Plain "NaN".toList)
  | infinity negative => cases negative <;> decide
  | finite negative m =>
      rw [encodeFloat_finite]
      split
      · exact .cons (by decide) (plain_magnitude m)
      · exact plain_magnitude m

theorem plain_int (n : Int) : Plain (toString n).toList := by
  rw [toList_int]
  split
  · exact .cons (by decide) (plain_toDigits _)
  · exact plain_toDigits _

/-! ## Lists and objects -/

theorem plain_of_blank {blanks : List Char} (blank : ∀ c ∈ blanks, isSpace c = true) :
    Plain blanks := by
  intro c member
  have space := blank c member
  simp only [isSpace, Bool.or_eq_true, beq_iff_eq] at space
  rcases space with ((rfl | rfl) | rfl) | rfl <;> decide

theorem plain_surround {layout : Layout} (blank : layout.IsBlank) (level : Nat) {left right : Char}
    {parts : List (List Char)} (opens : left.toNat < 128) (closes : right.toNat < 128)
    (plain : ∀ part ∈ parts, Plain part) : Plain (layout.surround level left right parts) := by
  rcases blank.separator level with ⟨blanks, separator, spaces⟩
  have between : Plain (layout.separator level) := by
    rw [separator]
    exact .cons (by decide) (plain_of_blank spaces)
  have inner : Plain (joined layout level parts) := by
    induction parts with
    | nil => exact plain_nil
    | cons part parts ih =>
        rcases List.forall_mem_cons.1 plain with ⟨first, others⟩
        by_cases last : parts = []
        · rw [last, joined_singleton]
          exact first
        · rw [joined_cons layout level part last]
          exact first.append (between.append (ih others))
  cases parts with
  | nil => exact .cons opens (.cons closes plain_nil)
  | cons part parts =>
      rw [← List.append_nil (layout.surround level left right (part :: parts)), surround_cons]
      exact .cons opens ((plain_of_blank (blank.opening level)).append (inner.append
        ((plain_of_blank (blank.closing level)).append (.cons closes plain_nil))))

/-! ## Values -/

variable {layout : Layout} {v w : Value}

mutual

theorem plain_encodeAt (blank : layout.IsBlank) (level : Nat) (v : Value) :
    Plain (encodeAt layout level v) := by
  cases v with
  | null => exact (by decide : Plain "null".toList)
  | bool b => exact (by decide : ∀ b : Bool, Plain (if b then "true" else "false").toList) b
  | int n => exact plain_int n
  | float x => exact plain_encodeFloat x
  | text s => exact plain_encodeText s
  | octets bytes => exact plain_encodeText _
  | entity kind mark fields => exact plain_encodeText _
  | list items =>
      have parts := plain_encodeItems blank (level + 1) items
      exact plain_surround blank (level + 1) (by decide) (by decide) parts
  | tuple items =>
      have parts := plain_encodeItems blank (level + 1) items
      exact plain_surround blank (level + 1) (by decide) (by decide) parts
  | object fields =>
      have parts := plain_encodeFields blank (level + 1) fields
      exact plain_surround blank (level + 1) (by decide) (by decide) parts

theorem plain_encodeItems (blank : layout.IsBlank) (level : Nat) (items : List Value) :
    ∀ part ∈ encodeItems layout level items, Plain part := by
  cases items with
  | nil => nofun
  | cons item items =>
      have first := plain_encodeAt blank level item
      have others := plain_encodeItems blank level items
      exact List.forall_mem_cons.2 ⟨first, others⟩

theorem plain_encodeFields (blank : layout.IsBlank) (level : Nat) (fields : List (String × Value)) :
    ∀ part ∈ encodeFields layout level fields, Plain part := by
  cases fields with
  | nil => nofun
  | cons field fields =>
      rcases field with ⟨name, v⟩
      have value := plain_encodeAt blank level v
      have first : Plain (encodeText name ++ ':' :: ' ' :: encodeAt layout level v) :=
        Plain.append (plain_encodeText name) (.cons (by decide) (.cons (by decide) value))
      have others := plain_encodeFields blank level fields
      exact List.forall_mem_cons.2 ⟨first, others⟩

end

/-- A document has no characters but plain ones. -/
theorem plain_encode (blank : layout.IsBlank) (v : Value) : Plain (encode layout v) :=
  plain_encodeAt blank 0 v

/-- What a reader makes of a whole document. -/
theorem reads_encode (blank : layout.IsBlank) (v : Value) : Reads (normalize v) [] (fits levelLimit v)
    (scanValue (2 * (encode layout v).length + 2) levelLimit (encode layout v)) := by
  have enough : 2 * (encodeAt layout 0 v).length ≤ 2 * (encode layout v).length + 2 + 1 := by
    rw [encode]
    omega
  have read := reads_encodeAt blank v 0 levelLimit _ [] endsNumber_nil enough
  rwa [List.append_nil] at read

theorem decode_eq (blank : layout.IsBlank) (v : Value) : decode (encode layout v) = (do
    let (w, rest) ← scanValue (2 * (encode layout v).length + 2) levelLimit (encode layout v)
    if (skip rest).isEmpty then return w else failAt .extra (skip rest)) := by
  have unmarked : ¬(encode layout v).head? = some (Char.ofNat 0xFEFF) := by
    intro first
    have plain := plain_encode blank v _ (List.mem_of_mem_head? first)
    exact absurd plain (by decide)
  have begins : Begins (encode layout v) := begins_encodeAt layout 0 v
  rw [decode, if_neg unmarked, begins.skip]

/-- A document says the normal form of the value that it was written for. -/
theorem decode_encode (blank : layout.IsBlank) (readable : Representable v) :
    decode (encode layout v) = .ok (normalize v) := by
  have read := reads_encode blank v
  have fit : fits levelLimit v = true := readable
  rw [fit] at read
  rw [decode_eq blank]
  generalize scanValue (2 * (encode layout v).length + 2) levelLimit (encode layout v) = result
    at read ⊢
  cases read
  rfl

/-- Readers give up on every other document, for its long numbers or its depth. -/
theorem decode_encode_error (blank : layout.IsBlank) (unreadable : ¬Representable v) :
    ∃ problem, decode (encode layout v) = .error problem ∧ problem.cause.IsLimit := by
  have read := reads_encode blank v
  have unfit : fits levelLimit v = false := Bool.eq_false_iff.2 unreadable
  rw [unfit] at read
  rw [decode_eq blank]
  generalize scanValue (2 * (encode layout v).length + 2) levelLimit (encode layout v) = result
    at read ⊢
  cases read with
  | gaveUp limit => exact ⟨_, rfl, limit⟩

/-- So a value is representable exactly when its document says something. -/
theorem representable_iff (blank : layout.IsBlank) :
    Representable v ↔ ∀ problem, decode (encode layout v) = .error problem →
      ¬problem.cause.IsLimit := by
  constructor
  · intro readable problem unread
    rw [decode_encode blank readable] at unread
    cases unread
  · intro within
    by_contra unreadable
    rcases decode_encode_error blank unreadable with ⟨problem, unread, limit⟩
    exact within problem unread limit

end DataGateway.Json
