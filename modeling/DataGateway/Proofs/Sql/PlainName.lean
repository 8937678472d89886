import DataGateway.Proofs.Sql.Reading
import DataGateway.Proofs.Value.Print

/-!
# Plain names

What the check of identifiers lets pass: plain names, and plain names with a line feed after them.

* `IsPlainName` — one word, or two with a dot between them;
* `isIdentifier_iff` — the texts that pass the check;
* `isPlainValue_of_passes_trim` — a name that was trimmed has no line feed after it.
-/

namespace DataGateway.Sql

open Text

/-! ## Words and names -/

/-- A letter or an underscore, then letters, digits and underscores. -/
def IsWord (s : List Char) : Prop :=
  ∃ c rest, s = c :: rest ∧ isWordStart c = true ∧ ∀ d ∈ rest, isWordPart d = true

/-- One word, or two with a dot between them. -/
def IsPlainName (s : List Char) : Prop :=
  IsWord s ∨ ∃ a b, IsWord a ∧ IsWord b ∧ s = a ++ '.' :: b

theorem IsWord.parts {s : List Char} (h : IsWord s) : ∀ c ∈ s, isWordPart c = true := by
  rcases h with ⟨c, rest, rfl, start, parts⟩
  intro d hd
  rcases List.mem_cons.1 hd with rfl | later
  · simp [isWordPart, start]
  · exact parts d later

/-- A plain name has no character but those of words and dots. -/
theorem IsPlainName.not_mem {s : List Char} (h : IsPlainName s) {c : Char} (other : c ≠ '.')
    (apart : isWordPart c = false) : c ∉ s := by
  have outside {word : List Char} (isWord : IsWord word) : c ∉ word := by
    intro there
    rw [isWord.parts c there] at apart
    cases apart
  rcases h with word | ⟨a, b, first, second, rfl⟩
  · exact outside word
  · intro there
    rcases List.mem_append.1 there with left | right
    · exact outside first left
    · exact (List.mem_cons.1 right).elim other (outside second)

theorem isWord_of_afterWord? {s rest : List Char} (h : afterWord? s = some rest) :
    ∃ word, IsWord word ∧ s = word ++ rest := by
  rcases afterWord?_eq_some h with ⟨c, word, rfl, start, parts⟩
  exact ⟨c :: word, ⟨c, word, rfl, start, parts⟩, rfl⟩

theorem IsWord.afterWord? {word rest : List Char} (h : IsWord word)
    (ended : ∀ c ∈ rest.head?, isWordPart c = false) : Sql.afterWord? (word ++ rest) = some rest := by
  rcases h with ⟨c, word, rfl, start, parts⟩
  have stop : rest.dropWhile isWordPart = rest := by
    cases rest with
    | nil => rfl
    | cons d rest => simp [ended d rfl]
  simp [Sql.afterWord?, start, List.dropWhile_append_of_pos parts, stop]

/-! ## The check -/

/-- What may follow a name: nothing, or a line feed. -/
def IsEnding (rest : List Char) : Prop := rest = [] ∨ rest = ['\n']

theorem isEnding_iff {rest : List Char} :
    (rest.isEmpty || rest == ['\n']) = true ↔ IsEnding rest := by
  simp [IsEnding]

theorem isPlainName_of_isIdentifier {s : List Char} (valid : isIdentifier s = true) :
    ∃ name rest, IsPlainName name ∧ IsEnding rest ∧ s = name ++ rest := by
  unfold isIdentifier at valid
  split at valid
  · cases valid
  · rename_i rest first
    rcases isWord_of_afterWord? first with ⟨a, isWord, rfl⟩
    split at valid
    · rename_i last second
      rcases isWord_of_afterWord? second with ⟨b, other, rfl⟩
      exact ⟨a ++ '.' :: b, last, .inr ⟨a, b, isWord, other, rfl⟩, isEnding_iff.1 valid, by simp⟩
    · cases valid
  · rename_i rest _ first
    rcases isWord_of_afterWord? first with ⟨a, isWord, rfl⟩
    exact ⟨a, rest, .inl isWord, isEnding_iff.1 valid, rfl⟩

theorem isIdentifier_of_isPlainName {name rest : List Char} (plain : IsPlainName name)
    (ending : IsEnding rest) : isIdentifier (name ++ rest) = true := by
  have ended : ∀ c ∈ rest.head?, isWordPart c = false := by
    intro c first
    rcases ending with rfl | rfl
    · cases first
    · cases first
      rfl
  rcases plain with word | ⟨a, b, first, second, rfl⟩
  · have after := word.afterWord? ended
    unfold isIdentifier
    rw [after]
    rcases ending with rfl | rfl <;> rfl
  · have dotted : Sql.afterWord? (a ++ '.' :: (b ++ rest)) = some ('.' :: (b ++ rest)) :=
      first.afterWord? (by simp [isWordPart, isWordStart])
    simp [isIdentifier, dotted, second.afterWord? ended, isEnding_iff.2 ending]

/-- The check lets plain names pass, and plain names with a line feed after them. -/
theorem isIdentifier_iff {s : List Char} :
    isIdentifier s = true ↔ ∃ name rest, IsPlainName name ∧ IsEnding rest ∧ s = name ++ rest := by
  constructor
  · exact isPlainName_of_isIdentifier
  · rintro ⟨name, rest, plain, ending, rfl⟩
    exact isIdentifier_of_isPlainName plain ending

/-! ## Names as they are given -/

/-- The value is a plain name. -/
def IsPlainValue (v : Value) : Prop := ∃ s, v = .text s ∧ IsPlainName s.toList

/-- The value is a plain name, or one with a line feed after it. -/
def Passes (v : Value) : Prop :=
  ∃ s name rest, v = .text s ∧ IsPlainName name ∧ IsEnding rest ∧ s.toList = name ++ rest

/-- The value of a name. -/
def Identifier.value (name : Identifier) : Value := .text name.text

theorem Identifier.passes (name : Identifier) : Passes name.value := by
  rcases isIdentifier_iff.1 name.valid with ⟨plain, rest, isPlain, ending, whole⟩
  exact ⟨name.text, plain, rest, rfl, isPlain, ending, whole⟩

theorem Identifier.ofValue_eq_ok {v : Value} {name : Identifier} (h : Identifier.ofValue v = .ok name) :
    v = name.value := by
  cases v with
  | text s => exact congrArg Value.text (Identifier.ofName_eq_ok h)
  | _ => nomatch (Value.refuse_eq _ _).symm.trans h

/-- A character that stands in no name keeps a text from passing. -/
theorem not_passes {s : String} {c : Char} (there : c ∈ s.toList) (other : c ≠ '.') (feed : c ≠ '\n')
    (apart : isWordPart c = false) : ¬Passes (.text s) := by
  rintro ⟨_, name, rest, same, plain, ending, whole⟩
  cases same
  rw [whole] at there
  rcases List.mem_append.1 there with own | after
  · exact plain.not_mem other apart own
  · rcases ending with rfl | rfl
    · cases after
    · exact feed (List.mem_singleton.1 after)

/-! ## Trimmed names -/

theorem skip_getLast?_trimBy {α : Type} (skip : α → Bool) (s : List α) :
    ∀ c ∈ (trimBy skip s).getLast?, skip c = false := by
  intro c last
  rw [trimBy, List.getLast?_reverse] at last
  have first := List.head?_dropWhile_not skip (s.dropWhile skip).reverse
  rw [last] at first
  exact first

/-- A name without blanks around it that passes is a plain one. -/
theorem isPlainValue_of_passes_trim {s : String} (h : Passes (.text (trim s))) :
    IsPlainValue (.text (trim s)) := by
  rcases h with ⟨_, name, rest, same, plain, ending, whole⟩
  cases same
  rcases ending with rfl | rfl
  · exact ⟨_, rfl, by simpa [whole] using plain⟩
  · -- a line feed is a blank, and a text that was trimmed ends in none
    have blank := skip_getLast?_trimBy isBlank s.toList '\n' (by
      have read : (trim s).toList = trimBy isBlank s.toList := by simp [trim]
      rw [← read, whole]
      simp)
    cases blank

end DataGateway.Sql
