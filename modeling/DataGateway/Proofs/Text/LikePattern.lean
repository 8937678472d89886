import DataGateway.Text.Case
import DataGateway.Text.LikePattern

/-!
# Meaning of LIKE patterns

What a pattern of the SQL operator `LIKE` matches, and that the pattern made from a text matches
exactly the texts that contain it.

* `Matches p s` — the pattern `p` matches the whole text `s`;
* `matches_containing` — the pattern of a text says containment, with or without folding of case;
* `foldCase_containing` — folding a pattern folds the text in it and nothing else.
-/

namespace DataGateway.Text

/-! ## Search -/

/-- Searching finds exactly the texts that are a part of another one. -/
theorem occursIn_iff {needle s : List Char} : occursIn needle s = true ↔ needle <:+: s := by
  induction s with
  | nil =>
      simp [occursIn]
  | cons c rest ih =>
      simp only [occursIn, Bool.or_eq_true, List.isPrefixOf_iff_prefix, ih]
      exact List.infix_cons_iff.symm

namespace LikePattern

/-! ## Matching -/

/-- A pattern matches a whole text. A backslash at the end of a pattern matches nothing. -/
inductive Matches : List Char → List Char → Prop where
  | nil : Matches [] []
  | any {p s : List Char} (skipped : List Char) : Matches p s → Matches ('%' :: p) (skipped ++ s)
  | one {p s : List Char} (c : Char) : Matches p s → Matches ('_' :: p) (c :: s)
  | escaped {p s : List Char} (c : Char) : Matches p s → Matches ('\\' :: c :: p) (c :: s)
  | literal {p s : List Char} {c : Char} :
      isSpecial c = false → Matches p s → Matches (c :: p) (c :: s)

theorem matches_nil_iff {s : List Char} : Matches [] s ↔ s = [] := by
  constructor
  · intro h
    cases h
    rfl
  · rintro rfl
    exact .nil

theorem matches_any_iff {p s : List Char} :
    Matches ('%' :: p) s ↔ ∃ skipped rest, s = skipped ++ rest ∧ Matches p rest := by
  constructor
  · intro h
    cases h with
    | any skipped h => exact ⟨skipped, _, rfl, h⟩
    | literal special _ => simp [isSpecial] at special
  · rintro ⟨skipped, rest, rfl, h⟩
    exact .any skipped h

/-- The escaped form of one character matches that character alone. -/
theorem matches_escape_cons_iff {c : Char} {p s : List Char} :
    Matches ((if isSpecial c then ['\\', c] else [c]) ++ p) s ↔
      ∃ rest, s = c :: rest ∧ Matches p rest := by
  cases hc : isSpecial c with
  | true =>
      constructor
      · intro h
        cases h with
        | escaped _ h => exact ⟨_, rfl, h⟩
        | literal special _ => simp [isSpecial] at special
      · rintro ⟨rest, rfl, h⟩
        exact .escaped c h
  | false =>
      constructor
      · intro h
        -- A character with a meaning of its own would have been escaped.
        cases h with
        | any => simp [isSpecial] at hc
        | one => simp [isSpecial] at hc
        | escaped => simp [isSpecial] at hc
        | literal _ h => exact ⟨_, rfl, h⟩
      · rintro ⟨rest, rfl, h⟩
        exact .literal hc h

theorem matches_escape_append_iff {t p s : List Char} :
    Matches (escape t ++ p) s ↔ ∃ rest, s = t ++ rest ∧ Matches p rest := by
  induction t generalizing s with
  | nil =>
      simp [escape]
  | cons c t ih =>
      have split : escape (c :: t) ++ p =
          (if isSpecial c then ['\\', c] else [c]) ++ (escape t ++ p) := by
        simp [escape]
      rw [split, matches_escape_cons_iff]
      constructor
      · rintro ⟨tail, rfl, h⟩
        rcases ih.1 h with ⟨rest, rfl, matched⟩
        exact ⟨rest, rfl, matched⟩
      · rintro ⟨rest, rfl, h⟩
        exact ⟨t ++ rest, rfl, ih.2 ⟨rest, rfl, h⟩⟩

/-- The pattern made from a text matches exactly the texts that contain it. -/
theorem matches_containing {t s : List Char} : Matches (containing t) s ↔ t <:+: s := by
  rw [containing, matches_any_iff]
  constructor
  · rintro ⟨before, tail, rfl, h⟩
    rcases matches_escape_append_iff.1 h with ⟨rest, rfl, matched⟩
    rcases matches_any_iff.1 matched with ⟨after, nothing, rfl, ended⟩
    have empty : nothing = [] := matches_nil_iff.1 ended
    exact ⟨before, after, by simp [empty]⟩
  · rintro ⟨before, after, rfl⟩
    have tail : Matches ['%'] after := matches_any_iff.2 ⟨after, [], by simp, .nil⟩
    exact ⟨before, t ++ after, by simp, matches_escape_append_iff.2 ⟨after, rfl, tail⟩⟩

/-! ## Folding -/

/-- A folding, character by character, that leaves the special characters alone and makes none of
them from another character. -/
structure KeepsSpecial (fold : Char → List Char) : Prop where
  fixes : ∀ c, isSpecial c = true → fold c = [c]
  avoids : ∀ c, isSpecial c = false → ∀ d ∈ fold c, isSpecial d = false

theorem escape_of_plain {s : List Char} (h : ∀ c ∈ s, isSpecial c = false) : escape s = s := by
  induction s with
  | nil => rfl
  | cons c s ih =>
      have rest : escape s = s := ih fun d hd => h d (List.mem_cons_of_mem c hd)
      simpa [escape, h c] using rest

theorem flatMap_escape {fold : Char → List Char} (keeps : KeepsSpecial fold) (s : List Char) :
    (escape s).flatMap fold = escape (s.flatMap fold) := by
  induction s with
  | nil => rfl
  | cons c s ih =>
      have backslash : fold '\\' = ['\\'] := keeps.fixes _ rfl
      have append : ∀ a b : List Char, escape (a ++ b) = escape a ++ escape b := fun a b => by
        simp [escape]
      have head : (if isSpecial c then ['\\', c] else [c]).flatMap fold = escape (fold c) := by
        cases hc : isSpecial c with
        | true => simp [escape, backslash, keeps.fixes c hc, hc]
        | false => simp [escape_of_plain (keeps.avoids c hc)]
      calc (escape (c :: s)).flatMap fold
          = (if isSpecial c then ['\\', c] else [c]).flatMap fold ++ (escape s).flatMap fold := by
            simp [escape]
        _ = escape (fold c) ++ escape (s.flatMap fold) := by rw [head, ih]
        _ = escape ((c :: s).flatMap fold) := by rw [List.flatMap_cons, append]

theorem flatMap_containing {fold : Char → List Char} (keeps : KeepsSpecial fold) (s : List Char) :
    (containing s).flatMap fold = containing (s.flatMap fold) := by
  have percent : fold '%' = ['%'] := keeps.fixes _ rfl
  simp [containing, percent, flatMap_escape keeps]

/-! ## Folding of case -/

/-- The code points of the special characters. -/
def specialCodes : List Int := [0x25, 0x5C, 0x5F]

theorem isSpecial_iff {c : Char} : isSpecial c = true ↔ (c.toNat : Int) ∈ specialCodes := by
  have code (d : Char) : c = d ↔ c.toNat = d.toNat := ⟨fun h => h ▸ rfl, Char.toNat_inj.1⟩
  simp only [isSpecial, specialCodes, Bool.or_eq_true, beq_iff_eq, code, List.mem_cons]
  simp
  omega

theorem mem_specialCodes_of_ofNat {n : Nat} (h : isSpecial (Char.ofNat n) = true) :
    (n : Int) ∈ specialCodes := by
  by_cases valid : n.isValidChar
  · have code : (Char.ofNat n).toNat = n := by
      rw [Char.ofNat, dif_pos valid]
      rfl
    exact code ▸ isSpecial_iff.1 h
  · have zero : Char.ofNat n = Char.ofNat 0 := dif_neg valid
    rw [zero] at h
    simp [isSpecial] at h

/-- No run of the folding table ends at a special character. -/
theorem foldMap_runs_avoid : ∀ run ∈ foldMap.runs, ∀ code ∈ specialCodes,
    code < run.first + run.offset ∨ run.last + run.offset < code := by
  decide +kernel

/-- No long mapping of the folding table has a special character in it. -/
theorem foldMap_long_avoid : ∀ mapping ∈ foldMap.long, ∀ code ∈ mapping.2,
    (code : Int) ∉ specialCodes := by
  decide +kernel

theorem foldMap_avoids {c : Char} (hc : isSpecial c = false) :
    ∀ d ∈ foldMap.apply c, isSpecial d = false := by
  intro d hd
  rw [Bool.eq_false_iff]
  intro special
  unfold CaseMap.apply at hd
  split at hd
  case h_1 codes found =>
      rcases List.mem_map.1 hd with ⟨code, hcode, rfl⟩
      rcases List.lookup_eq_some_iff.1 found with ⟨before, after, split, _⟩
      have mapping : (c.toNat, codes) ∈ foldMap.long := by
        rw [split]
        exact List.mem_append_right before (List.mem_cons_self ..)
      exact foldMap_long_avoid _ mapping code hcode (mem_specialCodes_of_ofNat special)
  case h_2 =>
      split at hd
      case h_1 run found =>
          rw [List.mem_singleton.1 hd] at special
          have moves := List.find?_some found
          have code := mem_specialCodes_of_ofNat special
          have avoid := foldMap_runs_avoid run (List.mem_of_find?_eq_some found) _ code
          simp only [CaseRun.moves, Bool.and_eq_true, decide_eq_true_eq] at moves
          -- A negative target is clipped to zero, which is no special code point.
          have positive : 0 < c.toNat + run.offset := by
            simp [specialCodes] at code
            omega
          omega
      case h_2 =>
          rw [List.mem_singleton.1 hd, hc] at special
          cases special

/-- Folding of case leaves the special characters alone. -/
theorem keepsSpecial_foldChar : KeepsSpecial foldChar where
  fixes c special := by
    have three : c = '\\' ∨ c = '%' ∨ c = '_' := by simpa [isSpecial, or_assoc] using special
    rcases three with rfl | rfl | rfl <;> rfl
  avoids c plain := by
    unfold foldChar
    split
    case isFalse => exact foldMap_avoids plain
    case isTrue small =>
        intro d hd
        rw [List.mem_singleton.1 hd]
        split
        case isFalse => exact plain
        case isTrue capital =>
            rw [Bool.eq_false_iff]
            intro special
            have code := mem_specialCodes_of_ofNat special
            simp only [Bool.and_eq_true, decide_eq_true_eq, Char.le_def, UInt32.le_iff_toNat_le] at capital
            simp [specialCodes] at code
            have lower : 65 ≤ c.toNat := capital.1
            have upper : c.toNat ≤ 90 := capital.2
            omega

theorem foldCase_containing (s : List Char) :
    foldCase (containing s) = containing (foldCase s) :=
  flatMap_containing keepsSpecial_foldChar s

end LikePattern

end DataGateway.Text
