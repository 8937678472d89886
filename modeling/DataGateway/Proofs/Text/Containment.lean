import DataGateway.Proofs.Text.LikePattern

/-!
# Containment by LIKE

The special characters of a text are escaped one kind after another, the backslash before the others, so
that no backslash is escaped that escaping has put there. The pattern made from a text matches exactly
the texts that contain it, and a text can be told from its escaped form.

* `escapeChar`, `escape_eq_escapeChar` — escaping in three rounds, one for each special character;
* `isComplete` — no backslash is left without a character behind it;
* `containment_by_like` — the law, with folding and without, and that escaping is injective.
-/

namespace DataGateway.Text.LikePattern

variable {c : Char} {p s t : List Char}

/-! ## Escaping in rounds -/

/-- Puts a backslash in front of every occurrence of a character. -/
def escapeChar (c : Char) (s : List Char) : List Char :=
  s.flatMap fun d => if d == c then ['\\', d] else [d]

theorem escapeChar_append (c : Char) (s t : List Char) :
    escapeChar c (s ++ t) = escapeChar c s ++ escapeChar c t := by
  simp [escapeChar]

/-- The backslashes of the first round are no percent signs and no underscores, so they stay single. -/
theorem escapeChar_cons (c : Char) (s : List Char) :
    escapeChar '_' (escapeChar '%' (escapeChar '\\' (c :: s))) =
      (if isSpecial c then ['\\', c] else [c]) ++ escapeChar '_' (escapeChar '%' (escapeChar '\\' s)) := by
  have rounds : escapeChar '_' (escapeChar '%' (escapeChar '\\' [c])) =
      if isSpecial c then ['\\', c] else [c] := by
    by_cases backslash : c = '\\'
    · subst backslash
      rfl
    by_cases percent : c = '%'
    · subst percent
      rfl
    by_cases underscore : c = '_'
    · subst underscore
      rfl
    · simp [escapeChar, isSpecial, backslash, percent, underscore]
  calc escapeChar '_' (escapeChar '%' (escapeChar '\\' (c :: s)))
      = escapeChar '_' (escapeChar '%' (escapeChar '\\' ([c] ++ s))) := rfl
    _ = escapeChar '_' (escapeChar '%' (escapeChar '\\' [c])) ++
          escapeChar '_' (escapeChar '%' (escapeChar '\\' s)) := by
      rw [escapeChar_append, escapeChar_append, escapeChar_append]
    _ = _ := by rw [rounds]

/-- Three rounds escape a text, when the round for the backslash comes first. -/
theorem escape_eq_escapeChar (s : List Char) :
    escape s = escapeChar '_' (escapeChar '%' (escapeChar '\\' s)) := by
  induction s with
  | nil => rfl
  | cons c s ih =>
      rw [escapeChar_cons, ← ih]
      rfl

/-- With the backslash in the last round the others would lose the backslash they have got. -/
example : escapeChar '\\' (escapeChar '_' (escapeChar '%' ['%'])) = ['\\', '\\', '%'] := rfl

/-! ## Complete patterns -/

/-- Has every backslash a character behind it that it stands for? -/
def isComplete : List Char → Bool
  | [] => true
  | '\\' :: rest =>
    match rest with
    | [] => false
    | _ :: rest => isComplete rest
  | _ :: rest => isComplete rest

theorem isComplete_cons (plain : c ≠ '\\') (p : List Char) : isComplete (c :: p) = isComplete p := by
  rw [isComplete]
  rintro rfl
  exact plain rfl

theorem isComplete_escape_append (t p : List Char) : isComplete (escape t ++ p) = isComplete p := by
  induction t with
  | nil => rfl
  | cons c t ih =>
      have split : escape (c :: t) ++ p =
          (if isSpecial c then ['\\', c] else [c]) ++ (escape t ++ p) := by
        simp [escape]
      rw [split]
      cases special : isSpecial c with
      | true => exact ih
      | false =>
          have plain : c ≠ '\\' := by
            rintro rfl
            cases special
          exact (isComplete_cons plain _).trans ih

theorem isComplete_containing (t : List Char) : isComplete (containing t) = true :=
  (isComplete_cons (by decide) _).trans (isComplete_escape_append t ['%'])

/-! ## Escaped texts -/

/-- Two texts with one escaped form contain each other. -/
theorem eq_of_escape_eq (same : escape s = escape t) : s = t := by
  have pattern : containing s = containing t := by rw [containing, containing, same]
  have within : t <:+: s := by
    have own : Matches (containing s) s := matches_containing.2 (List.infix_refl s)
    rw [pattern] at own
    exact matches_containing.1 own
  have around : s <:+: t := by
    have own : Matches (containing t) t := matches_containing.2 (List.infix_refl t)
    rw [← pattern] at own
    exact matches_containing.1 own
  exact around.eq_of_length (Nat.le_antisymm around.length_le within.length_le)

/-- The pattern of a text matches exactly the texts that contain it; so it does when pattern and text
are folded, by any folding that leaves the special characters alone. The pattern is complete, its text is
escaped in three rounds, and no two texts have one escaped form. -/
theorem containment_by_like :
    (∀ t s, Matches (containing t) s ↔ t <:+: s) ∧
      (∀ fold, KeepsSpecial fold → ∀ t s : List Char,
        Matches ((containing t).flatMap fold) (s.flatMap fold) ↔ t.flatMap fold <:+: s.flatMap fold) ∧
      (∀ t, isComplete (containing t) = true ∧
        containing t = '%' :: (escapeChar '_' (escapeChar '%' (escapeChar '\\' t)) ++ ['%'])) ∧
      Function.Injective escape := by
  refine ⟨fun t s => matches_containing, fun fold keeps t s => ?_, fun t => ⟨?_, ?_⟩, ?_⟩
  · rw [flatMap_containing keeps]
    exact matches_containing
  · exact isComplete_containing t
  · rw [containing, escape_eq_escapeChar]
  · intro s t same
    exact eq_of_escape_eq same

/-- The text of a sharp s contains that of two letters when both are folded, and a percent sign stands
for itself alone. -/
theorem containment_by_like_sharp : KeepsSpecial foldChar ∧
    Matches (foldCase (containing "SS_%".toList)) (foldCase "Maß_%!".toList) ∧
    ¬Matches (foldCase (containing "S%!".toList)) (foldCase "Maß_%!".toList) ∧
    Matches (foldCase (containing "S%".toList)) (foldCase "s%".toList) := by
  have law := containment_by_like.2.1 foldChar keepsSpecial_foldChar
  refine ⟨keepsSpecial_foldChar, (law _ _).2 ?_, fun matched => ?_, (law _ _).2 ?_⟩
  · exact occursIn_iff.1 (by decide +kernel)
  · have found := occursIn_iff.2 ((law _ _).1 matched)
    revert found
    decide +kernel
  · exact occursIn_iff.1 (by decide +kernel)

end DataGateway.Text.LikePattern
