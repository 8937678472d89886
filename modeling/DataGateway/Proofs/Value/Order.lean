import DataGateway.Proofs.Value.Equality

/-!
# Order of values

Numbers, texts and octets have an order, and lists and tuples have one by the first place in which they
differ. Some pairs cannot be ordered at all; wherever an order is found it is one, although it looks
at equality for the places and at the order for the items.

* `Relation.turn` — a relation as it is seen from the other side;
* `Value.Stands` — how two values stand to each other, by their kinds;
* `Value.WellNamed.relate_turn`, `Value.WellNamed.relate_congr`, `Value.WellNamed.relate_trans` — the
  order is the same from both sides, does not tell equal values apart, and goes on upwards;
* `Value.WellNamed.same_of_relate`, `Value.relate_of_looseEq` — it stands still at equal values and only
  there.
-/

namespace DataGateway

/-! ## Relations -/

namespace Relation

/-- A relation as it is seen from the other side. -/
def turn : Relation → Relation
  | less => greater
  | greater => less
  | relation => relation

@[simp]
theorem turn_turn (r : Relation) : r.turn.turn = r := by cases r <;> rfl

section Order

variable {α : Type} [LT α] [DecidableLT α] [DecidableEq α] {a b c : α}

theorem ofOrder_eq_same [Std.Asymm (α := α) (· < ·)] : ofOrder a b = .same ↔ a = b := by
  unfold ofOrder
  constructor
  · intro same
    split at same
    · cases same
    · split at same
      · assumption
      · cases same
  · rintro rfl
    rw [if_neg (Std.Irrefl.irrefl a), if_pos rfl]

variable [Std.Asymm (α := α) (· < ·)] [Std.Trichotomous (α := α) (· < ·)]

theorem ofOrder_eq_greater : ofOrder a b = .greater ↔ b < a := by
  unfold ofOrder
  constructor
  · intro greater
    split at greater
    · cases greater
    · split at greater
      · cases greater
      · rename_i least other
        by_contra most
        exact other (Std.Trichotomous.trichotomous a b least most)
  · intro less
    have other : a ≠ b := by
      rintro rfl
      exact Std.Irrefl.irrefl a less
    rw [if_neg (Std.Asymm.asymm b a less), if_neg other]

theorem ofOrder_turn (a b : α) : ofOrder b a = (ofOrder a b).turn := by
  by_cases less : a < b
  · have greater : ofOrder b a = .greater := ofOrder_eq_greater.2 less
    rw [greater, ofOrder, if_pos less]
    rfl
  · by_cases same : a = b
    · rw [ofOrder_eq_same.2 same, ofOrder_eq_same.2 same.symm]
      rfl
    · have more : b < a := by
        by_contra most
        exact same (Std.Trichotomous.trichotomous a b less most)
      rw [ofOrder_eq_greater.2 more, ofOrder, if_pos more]
      rfl

theorem ofOrder_trans [Trans (α := α) (· < ·) (· < ·) (· < ·)] (first : ofOrder a b = .greater)
    (second : ofOrder b c = .greater) : ofOrder a c = .greater := by
  rw [ofOrder_eq_greater] at first second ⊢
  exact Trans.trans second first

end Order

end Relation

namespace Quantity

variable {x y z : Quantity}

theorem relate_turn (x y : Quantity) : y.relate x = (x.relate y).turn := by
  cases x <;> cases y <;> first | rfl | exact Relation.ofOrder_turn ..

theorem relate_trans (first : x.relate y = .greater) (second : y.relate z = .greater) :
    x.relate z = .greater := by
  cases y with
  | units n =>
      cases x with
      | units m =>
          cases z with
          | units k => exact Relation.ofOrder_trans first second
          | lowest => rfl
          | _ => cases second
      | highest =>
          cases z with
          | units _ | lowest => rfl
          | _ => cases second
      | _ => cases first
  | lowest => cases z <;> cases second
  | highest => cases x <;> cases first
  | indefinite => cases second

end Quantity

namespace Value

variable {a b c : Value} {r : Relation}

/-! ## How values stand -/

/-- How two values stand to each other: numbers by their places, texts and octets by what they spell,
lists and tuples by their items. -/
inductive Stands : Value → Value → Relation → Prop
  | number {a b : Value} {x y : Quantity} {r : Relation} :
      a.quantity? = some x → b.quantity? = some y → x.relate y = r → Stands a b r
  | text {s t : String} {r : Relation} : .ofOrder s t = r → Stands (.text s) (.text t) r
  | octets {s t : List UInt8} {r : Relation} : .ofOrder s t = r → Stands (.octets s) (.octets t) r
  | list {xs ys : List Value} {r : Relation} :
      relateAll xs ys = .ok r → Stands (.list xs) (.list ys) r
  | tuple {xs ys : List Value} {r : Relation} :
      relateAll xs ys = .ok r → Stands (.tuple xs) (.tuple ys) r

theorem stands_of_plainRelate (found : plainRelate a b = .ok r) : Stands a b r := by
  unfold plainRelate at found
  split at found
  · rename_i x y first second
    cases found
    exact .number first second rfl
  · split at found
    · cases found
      exact .text rfl
    · cases found
      exact .octets rfl
    · cases found

theorem relate_eq_ok_iff : a.relate b = .ok r ↔ Stands a b r := by
  constructor
  · intro found
    unfold relate at found
    split at found
    · split at found
      · exact .list found
      · cases found
    · split at found
      · exact .tuple found
      · cases found
    · exact stands_of_plainRelate found
  · intro stands
    cases stands with
    | number first second related =>
        -- what has a place among the numbers is neither a list nor a tuple
        cases a with
        | bool _ | int _ | float _ => simp [relate, plainRelate, first, second, related]
        | _ => cases first
    | text related => simp [relate, plainRelate, quantity?, whole?, related]
    | octets related => simp [relate, plainRelate, quantity?, whole?, related]
    | list related => simpa [relate] using related
    | tuple related => simpa [relate] using related

theorem relate_list_iff {items : List Value} : (list items).relate b = .ok r ↔
    ∃ others, b = .list others ∧ relateAll items others = .ok r := by
  rw [relate_eq_ok_iff]
  constructor
  · intro stands
    cases stands with
    | number place _ _ => cases place
    | list related => exact ⟨_, rfl, related⟩
  · rintro ⟨others, rfl, related⟩
    exact .list related

theorem relate_tuple_iff {items : List Value} : (tuple items).relate b = .ok r ↔
    ∃ others, b = .tuple others ∧ relateAll items others = .ok r := by
  rw [relate_eq_ok_iff]
  constructor
  · intro stands
    cases stands with
    | number place _ _ => cases place
    | tuple related => exact ⟨_, rfl, related⟩
  · rintro ⟨others, rfl, related⟩
    exact .tuple related

/-- Objects have no order. -/
theorem not_relate_object {fields : Record} : (object fields).relate b ≠ .ok r := by
  rw [ne_eq, relate_eq_ok_iff]
  intro stands
  cases stands with
  | number place _ _ => cases place

/-- Entities have no order. -/
theorem not_relate_entity {kind : EntityKind} {mark : Nat} {members : Record} :
    (entity kind mark members).relate b ≠ .ok r := by
  rw [ne_eq, relate_eq_ok_iff]
  intro stands
  cases stands with
  | number place _ _ => cases place

theorem relateAll_cons (x y : Value) (xs ys : List Value) :
    relateAll (x :: xs) (y :: ys) = if x.same y then relateAll xs ys else x.relate y := by
  rw [relateAll]

/-- Items that are the same things one by one leave nothing to differ in. -/
theorem relateAll_of_same {xs ys : List Value}
    (alike : List.Forall₂ (fun x y => x.same y = true) xs ys) : relateAll xs ys = .ok .same := by
  induction alike with
  | nil => rfl
  | cons same _ ih => rw [relateAll_cons, if_pos same, ih]

/-! ## Equal values -/

/-- Numbers that are the same thing stand in one place. -/
theorem quantity?_of_same {x : Quantity} (alike : a.same b = true) (place : a.quantity? = some x) :
    b.quantity? = some x := by
  by_cases definite : x = .indefinite
  · -- only an indefinite number has no place, and what is the same thing has its origin
    rw [definite] at place ⊢
    cases a with
    | float f =>
        cases f with
        | nan origin =>
            have forms : Form.indefinite origin = b.form := (same_iff_form_of_isPlain rfl b).1 alike
            cases b with
            | float g =>
                cases g with
                | nan _ => rfl
                | _ => cases forms
            | entity kind _ _ => cases kind <;> cases forms
            | _ => cases forms
        | infinity negative => cases negative <;> cases place
        | finite _ _ => cases place
    | _ => cases place
  · have number : a.form = .number x := form_of_place place definite
    have forms : a.form = b.form := (same_iff_form_of_number number).1 alike
    exact (place_of_form (forms ▸ number)).1

theorem same_octets_iff {bytes : List UInt8} : (octets bytes).same b = true ↔ b = .octets bytes := by
  cases b with
  | octets others => simp [same, plainSame, quantity?, whole?, @eq_comm _ bytes]
  | _ => simp [same, plainSame, quantity?, whole?]

/-- Values that are the same thing stand nowhere else, if they have an order. -/
theorem relate_of_same (alike : a.same b = true) (found : a.relate b = .ok r) :
    r = .same ∨ r = .unordered := by
  cases relate_eq_ok_iff.1 found with
  | @number _ _ x y _ first second related =>
      have place : b.quantity? = some x := quantity?_of_same alike first
      rw [second, Option.some.injEq] at place
      rw [← related, place]
      by_cases definite : x = .indefinite
      · rw [definite]
        exact .inr rfl
      · exact .inl (relate_eq_same_iff.2 ⟨rfl, definite⟩)
  | text related =>
      cases same_text_iff.1 alike
      exact .inl (related.symm.trans (Relation.ofOrder_eq_same.2 rfl))
  | octets related =>
      cases same_octets_iff.1 alike
      exact .inl (related.symm.trans (Relation.ofOrder_eq_same.2 rfl))
  | list related =>
      rcases same_list_iff.1 alike with ⟨ys, same, parts⟩
      cases same
      rw [relateAll_of_same parts] at related
      cases related
      exact .inl rfl
  | tuple related =>
      rcases same_tuple_iff.1 alike with ⟨ys, same, parts⟩
      cases same
      rw [relateAll_of_same parts] at related
      cases related
      exact .inl rfl

/-- Has a value of its kind an order? -/
def hasOrder : Value → Bool
  | null | object _ | entity .. => false
  | _ => true

/-- Equal values stand at the same place, if their kind has an order. -/
theorem relate_of_looseEq (ordered : a.hasOrder = true) (equal : a.looseEq b = true) :
    a.relate b = .ok .same := by
  rw [looseEq, Bool.and_eq_true, Bool.not_eq_true'] at equal
  rcases equal with ⟨definite, alike⟩
  -- numbers of all kinds are one case
  have number {x : Quantity} (place : a.quantity? = some x) (known : x ≠ .indefinite) :
      a.relate b = .ok .same :=
    relate_eq_ok_iff.2
      (.number place (quantity?_of_same alike place) (relate_eq_same_iff.2 ⟨rfl, known⟩))
  have counted (n : Int) : Quantity.units n ≠ .indefinite := by
    intro same
    cases same
  cases a with
  | bool _ | int _ => exact number rfl (counted _)
  | float f =>
      cases f with
      | nan origin => cases definite
      | infinity negative =>
          cases negative with
          | false => exact number rfl (by decide : Quantity.highest ≠ .indefinite)
          | true => exact number rfl (by decide : Quantity.lowest ≠ .indefinite)
      | finite negative magnitude => exact number rfl (counted _)
  | text s =>
      cases b with
      | text t =>
          cases same_text_iff.1 alike
          exact relate_eq_ok_iff.2 (.text (Relation.ofOrder_eq_same.2 rfl))
      | _ => simp [same, plainSame, quantity?, whole?] at alike
  | octets bytes =>
      cases same_octets_iff.1 alike
      exact relate_eq_ok_iff.2 (.octets (Relation.ofOrder_eq_same.2 rfl))
  | list items =>
      rcases same_list_iff.1 alike with ⟨others, rfl, parts⟩
      exact relate_list_iff.2 ⟨others, rfl, relateAll_of_same parts⟩
  | tuple items =>
      rcases same_tuple_iff.1 alike with ⟨others, rfl, parts⟩
      exact relate_tuple_iff.2 ⟨others, rfl, relateAll_of_same parts⟩
  | _ => cases ordered

theorem ne_same_of_greater (found : a.relate b = .ok .greater) : a.same b = false := by
  rw [← Bool.not_eq_true]
  intro alike
  rcases relate_of_same alike found with same | unordered
  · cases same
  · cases unordered

/-! ## Items -/

section Items

variable {xs ys zs : List Value}

/-- Items that stand still are the same things, if it is so of each. -/
theorem forall₂_of_relateAll
    (items : ∀ x ∈ xs, ∀ y, x.relate y = .ok .same → x.same y = true)
    (found : relateAll xs ys = .ok .same) : List.Forall₂ (fun x y => x.same y = true) xs ys := by
  induction xs generalizing ys with
  | nil =>
      cases ys with
      | nil => exact .nil
      | cons y ys => cases found
  | cons x xs ih =>
      rw [List.forall_mem_cons] at items
      cases ys with
      | nil => cases found
      | cons y ys =>
          rw [relateAll_cons] at found
          split at found
          · rename_i same
            exact .cons same (ih items.2 found)
          · rename_i other
            exact absurd (items.1 y found) other

/-- Items stand the other way round from the other side, if it is so of each. -/
theorem relateAll_turn (alike : ∀ x ∈ xs, ∀ y ∈ ys, x.same y = y.same x)
    (items : ∀ x ∈ xs, ∀ y ∈ ys, ∀ r, x.relate y = .ok r → y.relate x = .ok r.turn)
    (found : relateAll xs ys = .ok r) : relateAll ys xs = .ok r.turn := by
  induction xs generalizing ys with
  | nil =>
      cases ys <;> cases found <;> rfl
  | cons x xs ih =>
      cases ys with
      | nil =>
          cases found
          rfl
      | cons y ys =>
          simp only [List.forall_mem_cons] at alike items
          rw [relateAll_cons] at found ⊢
          rw [← alike.1.1]
          split at found
          · rename_i same
            rw [if_pos same]
            exact ih (fun x member => (alike.2 x member).2) (fun x member => (items.2 x member).2) found
          · rename_i other
            rw [if_neg other]
            exact items.1.1 r found

/-- Items stand to the same things as they do, if it is so of each. -/
theorem relateAll_congr (alike : List.Forall₂ (fun y z => y.same z = true) ys zs)
    (told : ∀ x ∈ xs, ∀ y ∈ ys, ∀ z ∈ zs, y.same z = true → x.same y = x.same z)
    (items : ∀ x ∈ xs, ∀ y ∈ ys, ∀ z ∈ zs, y.same z = true →
      ∀ r, x.relate y = .ok r → x.relate z = .ok r)
    (found : relateAll xs ys = .ok r) : relateAll xs zs = .ok r := by
  induction alike generalizing xs with
  | nil => exact found
  | @cons y z ys zs same alike ih =>
      cases xs with
      | nil => exact found
      | cons x xs =>
          simp only [List.forall_mem_cons] at told items
          have first : x.same y = x.same z := told.1.1.1 same
          rw [relateAll_cons] at found ⊢
          rw [← first]
          split at found
          · rename_i equal
            rw [if_pos equal]
            exact ih (fun x member y there => ((told.2 x member).2 y there).2)
              (fun x member y there => ((items.2 x member).2 y there).2) found
          · rename_i other
            rw [if_neg other]
            exact items.1.1.1 same r found

end Items

/-! ## The order -/

namespace WellNamed

theorem same_comm (first : WellNamed a) (second : WellNamed b) : a.same b = b.same a :=
  Bool.eq_iff_iff.2 ⟨first.same_symm second, second.same_symm first⟩

/-- Values that are the same thing are not told apart by any other. -/
theorem same_congr (named : WellNamed a) (first : WellNamed b) (second : WellNamed c)
    (alike : b.same c = true) : a.same b = a.same c := by
  rw [Bool.eq_iff_iff]
  constructor
  · exact fun same => named.same_trans same alike
  · exact fun same => named.same_trans same (first.same_symm second alike)

/-- Values that stand at the same place are the same thing. -/
theorem same_of_relate (named : WellNamed a) (found : a.relate b = .ok .same) : a.same b = true := by
  -- induction on the first value, whose items are looked at one by one
  induction named generalizing b with
  | plain nothing =>
      cases relate_eq_ok_iff.1 found with
      | number first second related =>
          rcases relate_eq_same_iff.1 related with ⟨rfl, definite⟩
          refine (same_iff_form_of_isPlain nothing _).2 ?_
          rw [form_of_place first definite, form_of_place second definite]
      | text related => rw [Relation.ofOrder_eq_same.1 related, same_text_iff]
      | octets related =>
          refine (same_iff_form_of_isPlain nothing _).2 ?_
          rw [Relation.ofOrder_eq_same.1 related]
      | list _ => cases nothing
      | tuple _ => cases nothing
  | list _ ih =>
      rcases relate_list_iff.1 found with ⟨others, rfl, related⟩
      have parts := forall₂_of_relateAll (fun x here _ => ih x here) related
      exact same_list_iff.2 ⟨others, rfl, parts⟩
  | tuple _ ih =>
      rcases relate_tuple_iff.1 found with ⟨others, rfl, related⟩
      have parts := forall₂_of_relateAll (fun x here _ => ih x here) related
      exact same_tuple_iff.2 ⟨others, rfl, parts⟩
  | object _ _ _ => exact absurd found not_relate_object
  | condition _ _ => exact absurd found not_relate_entity

/-- The order is the same one from both sides. -/
theorem relate_turn (first : WellNamed a) (second : WellNamed b) (found : a.relate b = .ok r) :
    b.relate a = .ok r.turn := by
  induction first generalizing b r with
  | plain nothing =>
      rw [relate_eq_ok_iff] at found ⊢
      cases found with
      | number one two related => exact .number two one (related ▸ Quantity.relate_turn ..)
      | text related => exact .text (related ▸ Relation.ofOrder_turn ..)
      | octets related => exact .octets (related ▸ Relation.ofOrder_turn ..)
      | list _ => cases nothing
      | tuple _ => cases nothing
  | list named ih =>
      rcases relate_list_iff.1 found with ⟨others, rfl, related⟩
      refine relate_list_iff.2 ⟨_, rfl, relateAll_turn ?_ ?_ related⟩
      · exact fun x here y there => (named x here).same_comm (second.items y there)
      · exact fun x here y there _ => ih x here (second.items y there)
  | tuple named ih =>
      rcases relate_tuple_iff.1 found with ⟨others, rfl, related⟩
      refine relate_tuple_iff.2 ⟨_, rfl, relateAll_turn ?_ ?_ related⟩
      · exact fun x here y there => (named x here).same_comm (second.tupleItems y there)
      · exact fun x here y there _ => ih x here (second.tupleItems y there)
  | object _ _ _ => exact absurd found not_relate_object
  | condition _ _ => exact absurd found not_relate_entity

theorem relate_turn_iff (first : WellNamed a) (second : WellNamed b) :
    b.relate a = .ok r.turn ↔ a.relate b = .ok r := by
  constructor
  · intro found
    have back := second.relate_turn first found
    rwa [Relation.turn_turn] at back
  · exact first.relate_turn second

/-- Values that are the same thing stand the same way to any other. -/
theorem relate_congr (named : WellNamed a) (first : WellNamed b) (second : WellNamed c)
    (alike : b.same c = true) (found : a.relate b = .ok r) : a.relate c = .ok r := by
  induction named generalizing b c r with
  | plain nothing =>
      rw [relate_eq_ok_iff] at found ⊢
      cases found with
      | number one two related => exact .number one (quantity?_of_same alike two) related
      | text related =>
          cases same_text_iff.1 (first.same_symm second alike)
          exact .text related
      | octets related =>
          cases same_octets_iff.1 alike
          exact .octets related
      | list _ => cases nothing
      | tuple _ => cases nothing
  | list members ih =>
      rcases relate_list_iff.1 found with ⟨ys, rfl, related⟩
      rcases same_list_iff.1 alike with ⟨zs, rfl, parts⟩
      refine relate_list_iff.2 ⟨zs, rfl, relateAll_congr parts ?_ ?_ related⟩
      · exact fun x here y there z last =>
          (members x here).same_congr (first.items y there) (second.items z last)
      · exact fun x here y there z last same _ =>
          ih x here (first.items y there) (second.items z last) same
  | tuple members ih =>
      rcases relate_tuple_iff.1 found with ⟨ys, rfl, related⟩
      rcases same_tuple_iff.1 alike with ⟨zs, rfl, parts⟩
      refine relate_tuple_iff.2 ⟨zs, rfl, relateAll_congr parts ?_ ?_ related⟩
      · exact fun x here y there z last =>
          (members x here).same_congr (first.tupleItems y there) (second.tupleItems z last)
      · exact fun x here y there z last same _ =>
          ih x here (first.tupleItems y there) (second.tupleItems z last) same
  | object _ _ _ => exact absurd found not_relate_object
  | condition _ _ => exact absurd found not_relate_entity

theorem relate_congr_left (first : WellNamed a) (second : WellNamed b) (named : WellNamed c)
    (alike : a.same b = true) (found : a.relate c = .ok r) : b.relate c = .ok r := by
  have turned : c.relate b = .ok r.turn :=
    named.relate_congr first second alike (first.relate_turn named found)
  exact (second.relate_turn_iff named).1 turned

/-- Items go on upwards, if each of the first ones does. -/
theorem relateAll_trans {xs ys zs : List Value} (first : ∀ x ∈ xs, WellNamed x)
    (second : ∀ y ∈ ys, WellNamed y) (third : ∀ z ∈ zs, WellNamed z)
    (items : ∀ x ∈ xs, ∀ y ∈ ys, ∀ z ∈ zs, x.relate y = .ok .greater → y.relate z = .ok .greater →
      x.relate z = .ok .greater)
    (above : relateAll xs ys = .ok .greater) (beyond : relateAll ys zs = .ok .greater) :
    relateAll xs zs = .ok .greater := by
  induction xs generalizing ys zs with
  | nil => cases ys <;> cases above
  | cons x xs ih =>
      cases ys with
      | nil => cases zs <;> cases beyond
      | cons y ys =>
          cases zs with
          | nil => rfl
          | cons z zs =>
              simp only [List.forall_mem_cons] at first second third items
              rw [relateAll_cons] at above beyond ⊢
              -- which of the heads are the same thing decides where the lists differ first
              cases one : x.same y with
              | true =>
                  have both : x.same z = y.same z := by
                    rw [first.1.same_comm third.1, second.1.same_comm third.1]
                    exact third.1.same_congr first.1 second.1 one
                  rw [if_pos one] at above
                  cases two : y.same z with
                  | true =>
                      rw [if_pos two] at beyond
                      rw [if_pos (both.trans two)]
                      exact ih first.2 second.2 third.2
                        (fun x here y there z last => ((items.2 x here).2 y there).2 z last)
                        above beyond
                  | false =>
                      rw [two, if_neg nofun] at beyond
                      rw [both, two, if_neg nofun]
                      exact second.1.relate_congr_left first.1 third.1
                        (first.1.same_symm second.1 one) beyond
              | false =>
                  rw [one, if_neg nofun] at above
                  cases two : y.same z with
                  | true =>
                      have both : x.same z = false :=
                        (first.1.same_congr second.1 third.1 two).symm.trans one
                      rw [both, if_neg nofun]
                      exact first.1.relate_congr second.1 third.1 two above
                  | false =>
                      rw [two, if_neg nofun] at beyond
                      have greater := items.1.1.1 above beyond
                      rw [ne_same_of_greater greater, if_neg nofun]
                      exact greater

/-- The order goes on upwards. -/
theorem relate_trans (first : WellNamed a) (second : WellNamed b) (third : WellNamed c)
    (above : a.relate b = .ok .greater) (beyond : b.relate c = .ok .greater) :
    a.relate c = .ok .greater := by
  induction first generalizing b c with
  | plain nothing =>
      rw [relate_eq_ok_iff] at above beyond ⊢
      cases above with
      | number one two related =>
          cases beyond with
          | number middle three next =>
              cases Option.some.inj (two.symm.trans middle)
              exact .number one three (Quantity.relate_trans related next)
          | _ => cases two
      | text related =>
          cases beyond with
          | number place _ _ => cases place
          | text next => exact .text (Relation.ofOrder_trans related next)
      | octets related =>
          cases beyond with
          | number place _ _ => cases place
          | octets next => exact .octets (Relation.ofOrder_trans related next)
      | list _ => cases nothing
      | tuple _ => cases nothing
  | list members ih =>
      rcases relate_list_iff.1 above with ⟨ys, rfl, related⟩
      rcases relate_list_iff.1 beyond with ⟨zs, rfl, next⟩
      refine relate_list_iff.2 ⟨zs, rfl, relateAll_trans members second.items third.items ?_ related next⟩
      exact fun x here y there z last => ih x here (second.items y there) (third.items z last)
  | tuple members ih =>
      rcases relate_tuple_iff.1 above with ⟨ys, rfl, related⟩
      rcases relate_tuple_iff.1 beyond with ⟨zs, rfl, next⟩
      refine relate_tuple_iff.2
        ⟨zs, rfl, relateAll_trans members second.tupleItems third.tupleItems ?_ related next⟩
      exact fun x here y there z last => ih x here (second.tupleItems y there) (third.tupleItems z last)
  | object _ _ _ => exact absurd above not_relate_object
  | condition _ _ => exact absurd above not_relate_entity

end WellNamed

end Value

end DataGateway
