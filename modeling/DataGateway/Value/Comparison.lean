import DataGateway.Value.Basic

/-!
# Comparison of values

* `Value.same`: are two values the same thing? Numbers of all kinds are when they are the same
  number, truth values counting as one and zero; lists and tuples item by item; objects without
  regard to order; conditions by their operators and operands; other entities, and indefinite numbers,
  when they have one origin.
* `Value.looseEq`: equality, which is sameness but for an indefinite number, equal to nothing.
* `Value.relate`: the order of numbers, texts, octets, and of lists and tuples by the first place in
  which they differ; other pairs cannot be ordered.
-/

namespace DataGateway.Value

/-! ## Equality -/

/-- Sameness of values without inner structure. -/
def plainSame (a b : Value) : Bool :=
  match a.quantity?, b.quantity? with
  | some x, some y => x.relate y == .same
  | _, _ =>
    match a, b with
    | null, null => true
    | text s, text t => s == t
    | octets s, octets t => s == t
    | entity k m _, entity l n _ => k == l && m == n
    | _, _ => false

mutual

def same : Value → Value → Bool
  | list xs, b => match b with
    | list ys => sameAll xs ys
    | _ => false
  | tuple xs, b => match b with
    | tuple ys => sameAll xs ys
    | _ => false
  | object xs, b => match b with
    | object ys => xs.length == ys.length && sameFields xs ys
    | _ => false
  | float (.nan m), b => match b with
    | float (.nan n) => m == n
    | _ => false
  | entity (.condition c) m xs, b => match b with
    | entity (.condition d) n ys => c == d && m == n && sameMembers xs ys
    | _ => false
  | a, b => plainSame a b

def sameAll : List Value → List Value → Bool
  | [], ys => ys.isEmpty
  | x :: xs, ys => match ys with
    | y :: ys => same x y && sameAll xs ys
    | [] => false

def sameMembers : List (String × Value) → List (String × Value) → Bool
  | [], ys => ys.isEmpty
  | (name, v) :: rest, ys => match ys with
    | (other, w) :: ys => name == other && same v w && sameMembers rest ys
    | [] => false

/-- Has the second record the same value for every field of the first? -/
def sameFields : List (String × Value) → List (String × Value) → Bool
  | [], _ => true
  | (name, v) :: rest, ys =>
    (match ys.lookup name with
      | some w => same v w
      | none => false) && sameFields rest ys

end

/-- Are the values equal? An indefinite number is not equal to itself. -/
def looseEq (a b : Value) : Bool := !a.isIndefinite && same a b

/-- Equality that keeps truth values apart from numbers, at the top level alone. -/
def strictEq (a b : Value) : Bool := a.isBool == b.isBool && looseEq a b

/-! ## Order -/

/-- The kinds of two values that cannot be ordered. -/
structure Clash where
  left : String
  right : String
  deriving DecidableEq

/-- The order of values without inner structure. -/
def plainRelate (a b : Value) : Except Clash Relation :=
  match a.quantity?, b.quantity? with
  | some x, some y => .ok (x.relate y)
  | _, _ =>
    match a, b with
    | text s, text t => .ok (.ofOrder s t)
    | octets s, octets t => .ok (.ofOrder s t)
    | _, _ => .error ⟨a.kindName, b.kindName⟩

mutual

/-- How the first value stands to the second, unless they cannot be ordered. -/
def relate : Value → Value → Except Clash Relation
  | list xs, b => match b with
    | list ys => relateAll xs ys
    | _ => .error ⟨"list", b.kindName⟩
  | tuple xs, b => match b with
    | tuple ys => relateAll xs ys
    | _ => .error ⟨"tuple", b.kindName⟩
  | a, b => plainRelate a b

def relateAll : List Value → List Value → Except Clash Relation
  | [], ys => .ok (if ys.isEmpty then .same else .less)
  | x :: xs, ys => match ys with
    | [] => .ok .greater
    | y :: ys => if same x y then relateAll xs ys else relate x y

end

end DataGateway.Value
