import DataGateway.Number.Binary64

/-!
# Decimals

A decimal is a count of digits and a power of ten. A binary64 number is written with the fewest
digits that read back as the same number, and among those with the nearest.

* `Decimal.toBinary64` reads a decimal;
* `Decimal.shortest` chooses the digits of a magnitude;
* `Binary64.text` lays them out: positionally from `0.0001` up to below `10^16`, otherwise with an
  exponent of at least two digits.
-/

namespace DataGateway

/-- The number `digits · 10^exponent`. -/
structure Decimal where
  digits : Nat
  exponent : Int
  deriving DecidableEq

/-- The decimal digits of a natural number, most significant first. -/
def decimalDigits (n : Nat) : List Char := Nat.toDigits 10 n

namespace Decimal

/-- The power of ten just above the decimal, or zero. -/
def scale (d : Decimal) : Int := d.exponent + (decimalDigits d.digits).length

/-- The nearest binary64 number, with a sign. The bounds on the scale lie beyond all magnitudes. -/
def toBinary64 (negative : Bool) (d : Decimal) : Binary64 :=
  if d.digits = 0 ∨ d.scale < -400 then .finite negative .zero
  else if 400 < d.scale then .infinity negative
  else if 0 ≤ d.exponent then .ofRatio negative (d.digits * power 10 d.exponent.toNat) 1
  else .ofRatio negative d.digits (power 10 (-d.exponent).toNat)

/-! ## The shortest digits -/

/-- The number of digits before the point; zero or less counts zeros after it. -/
def pointPosition (m : Magnitude) : Int :=
  (decimalDigits (m.units * power 10 400 / Magnitude.one)).length - 400

/-- The two neighbours of a magnitude among the decimals with one exponent, the nearer first, and
of two equally near ones the even one. -/
def neighbours (m : Magnitude) (exponent : Int) : List Decimal :=
  let n := m.units * power 10 (-exponent).toNat
  let d := Magnitude.one * power 10 exponent.toNat
  let below : Decimal := ⟨n / d, exponent⟩
  let above : Decimal := ⟨n / d + 1, exponent⟩
  if roundHalfEven n d = n / d then [below, above] else [above, below]

/-- All digits of a magnitude. -/
def exact (m : Magnitude) : Decimal := ⟨m.units * power 5 1074, -1074⟩

/-- Does the decimal read as the magnitude? -/
def readsAs (m : Magnitude) (d : Decimal) : Bool := d.toBinary64 false = .finite false m

/-- The fewest digits that read back; of two such decimals the nearer. -/
def shortest (m : Magnitude) : Decimal :=
  let position := pointPosition m
  let found := (List.range 17).findSome? fun (count : Nat) =>
    (neighbours m (position - (count + 1))).find? (readsAs m)
  found.getD (exact m)

end Decimal

/-! ## Layout -/

/-- A signed exponent of at least two digits. -/
def exponentText (e : Int) : List Char :=
  let digits := decimalDigits e.natAbs
  (if e < 0 then '-' else '+') :: (if digits.length < 2 then '0' :: digits else digits)

/-- Significant digits with the point after the given number of them. -/
def layout (digits : List Char) (position : Int) : List Char :=
  if -4 < position ∧ position ≤ 16 then
    if position ≤ 0 then
      '0' :: '.' :: (List.replicate (-position).toNat '0' ++ digits)
    else if digits.length ≤ position.toNat then
      digits ++ List.replicate (position.toNat - digits.length) '0' ++ ['.', '0']
    else
      digits.take position.toNat ++ '.' :: digits.drop position.toNat
  else
    let fraction := digits.drop 1
    digits.take 1 ++ (if fraction.isEmpty then [] else '.' :: fraction) ++
      'e' :: exponentText (position - 1)

/-- The digits of a decimal without the zeros at their end. -/
def Decimal.significant (d : Decimal) : List Char :=
  ((decimalDigits d.digits).reverse.dropWhile (· = '0')).reverse

def Magnitude.text (m : Magnitude) : List Char :=
  if m.units = 0 then ['0', '.', '0']
  else
    let d := Decimal.shortest m
    layout d.significant d.scale

def Binary64.finiteText (negative : Bool) (m : Magnitude) : String :=
  String.ofList (if negative then '-' :: m.text else m.text)

def Binary64.text : Binary64 → String
  | .nan _ => "nan"
  | .infinity false => "inf"
  | .infinity true => "-inf"
  | .finite negative m => finiteText negative m

end DataGateway
