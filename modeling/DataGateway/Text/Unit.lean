import DataGateway.Text.Encoding

/-!
# Text in wide units

Decoders of text that is written in units of two or of four octets. In units of two a character beyond
the first 65536 takes a pair; half a pair has no character and is replaced.
-/

namespace DataGateway.Text

/-! ## Pairs -/

def isHigh (code : Nat) : Bool := 0xD800 ≤ code && code < 0xDC00

def isLow (code : Nat) : Bool := 0xDC00 ≤ code && code < 0xE000

/-- The character of a code unit; half a pair has none and is replaced. -/
def unitChar (code : Nat) : Char :=
  if isHigh code || isLow code then Char.ofNat 0xFFFD else Char.ofNat code

def pairChar (high low : Nat) : Char :=
  Char.ofNat (0x10000 + (high - 0xD800) * 0x400 + (low - 0xDC00))

def unitChars : List Nat → List Char
  | [] => []
  | [code] => [unitChar code]
  | code :: next :: rest =>
    if isHigh code && isLow next then pairChar code next :: unitChars rest
    else unitChar code :: unitChars (next :: rest)

/-! ## Octets -/

/-- The number that octets write. -/
def numberOf (bigFirst : Bool) (octets : List UInt8) : Nat :=
  (if bigFirst then octets else octets.reverse).foldl (fun n octet => 256 * n + octet.toNat) 0

/-- The code units of octets from the given position on, two octets each. -/
def unitsFrom (bigFirst : Bool) (position : Nat) :
    List UInt8 → Except Encoding.Fault (List Nat)
  | [] => .ok []
  | [a] => .error ⟨.utf16 bigFirst, a, position, 1, .truncated⟩
  | a :: b :: rest => do
    return numberOf bigFirst [a, b] :: (← unitsFrom bigFirst (position + 2) rest)

def decodePairsFrom (bigFirst : Bool) (position : Nat) (octets : List UInt8) :
    Except Encoding.Fault (List Char) :=
  unitChars <$> unitsFrom bigFirst position octets

def decodePointsFrom (bigFirst : Bool) (position : Nat) :
    List UInt8 → Except Encoding.Fault (List Char)
  | [] => .ok []
  | a :: b :: c :: d :: rest => do
    let code := numberOf bigFirst [a, b, c, d]
    if 0x110000 ≤ code then throw ⟨.utf32 bigFirst, a, position, 4, .range⟩
    return unitChar code :: (← decodePointsFrom bigFirst (position + 4) rest)
  | a :: rest => .error ⟨.utf32 bigFirst, a, position, rest.length + 1, .truncated⟩

end DataGateway.Text
