import DataGateway.Text.Encoding

/-!
# UTF-8

Encoding of text as octets, and the strict decoder, which reports the first octets that are no
character together with the reason.
-/

namespace DataGateway.Text.Utf8

def encode (s : List Char) : List UInt8 := s.flatMap String.utf8EncodeChar

def size (s : String) : Nat := (encode s.toList).length

/-! ## Decoding -/

/-- Is the octet the middle or the end of a character? -/
def isContinuation (octet : UInt8) : Bool := 0x80 ≤ octet && octet < 0xC0

def payload (octet : UInt8) : Nat := octet.toNat - 0x80

/-- May the second octet follow the first? This leaves out overlong forms, surrogates and code
points beyond the last one. -/
def secondStands (first second : UInt8) : Bool :=
  isContinuation second &&
  !(first == 0xE0 && second < 0xA0) && !(first == 0xED && 0xA0 ≤ second) &&
  !(first == 0xF0 && second < 0x90) && !(first == 0xF4 && 0x90 ≤ second)

/-- Decodes octets from the given position on. -/
def decodeFrom (position : Nat) : List UInt8 → Except Encoding.Fault (List Char)
  | [] => .ok []
  | a :: rest =>
    let fail (count : Nat) (reason : Encoding.Reason) : Except Encoding.Fault (List Char) :=
      .error ⟨.utf8, a, position, count, reason⟩
    if a < 0x80 then do
      return Char.ofNat a.toNat :: (← decodeFrom (position + 1) rest)
    else if a < 0xC2 || 0xF4 < a then fail 1 .start
    else
      match rest with
      | [] => fail 1 .ended
      | b :: rest =>
        if !secondStands a b then fail 1 .continuation
        else if a < 0xE0 then do
          let code := (a.toNat - 0xC0) * 64 + payload b
          return Char.ofNat code :: (← decodeFrom (position + 2) rest)
        else
          match rest with
          | [] => fail 2 .ended
          | c :: rest =>
            if !isContinuation c then fail 2 .continuation
            else if a < 0xF0 then do
              let code := ((a.toNat - 0xE0) * 64 + payload b) * 64 + payload c
              return Char.ofNat code :: (← decodeFrom (position + 3) rest)
            else
              match rest with
              | [] => fail 3 .ended
              | d :: rest =>
                if !isContinuation d then fail 3 .continuation
                else do
                  let code :=
                    (((a.toNat - 0xF0) * 64 + payload b) * 64 + payload c) * 64 + payload d
                  return Char.ofNat code :: (← decodeFrom (position + 4) rest)

def decode (octets : List UInt8) : Except Encoding.Fault (List Char) := decodeFrom 0 octets

end DataGateway.Text.Utf8
