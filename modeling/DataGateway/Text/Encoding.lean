import DataGateway.Text.Hex

/-!
# Encodings of text

The ways in which characters are written as octets, and what is reported where octets are no
character.
-/

namespace DataGateway.Text

/-- A way to write characters as octets: one to four octets each, or in units of two or four octets,
with the most significant one first or last. -/
inductive Encoding
  | utf8
  | utf16 (bigFirst : Bool)
  | utf32 (bigFirst : Bool)
  deriving DecidableEq

namespace Encoding

def name : Encoding → String
  | utf8 => "utf-8"
  | utf16 bigFirst => if bigFirst then "utf-16-be" else "utf-16-le"
  | utf32 bigFirst => if bigFirst then "utf-32-be" else "utf-32-le"

/-- Why octets are no character. -/
inductive Reason
  | start
  | continuation
  | ended
  | truncated
  | range
  deriving DecidableEq

def Reason.text : Reason → String
  | .start => "invalid start byte"
  | .continuation => "invalid continuation byte"
  | .ended => "unexpected end of data"
  | .truncated => "truncated data"
  | .range => "code point not in range(0x110000)"

/-- The first octets that are no character: from `first` on, `count` many. -/
structure Fault where
  encoding : Encoding
  octet : UInt8
  first : Nat
  count : Nat
  reason : Reason
  deriving DecidableEq

def Fault.text (fault : Fault) : String :=
  let range :=
    if fault.count = 1 then
      "byte 0x" ++ String.ofList (hexDigits 'a' 2 fault.octet.toNat) ++ s!" in position {fault.first}"
    else s!"bytes in position {fault.first}-" ++ toString (fault.first + fault.count - 1)
  "\x27" ++ fault.encoding.name ++ "\x27 codec can\x27t decode " ++ range ++ ": " ++
    fault.reason.text

end Encoding

end DataGateway.Text
