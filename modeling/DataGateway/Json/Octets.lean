import DataGateway.Text.Unit
import DataGateway.Text.Utf8

/-!
# Documents as octets

A document may come as octets in any of the encodings. A mark at its beginning tells which; without
one it is where the first octets are zero, because a document begins with a character below 128.
-/

namespace DataGateway.Json

/-- The octets of a mark at the beginning of a document. -/
def markOf : Text.Encoding → List UInt8
  | .utf8 => [0xEF, 0xBB, 0xBF]
  | .utf16 bigFirst => if bigFirst then [0xFE, 0xFF] else [0xFF, 0xFE]
  | .utf32 bigFirst => if bigFirst then [0, 0, 0xFE, 0xFF] else [0xFF, 0xFE, 0, 0]

/-- The encodings in the order in which their marks are looked for. -/
def marked : List Text.Encoding :=
  [.utf32 true, .utf32 false, .utf16 true, .utf16 false, .utf8]

/-- The encoding of octets without a mark. -/
def encodingOf : List UInt8 → Text.Encoding
  | a :: b :: c :: d :: _ =>
    if a == 0 then (if b == 0 then .utf32 true else .utf16 true)
    else if b == 0 then (if c == 0 && d == 0 then .utf32 false else .utf16 false)
    else .utf8
  | [a, b] => if a == 0 then .utf16 true else if b == 0 then .utf16 false else .utf8
  | _ => .utf8

/-- Decodes octets in an encoding, from a position on. -/
def decodeAs (position : Nat) (octets : List UInt8) :
    Text.Encoding → Except Text.Encoding.Fault (List Char)
  | .utf8 => Text.Utf8.decode octets
  | .utf16 bigFirst => Text.decodePairsFrom bigFirst position octets
  | .utf32 bigFirst => Text.decodePointsFrom bigFirst position octets

/-- The characters of a document. In units of one octet, positions are counted from behind the mark. -/
def charsOf (octets : List UInt8) : Except Text.Encoding.Fault (List Char) :=
  match marked.find? fun encoding => (markOf encoding).isPrefixOf octets with
  | some encoding =>
    let size := (markOf encoding).length
    decodeAs size (octets.drop size) encoding
  | none => decodeAs 0 octets (encodingOf octets)

end DataGateway.Json
