import DataGateway.Text.Hex

/-!
# JSON texts

The quoted form of a text in a JSON document. Everything outside the printable ASCII characters is
written by its UTF-16 code units, so a document is plain ASCII.
-/

namespace DataGateway.Json

open Text

/-- One UTF-16 code unit as an escape. -/
def unitEscape (code : Nat) : List Char := '\\' :: 'u' :: hexDigits 'a' 4 code

def encodeChar (c : Char) : List Char :=
  if c == '"' || c == '\\' then ['\\', c]
  else if c == '\n' then ['\\', 'n']
  else if c == '\r' then ['\\', 'r']
  else if c == '\t' then ['\\', 't']
  else if c.toNat == 0x08 then ['\\', 'b']
  else if c.toNat == 0x0C then ['\\', 'f']
  else if 0x20 ≤ c.toNat && c.toNat < 0x7F then [c]
  else if c.toNat < 0x10000 then unitEscape c.toNat
  else
    let offset := c.toNat - 0x10000
    unitEscape (0xD800 + offset / 0x400) ++ unitEscape (0xDC00 + offset % 0x400)

def encodeText (s : String) : List Char := '"' :: (s.toList.flatMap encodeChar ++ ['"'])

end DataGateway.Json
