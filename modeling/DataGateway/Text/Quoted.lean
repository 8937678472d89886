import DataGateway.Text.Hex
import DataGateway.Text.Printable

/-!
# Quoted text

Text and octets between quotes, as they stand in messages and inside collections. The quote is
single unless the text holds a single quote and no double one.

* a backslash and the quote are written after a backslash;
* tab, line feed and carriage return have letters;
* any other character that is not printable is written by its code, in two, four or eight digits.
-/

namespace DataGateway.Text

def apostrophe : Char := '\x27'

/-- The quote to put around a text. -/
def quoteFor (s : List Char) : Char :=
  if s.contains apostrophe && !s.contains '"' then '"' else apostrophe

def escapeCode (code : Nat) : List Char :=
  if code < 0x100 then '\\' :: 'x' :: hexDigits 'a' 2 code
  else if code < 0x10000 then '\\' :: 'u' :: hexDigits 'a' 4 code
  else '\\' :: 'U' :: hexDigits 'a' 8 code

/-- One character between quotes; the last argument says which others may stand as they are. -/
def quoteChar (quote : Char) (plain : Char → Bool) (c : Char) : List Char :=
  if c == quote || c == '\\' then ['\\', c]
  else if c == '\t' then ['\\', 't']
  else if c == '\n' then ['\\', 'n']
  else if c == '\r' then ['\\', 'r']
  else if plain c then [c]
  else escapeCode c.toNat

def quoteChars (plain : Char → Bool) (s : List Char) : List Char :=
  let quote := quoteFor s
  quote :: (s.flatMap (quoteChar quote plain) ++ [quote])

/-- A text in quotes. -/
def quoted (s : String) : String := String.ofList (quoteChars isPrintable s.toList)

/-- Octets in quotes, marked by a leading `b`. -/
def quotedOctets (octets : List UInt8) : String :=
  let chars := octets.map fun octet => Char.ofNat octet.toNat
  String.ofList ('b' :: quoteChars (fun c => 0x20 ≤ c.toNat && c.toNat < 0x7F) chars)

end DataGateway.Text
