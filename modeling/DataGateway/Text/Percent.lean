import DataGateway.Text.Hex
import DataGateway.Text.Utf8

/-!
# Percent encoding

Octets as they stand in a URL: letters, digits and the marks `_ . - ~` as they are, every other
octet as a percent sign and two digits. Form encoding writes a space as a plus sign.
-/

namespace DataGateway.Text.Percent

/-- May the octet stand as it is anywhere in a URL? -/
def isUnreserved (octet : UInt8) : Bool :=
  let c := Char.ofNat octet.toNat
  ('A' ≤ c && c ≤ 'Z') || ('a' ≤ c && c ≤ 'z') || ('0' ≤ c && c ≤ '9') ||
  c == '_' || c == '.' || c == '-' || c == '~'

/-- An octet by its value. -/
def escapeOctet (octet : UInt8) : List Char := '%' :: hexDigits 'A' 2 octet.toNat

/-- Octets as one segment of a path. -/
def segment (octets : List UInt8) : List Char :=
  octets.flatMap fun octet =>
    if isUnreserved octet then [Char.ofNat octet.toNat] else escapeOctet octet

/-- The octets of a name or value of a form; a comma stands as it is. -/
def formOctets (octets : List UInt8) : List Char :=
  octets.flatMap fun octet =>
    if isUnreserved octet || octet == 0x2C then [Char.ofNat octet.toNat]
    else if octet == 0x20 then ['+']
    else escapeOctet octet

/-- Octets of names with those of values as a query. -/
def formOf (fields : List (List UInt8 × List UInt8)) : List Char :=
  ['&'].intercalate (fields.map fun (name, value) => formOctets name ++ '=' :: formOctets value)

def octetsOf (s : String) : List UInt8 := Utf8.encode s.toList

def form (fields : List (String × String)) : List Char :=
  formOf (fields.map fun (name, value) => (octetsOf name, octetsOf value))

end DataGateway.Text.Percent
