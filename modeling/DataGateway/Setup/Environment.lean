import DataGateway.Fault
import DataGateway.Fields
import DataGateway.Text.Case
import DataGateway.Value.Access

/-!
# Environments

Variables with texts. A variable that is not set and one that is empty are not the same: where a
default stands in, it does so for the first kind alone.
-/

namespace DataGateway.Setup

abbrev Environment := Fields String

namespace Environment

/-- The text of a variable, or the default if it is not set. -/
def textOr (env : Environment) (name default : String) : String :=
  (Fields.get? env name).getD default

/-- The text of a variable that has to say something. -/
def nonEmpty? (env : Environment) (name : String) : Option String :=
  match Fields.get? env name with
  | some text => if text == "" then none else some text
  | none => none

/-- The variable as a value, null if it is not set. -/
def value (env : Environment) (name : String) : Value :=
  match Fields.get? env name with
  | some text => .text text
  | none => .null

/-- The whole number that a text says. -/
def wholeOf (text : String) : Except Fault Int := (Value.text text).asWhole

/-- The fractional number that a text says. -/
def fractionOf (text : String) : Except Fault Binary64 :=
  match Numeral.fractional text.toList with
  | some x => .ok x
  | none => .error (.misuse (.fractionMalformed (Text.quoted text)))

end Environment

end DataGateway.Setup
