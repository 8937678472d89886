/-!
# Refusals

Why a request is not carried out: it is malformed, or carrying it out would be unsafe. Each cause is
a constructor; `Refusal.message` gives the wording.
-/

namespace DataGateway

/-- A request that is malformed or unsafe to carry out. -/
inductive Refusal
  | operatorCount (column : String) (operators : String)
  | unknownOperator (operator column : String)
  | listExpected (column : String)
  | filtersShape (kind : String)
  | filterColumn (name : String)
  | payloadShape (kind : String)
  | rowShape (kind : String)
  | limit (given : String)
  | offset (given : String)
  | identifier (given : String)
  | updateWithoutFilter
  | updateWithoutColumn
  | deleteWithoutFilter
  | noRows
  | unevenRows
  | placeholder (arguments : Nat)
  | batchExpected
  | credentialsMissing
  | accountExists
  | importUnreadable (reason : String)
  | importShape
  | tableMissing
  | functionMissing
  | notEquality (operator column : String)
  | reported (text : String)
  deriving DecidableEq

def Refusal.message : Refusal → String
  | .operatorCount column operators =>
    s!"Filter for column \x27{column}\x27 must have exactly one operator, got {operators}"
  | .unknownOperator operator column =>
    s!"Unknown filter operator \x27{operator}\x27 for column \x27{column}\x27"
  | .listExpected column => s!"\x27in\x27 filter for column \x27{column}\x27 requires a list"
  | .filtersShape kind => s!"Filters must be a mapping, got {kind}"
  | .filterColumn name => s!"Invalid filter column: {name}"
  | .payloadShape kind => s!"Expected a record or list of records, got {kind}"
  | .rowShape kind => s!"Expected a record, got {kind}"
  | .limit given => s!"limit must be a positive integer, got {given}"
  | .offset given => s!"offset must be a non-negative integer, got {given}"
  | .identifier given => s!"Invalid SQL identifier: {given}"
  | .updateWithoutFilter => "Update requires WHERE conditions"
  | .updateWithoutColumn => "Update requires at least one column to set"
  | .deleteWithoutFilter => "Delete requires WHERE conditions"
  | .noRows => "No data provided for insert"
  | .unevenRows => "All inserted records must have the same columns"
  | .placeholder arguments => s!"Placeholder out of range for {arguments} argument(s)"
  | .batchExpected => "insert_many expects a list of records"
  | .credentialsMissing => "Email and password are required"
  | .accountExists => "User already exists"
  | .importUnreadable reason => s!"Failed to import database: {reason}"
  | .importShape => "Failed to import database: expected an object of table lists"
  | .tableMissing => "Table name is required"
  | .functionMissing => "RPC function name is required"
  | .notEquality operator column =>
    s!"Filter operator \x27{operator}\x27 on column \x27{column}\x27 cannot be expressed " ++
      "as an HTTP query parameter"
  | .reported text => text

end DataGateway
