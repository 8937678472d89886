import DataGateway.Fault

/-!
# Responses

What every operation resolves to: data, or the text of an error. `Envelope` is the form that is
handed out, with a success mark of any kind.
-/

namespace DataGateway

/-- The outcome of an operation. -/
inductive Response
  | success (data : Value)
  | failure (error : String)

/-- The form in which an outcome is handed out. -/
structure Envelope where
  success : Value
  data : Value := .null
  error : Value := .null

namespace Envelope

def ok (data : Value) : Envelope := { success := .bool true, data }

def fail (error : Value) : Envelope := { success := .bool false, error }

/-- The outcome that a maker builds from arguments: a successful one from at most one, a failed one from
exactly one. -/
def ofArguments (success : Bool) (arguments : List Value) : Except Fault Envelope :=
  match success, arguments with
  | true, [] => .ok (ok .null)
  | true, [data] => .ok (ok data)
  | true, _ =>
    .error (.misuse (.surplusArguments "APIResponse.ok" "from 1 to 2" (arguments.length + 1)))
  | false, [] => .error (.misuse (.missingArgument "APIResponse.fail" "error"))
  | false, [error] => .ok (fail error)
  | false, _ => .error (.misuse (.surplusArguments "APIResponse.fail" "2" (arguments.length + 1)))

/-- The names of the fields of an outcome. -/
def fieldNames : List String := ["success", "data", "error"]

/-- The outcome with the given fields; the success mark has to be among them. -/
def ofFields (fields : Record) : Except Fault Envelope :=
  match (Fields.names fields).find? fun name => !fieldNames.contains name with
  | some name => .error (.misuse (.unknownArgument "APIResponse.__init__" name))
  | none =>
    match Fields.get? fields "success" with
    | none => .error (.misuse (.missingArgument "APIResponse.__init__" "success"))
    | some success =>
      .ok { success, data := (Fields.get? fields "data").getD .null,
            error := (Fields.get? fields "error").getD .null }

/-- The outcome as an object: the data after a success, the error after a failure. -/
def toObject (envelope : Envelope) : Value :=
  if envelope.success.truthy then .object [("success", .bool true), ("data", envelope.data)]
  else .object [("success", .bool false), ("error", envelope.error)]

end Envelope

def Response.envelope : Response → Envelope
  | .success data => .ok data
  | .failure error => .fail (.text error)

end DataGateway
