/-!
# The public interface

The names under which the gateway offers its parts.
-/

namespace DataGateway.Setup

/-- The names that the gateway offers. -/
def publicNames : List String :=
  ["APIResponse", "BackendAdapter", "OrderBy", "QueryOptions", "create_adapter", "get_adapter",
   "reset_adapter", "FilterCondition", "FilterSpec", "Eq", "Neq", "Gt", "Gte", "Lt", "Lte", "Like",
   "Ilike", "In", "IsNull", "matches", "parse_filters", "StoragePort", "InMemoryStorage",
   "FileStorage", "DaalError", "ValidationError", "AuthError", "NotFoundError", "NetworkError",
   "BackendError"]

def isPublic (name : String) : Bool := publicNames.contains name

end DataGateway.Setup
