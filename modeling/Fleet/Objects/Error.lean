/-!
# `Fleet.Objects.Error`: why a request to an object storage fails
-/

set_option autoImplicit false

namespace Fleet

/-- What is done with an object storage. -/
inductive ObjectOp where
  | healthCheck
  | putObject
  | deleteObject
  | statObject
  | getRequest
  | putRequest
  | deleteRequest
deriving DecidableEq, Repr, Inhabited

namespace ObjectOp

def name : ObjectOp → String
  | .healthCheck => "HealthCheck"
  | .putObject => "PutObject"
  | .deleteObject => "DeleteObject"
  | .statObject => "StatObject"
  | .getRequest => "GetRequest"
  | .putRequest => "PutRequest"
  | .deleteRequest => "DeleteRequest"

end ObjectOp

/-- A failure of an object storage. -/
inductive ObjectError where
  | notFound
  | invalidSettings (detail : String)
  | invalidProvider (detail : String)
  | invalidPath (detail : String)
  /-- The service refused or could not be reached. -/
  | backend (provider : String) (op : ObjectOp) (detail : String)
  | io (detail : String)
deriving DecidableEq, Repr, Inhabited

namespace ObjectError

def kindName : ObjectError → String
  | .notFound => "NotFound"
  | .invalidSettings _ => "InvalidSettings"
  | .invalidProvider _ => "InvalidProvider"
  | .invalidPath _ => "InvalidPath"
  | .backend .. => "Backend"
  | .io _ => "Io"

def message : ObjectError → String
  | .notFound => "object not found"
  | .invalidSettings detail => "invalid storage settings: " ++ detail
  | .invalidProvider detail => "invalid storage provider: " ++ detail
  | .invalidPath detail => "invalid object path: " ++ detail
  | .backend provider op detail => provider ++ " " ++ op.name ++ ": " ++ detail
  | .io detail => "object storage io error: " ++ detail

end ObjectError

end Fleet
