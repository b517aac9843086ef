import Fleet.Objects.Error
import Fleet.Status
import Fleet.Store.Error
import Fleet.Validation

/-!
# `Fleet.Model.Error`: why an operation on deployments fails

An error says whether the input was malformed, the request does not suit the present state,
what it is about does not exist, or a collaborator failed. The last kind names what was being
done.
-/

set_option autoImplicit false

namespace Fleet

/-- How a caller should understand an error. -/
inductive ErrorClass where
  | validation
  | conflict
  | notFound
  | internal
deriving DecidableEq, Repr

namespace ErrorClass

def name : ErrorClass → String
  | .validation => "Validation"
  | .conflict => "Conflict"
  | .notFound => "NotFound"
  | .internal => "Internal"

end ErrorClass

/-- Why an operation on deployments fails. -/
inductive ModelError where
  | validation (e : ValidationError)
  /-- A device reported a status that is not for devices. -/
  | badStatus (status : DeviceStatus)
  | deploymentAborted
  | deviceDecommissioned
  /-- The record is at rest and cannot move again. -/
  | invalidTransition (old new : DeviceStatus)
  | alreadyFinished
  /-- The deployment or the record does not exist. -/
  | deploymentNotFound
  | noDevices
  | store (activity : String) (e : StoreError)
  | storage (activity : String) (e : ObjectError)
  | catalog (activity detail : String)
  | inventory (activity detail : String)
  /-- The records of a new deployment cannot be counted. -/
  | stats (e : StatsError)
  /-- The records of a new deployment could not be stored; the deployment was deleted again,
  unless that failed too. -/
  | createRolledBack (cause : StoreError) (rollback : Option StoreError)
deriving DecidableEq, Repr

namespace ModelError

def kindName : ModelError → String
  | .validation _ => "Validation"
  | .badStatus _ => "BadStatus"
  | .deploymentAborted => "DeploymentAborted"
  | .deviceDecommissioned => "DeviceDecommissioned"
  | .invalidTransition .. => "InvalidTransition"
  | .alreadyFinished => "AlreadyFinished"
  | .deploymentNotFound => "DeploymentNotFound"
  | .noDevices => "NoDevices"
  | .store .. => "Store"
  | .storage .. => "Storage"
  | .catalog .. => "Catalog"
  | .inventory .. => "Inventory"
  | .stats _ => "Stats"
  | .createRolledBack .. => "CreateRolledBack"

def errorClass : ModelError → ErrorClass
  | .validation _ | .noDevices => .validation
  | .badStatus _ | .deploymentAborted | .deviceDecommissioned | .invalidTransition ..
  | .alreadyFinished => .conflict
  | .deploymentNotFound => .notFound
  | .store .. | .storage .. | .catalog .. | .inventory .. | .stats _
  | .createRolledBack .. => .internal

/-- The name of the kind of the collaborator's failure, where there is one to tell. -/
def sourceName : ModelError → Option String
  | .store _ e => some e.kind.name
  | .storage _ e => some e.kindName
  | .createRolledBack cause _ => some cause.kind.name
  | _ => none

def message : ModelError → String
  | .validation e => "invalid input: " ++ e.message
  | .badStatus s => "bad status: " ++ s.token ++ " cannot be reported by a device"
  | .deploymentAborted => "deployment: aborted"
  | .deviceDecommissioned => "device: decommissioned"
  | .invalidTransition old new =>
    "invalid status transition from " ++ old.token ++ " to " ++ new.token
  | .alreadyFinished => "deployment: already finished"
  | .deploymentNotFound => "deployment not found"
  | .noDevices => "no devices match the deployment target"
  | .store activity e => activity ++ ": " ++ e.message
  | .storage activity e => activity ++ ": " ++ e.message
  | .catalog activity detail => activity ++ ": artifact catalog error: " ++ detail
  | .inventory activity detail => activity ++ ": device inventory error: " ++ detail
  | .stats e => "stats bookkeeping: " ++ e.message
  | .createRolledBack cause none =>
    "storing device deployments: " ++ cause.message ++ "; deployment rolled back"
  | .createRolledBack cause (some e) =>
    "storing device deployments: " ++ cause.message
      ++ "; rolling back deployment failed: " ++ e.message

end ModelError

end Fleet
