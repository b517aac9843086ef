import Fleet.Query
import Fleet.Record
import Fleet.Store.Error
import Fleet.Context

/-!
# `Fleet.Store.Call`: what a data store is asked

The calls of a data store are values of one type, each with the type of its answer. A data
store is a type of states with one function that runs a call on the part of a tenant. Runs
are therefore lists of calls, and two stores can be compared call by call.
-/

set_option autoImplicit false

namespace Fleet

open Fleet.Time

/-- A call of a data store. -/
inductive StoreCall where
  | insertDeployment (d : Deployment)
  | deleteDeployment (id : DeploymentId)
  | findDeployment (id : DeploymentId)
  /-- The deployment with a name, if it has no finish time. -/
  | findUnfinished (id : DeploymentId)
  | findDeployments (q : Query)
  | countDevices (id : DeploymentId)
  | moveDevice (id : DeploymentId) (old new : DeviceStatus)
  /-- Replaces the counters and sets the finish time unless it is set. -/
  | finishWithStats (id : DeploymentId) (stats : Stats) (finished : Instant)
  /-- Sets the finish time unless it is set. -/
  | finishDeployment (id : DeploymentId) (finished : Instant)
  /-- Adds records, all or none. -/
  | insertRecords (records : List DeviceRecord)
  | findRecord (id : DeploymentId) (device : DeviceId)
  /-- The active record of a device that was created first. -/
  | findOldestActive (device : DeviceId)
  | findRecords (id : DeploymentId)
  | hasRecord (id : DeploymentId) (device : DeviceId)
  /-- Changes status, remark and finish time of a record. -/
  | updateStatus (id : DeploymentId) (device : DeviceId) (status : DeviceStatus)
      (substate : Option String) (finished : Option Instant)
  | assignArtifact (id : DeploymentId) (device : DeviceId) (deviceType : String) (a : Artifact)
  | abortRecords (id : DeploymentId) (finished : Instant)
  | decommissionRecords (device : DeviceId) (finished : Instant)
  | countByStatus (id : DeploymentId)
  | markLog (id : DeploymentId) (device : DeviceId) (available : Bool)
  /-- Stores a log, in place of an earlier one. -/
  | saveLog (log : DeploymentLog)
  | findLog (id : DeploymentId) (device : DeviceId)

namespace StoreCall

/-- What a call answers. -/
abbrev Answer : StoreCall → Type
  | .insertDeployment _ => Unit
  | .deleteDeployment _ => Unit
  | .findDeployment _ => Option Deployment
  | .findUnfinished _ => Option Deployment
  | .findDeployments _ => List Deployment
  | .countDevices _ => Nat
  | .moveDevice .. => Unit
  | .finishWithStats .. => Unit
  | .finishDeployment .. => Unit
  | .insertRecords _ => Unit
  | .findRecord .. => Option DeviceRecord
  | .findOldestActive _ => Option DeviceRecord
  | .findRecords _ => List DeviceRecord
  | .hasRecord .. => Bool
  | .updateStatus .. => DeviceStatus
  | .assignArtifact .. => Unit
  | .abortRecords .. => Unit
  | .decommissionRecords .. => List DeploymentId
  | .countByStatus _ => Stats
  | .markLog .. => Unit
  | .saveLog _ => Unit
  | .findLog .. => Option DeploymentLog

def name : StoreCall → String
  | .insertDeployment _ => "insert_deployment"
  | .deleteDeployment _ => "delete_deployment"
  | .findDeployment _ => "find_deployment_by_id"
  | .findUnfinished _ => "find_unfinished_by_id"
  | .findDeployments _ => "find_deployments"
  | .countDevices _ => "device_count_by_deployment"
  | .moveDevice .. => "update_stats"
  | .finishWithStats .. => "update_stats_and_finish_deployment"
  | .finishDeployment .. => "finish_deployment"
  | .insertRecords _ => "insert_device_deployments"
  | .findRecord .. => "get_device_deployment"
  | .findOldestActive _ => "find_oldest_active_device_deployment"
  | .findRecords _ => "get_device_statuses_for_deployment"
  | .hasRecord .. => "has_deployment_for_device"
  | .updateStatus .. => "update_device_deployment_status"
  | .assignArtifact .. => "assign_artifact"
  | .abortRecords .. => "abort_device_deployments"
  | .decommissionRecords .. => "decommission_device_deployments"
  | .countByStatus _ => "aggregate_device_deployment_by_status"
  | .markLog .. => "update_device_deployment_log_availability"
  | .saveLog _ => "save_device_deployment_log"
  | .findLog .. => "get_device_deployment_log"

/-- Whether a call may change the store. -/
def isMutating : StoreCall → Bool
  | .insertDeployment _ | .deleteDeployment _ | .moveDevice .. | .finishWithStats ..
  | .finishDeployment .. | .insertRecords _ | .updateStatus .. | .assignArtifact ..
  | .abortRecords .. | .decommissionRecords .. | .markLog .. | .saveLog _ => true
  | _ => false

end StoreCall

/-- Data stores: a call runs on the part of a tenant and gives an answer or an error, and the
store after it. -/
class DataStore (σ : Type) where
  /-- Runs a call. -/
  run (tenant : TenantId) (c : StoreCall) (s : σ) : Except StoreError c.Answer × σ

end Fleet
