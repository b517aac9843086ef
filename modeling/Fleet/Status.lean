/-!
# `Fleet.Status`: how far a device and a deployment have come

A device passes through four active statuses and rests in one of six terminal ones. A
deployment is pending until some device has moved on, in progress until it is finished.
-/

set_option autoImplicit false

namespace Fleet

/-- The status of one device in one deployment. -/
inductive DeviceStatus where
  /-- Assigned, not yet picked up. -/
  | pending
  | downloading
  | installing
  | rebooting
  | success
  | failure
  /-- The device ran the artifact already. -/
  | alreadyInstalled
  /-- No artifact fits the device. -/
  | noArtifact
  /-- An operator stopped the deployment. -/
  | aborted
  /-- The device was taken out of service. -/
  | decommissioned
deriving DecidableEq, Repr, Inhabited

namespace DeviceStatus

/-- Every status, in the order in which counters are listed. -/
def all : List DeviceStatus :=
  [.pending, .downloading, .installing, .rebooting, .success, .failure, .alreadyInstalled,
    .noArtifact, .aborted, .decommissioned]

def token : DeviceStatus → String
  | .pending => "pending"
  | .downloading => "downloading"
  | .installing => "installing"
  | .rebooting => "rebooting"
  | .success => "success"
  | .failure => "failure"
  | .alreadyInstalled => "already-installed"
  | .noArtifact => "no-artifact"
  | .aborted => "aborted"
  | .decommissioned => "decommissioned"

/-- The status with a given token. The older spelling `noartifact` is read as well. -/
def ofToken? (s : String) : Option DeviceStatus :=
  if s = "noartifact" then some .noArtifact else all.find? (·.token = s)

/-- The text that refuses a token of no status. -/
def unknownMessage (s : String) : String := "unknown device deployment status: " ++ s

/-- Whether the device still has work to do. -/
def isActive : DeviceStatus → Bool
  | .pending | .downloading | .installing | .rebooting => true
  | _ => false

/-- Whether the device has come to rest. -/
def isTerminal (s : DeviceStatus) : Bool := !s.isActive

/-- Whether a device may report the status about itself. -/
def isReportable : DeviceStatus → Bool
  | .aborted | .decommissioned => false
  | _ => true

/-- The list of statuses is complete, so a sum or a search over it misses none. -/
theorem mem_all (s : DeviceStatus) : s ∈ all := by cases s <;> decide

/-- The token of a status is read back as that status. The older spelling of `noArtifact` is read
too, but never written. -/
theorem ofToken?_token (s : DeviceStatus) : ofToken? s.token = some s := by cases s <;> decide

end DeviceStatus

/-- The status of a deployment as a whole. -/
inductive DeploymentStatus where
  | pending
  | inProgress
  | finished
deriving DecidableEq, Repr, Inhabited

namespace DeploymentStatus

def token : DeploymentStatus → String
  | .pending => "pending"
  | .inProgress => "inprogress"
  | .finished => "finished"

def ofToken? (s : String) : Option DeploymentStatus :=
  [pending, inProgress, finished].find? (·.token = s)

end DeploymentStatus

end Fleet
