import Fleet.Model.World

/-!
# `Fleet.Model.Lifecycle`: looking at deployments and stopping them

Operators look up deployments, their counters and their records, abort a deployment and take
a device out of service. Both kinds of stop put records to rest first, then count the records
anew and store the counters with the finish time.
-/

set_option autoImplicit false

namespace Fleet.ModelM

variable {σ ω : Type} [DataStore σ]

def getDeployment (id : DeploymentId) : ModelM σ ω (Option Deployment) :=
  askStore "searching for deployment by ID" (.findDeployment id)

/-- The counters of the records of a deployment. -/
def countRecords (id : DeploymentId) : ModelM σ ω Stats :=
  askStore "counting device deployments by status" (.countByStatus id)

/-- The counters of a deployment, counted anew. -/
def getStats (id : DeploymentId) : ModelM σ ω (Option Stats) := do
  match ← getDeployment id with
  | none => return none
  | some _ => return some (← countRecords id)

/-- Whether there is no unfinished deployment with a name. -/
def isFinished (id : DeploymentId) : ModelM σ ω Bool := do
  let found : Option Deployment ←
    askStore "searching for unfinished deployment by ID" (.findUnfinished id)
  return found.isNone

/-- Replaces the number of devices of deployments by the number of their records. -/
def recountDevices : List Deployment → ModelM σ ω (List Deployment)
  | [] => return []
  | d :: rest => do
    let n : Nat ← askStore "counting device deployments" (.countDevices d.id)
    return { d with deviceCount := n } :: (← recountDevices rest)

/-- The deployments that a query asks for. -/
def lookup (q : Query) : ModelM σ ω (List Deployment) := do
  accept q.validate
  let found : List Deployment ← askStore "searching for deployments" (.findDeployments q)
  recountDevices found

/-- Counts the records of a deployment, stores the counters and sets the finish time. -/
def finishRecounted (id : DeploymentId) : ModelM σ ω Unit := do
  let stats ← countRecords id
  askStore "updating deployment stats and finish time"
    (.finishWithStats id stats (← read).now)

def abort (id : DeploymentId) : ModelM σ ω Unit := do
  match ← getDeployment id with
  | none => throw .deploymentNotFound
  | some d =>
    if d.isFinished then throw .alreadyFinished
    askStore "aborting device deployments" (.abortRecords id (← read).now)
    finishRecounted id
    emit .deploymentAborted id

/-- Finishes the deployments that lost a device. -/
def finishWithout (device : DeviceId) : List DeploymentId → ModelM σ ω Unit
  | [] => return
  | id :: rest => do
    finishRecounted id
    emit .deviceDecommissioned id fun e =>
      { e with deviceId := some device, newStatus := some .decommissioned }
    finishWithout device rest

/-- Takes a device out of service. -/
def decommission (device : DeviceId) : ModelM σ ω Unit := do
  let affected : List DeploymentId ←
    askStore "decommissioning device deployments" (.decommissionRecords device (← read).now)
  finishWithout device affected

def getRecords (id : DeploymentId) : ModelM σ ω (List DeviceRecord) := do
  match ← getDeployment id with
  | none => throw .deploymentNotFound
  | some _ => askStore "searching for device deployments" (.findRecords id)

end Fleet.ModelM
