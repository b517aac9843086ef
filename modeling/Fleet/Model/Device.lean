import Fleet.Model.Lifecycle

/-!
# `Fleet.Model.Device`: what devices do

A device reports its progress, polls for work and leaves logs. A report moves the device's
record and the counters of its deployment; the report that brings the last device to rest
finishes the deployment. A poll looks at the oldest active record of the device only.
-/

set_option autoImplicit false

namespace Fleet.ModelM

variable {σ ω : Type} [DataStore σ]

/-- Finishes a deployment if all of its devices are at rest. -/
def finishIfDone (id : DeploymentId) : ModelM σ ω Unit := do
  match ← getDeployment id with
  | none => throw .deploymentNotFound
  | some d =>
    if !d.isFinished && d.allDevicesTerminal then
      askStore "finishing deployment" (.finishDeployment id (← read).now)
      emit .deploymentFinished id

/-- Moves the record of a device and the counters of its deployment to a new status. -/
def moveRecord (id : DeploymentId) (device : DeviceId) (r : StatusReport) : ModelM σ ω Unit := do
  let now := (← read).now
  let finished := if r.status.isTerminal then some now else none
  let old : DeviceStatus ← askStore "updating device deployment status"
    (.updateStatus id device r.status r.substate finished)
  askStore "updating deployment stats" (.moveDevice id old r.status)
  emit .deviceStatusChanged id fun e =>
    { e with deviceId := some device, oldStatus := some old, newStatus := some r.status }
  finishIfDone id

/-- Takes the report of a device on its progress. -/
def report (id : DeploymentId) (device : DeviceId) (r : StatusReport) : ModelM σ ω Unit := do
  accept r.validate
  let found : Option DeviceRecord ←
    askStore "searching for device deployment" (.findRecord id device)
  match found with
  | none => throw .deploymentNotFound
  | some current =>
    -- An abort comes first: such a record refuses even a report that no device may make.
    if current.status = .aborted then throw .deploymentAborted
    if !r.status.isReportable then throw (.badStatus r.status)
    if current.status = .decommissioned then throw .deviceDecommissioned
    -- The same report again is not a failure, also from a device at rest.
    if current.status = r.status then return
    if current.status.isTerminal then throw (.invalidTransition current.status r.status)
    moveRecord id device r

/-- Finds an artifact for a record anew and gives it to the record: first among the artifacts
that the deployment had at its creation, then among all of the name. -/
def reassign (d : Deployment) (r : DeviceRecord) (installed : Installed) :
    ModelM σ ω (Option Artifact) := do
  let deviceType :=
    if installed.deviceType.isEmpty then r.deviceType else some installed.deviceType
  match deviceType with
  | none => return none
  | some t =>
    let frozen ← artifactByIds "searching for artifact by ids and device type" d.artifacts t
    let artifact ← match frozen with
      | some a => pure (some a)
      | none => artifactByName "searching for artifact by name and device type" d.artifactName t
    match artifact with
    | none => return none
    | some a =>
      askStore "assigning artifact to device deployment" (.assignArtifact d.id r.deviceId t a)
      return some a

/-- Whether a device says that it is of another type than its record. -/
def typeChanged (r : DeviceRecord) (installed : Installed) : Bool :=
  !installed.deviceType.isEmpty && r.deviceType != some installed.deviceType

/-- The artifact for a record: the one it has, unless the device is of another type. -/
def artifactFor (d : Deployment) (r : DeviceRecord) (installed : Installed) :
    ModelM σ ω (Option Artifact) :=
  match r.artifact with
  | some a => if typeChanged r installed then reassign d r installed else return some a
  | none => reassign d r installed

def instruct [LinkIssuer ω] (id : DeploymentId) (a : Artifact) : ModelM σ ω Instructions := do
  let filename := a.name ++ ((← read).filenameSuffix.getD "")
  let source ← downloadLink "generating download link for the device" a.id filename
  return { id, artifact := { artifactName := a.name, source, deviceTypes := a.deviceTypes } }

/-- What a device has to do next, given what it runs. -/
def poll [LinkIssuer ω] (device : DeviceId) (installed : Installed) :
    ModelM σ ω (Option Instructions) := do
  let found : Option DeviceRecord ← askStore
    "searching for oldest active deployment for the device" (.findOldestActive device)
  match found with
  | none => return none
  | some r =>
    match ← getDeployment r.deploymentId with
    | none => return none
    | some d =>
      -- A device that says nothing about what it runs is never taken to run the artifact.
      if !installed.artifactName.isEmpty && installed.artifactName == d.artifactName then
        report d.id device { status := .alreadyInstalled }
        return none
      else
        match ← artifactFor d r installed with
        | none =>
          report d.id device { status := .noArtifact }
          return none
        | some a => return some (← instruct d.id a)

/-- Whether a device takes part in a deployment. -/
def hasRecord (id : DeploymentId) (device : DeviceId) : ModelM σ ω Bool :=
  askStore "searching for deployment for the device" (.hasRecord id device)

def saveLog (log : DeploymentLog) : ModelM σ ω Unit := do
  accept log.validate
  if !(← hasRecord log.deploymentId log.deviceId) then throw .deploymentNotFound
  askStore "saving deployment log" (.saveLog log)
  askStore "updating log availability" (.markLog log.deploymentId log.deviceId true)

/-- The log of a device in a deployment. -/
def getLog (id : DeploymentId) (device : DeviceId) : ModelM σ ω (Option DeploymentLog) :=
  askStore "retrieving deployment log" (.findLog id device)

end Fleet.ModelM
