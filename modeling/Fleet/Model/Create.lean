import Fleet.Model.World

/-!
# `Fleet.Model.Create`: starting a deployment

A plan becomes a deployment with one record per device. A device for which there is an
artifact starts as pending, any other is at rest at once. The deployment and its records are
stored one after the other; if the records cannot be stored the deployment is deleted again.
-/

set_option autoImplicit false

namespace Fleet

namespace Plan

/-- The devices of a list, later repetitions dropped and no more than the plan allows. -/
def selectDevices (p : Plan) (candidates : List DeviceId) : List DeviceId :=
  let distinct := candidates.foldl
    (fun done d => if done.contains d then done else done ++ [d]) []
  match p.maxDevices with
  | none => distinct
  | some n => distinct.take n

end Plan

namespace ModelM

variable {σ ω : Type}

/-- The devices that a plan targets, at least one. -/
def resolveDevices (p : Plan) : ModelM σ ω (List DeviceId) := do
  let candidates ← match p.target with
    | .devices ids => pure ids
    | .group name => devicesOfGroup "searching for devices in group" name
  let devices := p.selectDevices candidates
  if devices.isEmpty then throw .noDevices
  return devices

def newRecordFor (d : Deployment) (device : DeviceId) (id : RecordId) :
    ModelM σ ω DeviceRecord := do
  let deviceType ← typeOfDevice "checking device type" device
  let artifact ← match deviceType with
    | some t => artifactByName "assigning artifact to device deployment" d.artifactName t
    | none => pure none
  let r : DeviceRecord :=
    { id, deploymentId := d.id, deviceId := device, artifact, deviceType, status := .pending
      created := d.created }
  return if artifact.isSome then r else r.stopAt .noArtifact d.created

/-- The new records of devices, `position` being the position of the first one. -/
def newRecords (d : Deployment) (position : Nat) : List DeviceId → ModelM σ ω (List DeviceRecord)
  | [] => return []
  | device :: rest => do
    let r ← newRecordFor d device ((← read).newRecord position)
    return r :: (← newRecords d (position + 1) rest)

end ModelM

namespace Deployment

/-- The deployment with the counters and the number of its records, finished at once if all of
them are at rest. -/
def withRecords (d : Deployment) (stats : Stats) (records : List DeviceRecord) : Deployment :=
  let d := { d with stats, deviceCount := records.length, maxDevices := records.length }
  if d.allDevicesTerminal then { d with finished := some d.created } else d

end Deployment

namespace ModelM

variable {σ ω : Type} [DataStore σ]

/-- Stores a deployment and its records, or neither unless deleting fails as well. -/
def storeNew (d : Deployment) (records : List DeviceRecord) : ModelM σ ω Unit := do
  askStore "storing deployment data" (.insertDeployment d)
  match ← tryStore (.insertRecords records) with
  | .ok () => return
  | .error cause =>
    -- The records are stored all or none, so there is only the deployment to take back.
    match ← tryStore (.deleteDeployment d.id) with
    | .ok () => throw (.createRolledBack cause none)
    | .error e => throw (.createRolledBack cause (some e))

/-- Creates a deployment and answers its name. -/
def create (p : Plan) : ModelM σ ω DeploymentId := do
  accept p.validate
  let devices ← resolveDevices p
  let scene ← read
  -- The artifacts of this moment are frozen: later polls look among them first.
  let artifacts ← artifactsByName "searching for artifacts by name" p.artifactName
  let d : Deployment :=
    { id := scene.newDeployment, plan := p, created := scene.now
      artifacts := artifacts.map (·.id) }
  let records ← newRecords d 0 devices
  match Stats.ofStatuses (records.map (·.status)) with
  | .error e => throw (.stats e)
  | .ok stats =>
    let d := d.withRecords stats records
    storeNew d records
    emit .deploymentCreated d.id fun e =>
      { e with deviceCount := some records.length, artifactName := some d.artifactName }
    if d.isFinished then emit .deploymentFinished d.id
    return d.id

end ModelM

end Fleet
