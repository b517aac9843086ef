import Fleet.Store.Call
import Fleet.Table.Basic

/-!
# `Fleet.Store.Memory`: a data store of tables

The store keeps one `Partition` per tenant: tables of deployments, records and logs. Records
and logs are found by the pair of deployment and device.
-/

set_option autoImplicit false

namespace Fleet

open Fleet.Time

/-- What one tenant has stored. -/
structure Partition where
  deployments : Table DeploymentId Deployment := ∅
  records : Table (DeploymentId × DeviceId) DeviceRecord := ∅
  logs : Table (DeploymentId × DeviceId) DeploymentLog := ∅
deriving DecidableEq, Inhabited

namespace Partition

/-- The records of a deployment in the order of devices. -/
def recordsOf (p : Partition) (id : DeploymentId) : List DeviceRecord :=
  p.records.values.filter (·.deploymentId = id)

def activeOf (p : Partition) (device : DeviceId) : List DeviceRecord :=
  p.records.values.filter fun r => r.deviceId = device && r.status.isActive

/-- Changes a deployment, or fails if there is none with the name. -/
def updateDeployment (p : Partition) (id : DeploymentId)
    (f : Deployment → Except StoreError Deployment) : Except StoreError Partition :=
  match p.deployments.get? id with
  | none => .error (.noDeployment id)
  | some d => (f d).map fun d' => { p with deployments := p.deployments.insert id d' }

/-- Changes a record, or fails if there is none with the names. -/
def updateRecord (p : Partition) (id : DeploymentId) (device : DeviceId)
    (f : DeviceRecord → DeviceRecord) : Except StoreError (DeviceRecord × Partition) :=
  match p.records.get? (id, device) with
  | none => .error (.noRecord id device)
  | some r => .ok (r, { p with records := p.records.insert (id, device) (f r) })

/-- Adds a record, or fails if there is one for the device in the deployment. -/
def addRecord (p : Partition) (r : DeviceRecord) : Except StoreError Partition :=
  if p.records.contains r.key then .error (.recordExists r.deploymentId r.deviceId)
  else .ok { p with records := p.records.insert r.key r }

/-- Puts the records that pass a test to rest. -/
def stopRecords (p : Partition) (test : DeviceRecord → Bool) (s : DeviceStatus)
    (finished : Instant) : Partition :=
  { p with
    records := p.records.mapValues fun r =>
      if test r && r.status.isActive then r.stopAt s finished else r }

end Partition

/-- Whether one record was created before another; deployment names decide between equal
times. -/
def createdBefore (a b : DeviceRecord) : Bool :=
  a.created.nanos < b.created.nanos
    || (a.created.nanos = b.created.nanos && a.deploymentId < b.deploymentId)

/-- The first of the records created before all others. -/
def oldest : List DeviceRecord → Option DeviceRecord
  | [] => none
  | r :: rest =>
    match oldest rest with
    | none => some r
    | some s => if createdBefore s r then some s else some r

/-- The names of a list in ascending order, each once. -/
def sortedNames (l : List String) : List String :=
  (l.foldl (fun (t : Table String Unit) n => t.insert n ()) ∅).entries.map (·.1)

namespace Partition

/-- Runs a call on the part of one tenant. An error leaves the part as it was. -/
def run (p : Partition) : (c : StoreCall) → Except StoreError (c.Answer × Partition)
  | .insertDeployment d =>
    if p.deployments.contains d.id then .error (.deploymentExists d.id)
    else .ok ((), { p with deployments := p.deployments.insert d.id d })
  | .deleteDeployment id => .ok ((), { p with deployments := p.deployments.erase id })
  | .findDeployment id => .ok (p.deployments.get? id, p)
  | .findUnfinished id => .ok ((p.deployments.get? id).filter (!·.isFinished), p)
  | .findDeployments q => .ok (q.apply p.deployments.values, p)
  | .countDevices id => .ok ((p.recordsOf id).length, p)
  | .moveDevice id old new =>
    (p.updateDeployment id fun d =>
      match d.stats.transition old new with
      | .ok st => .ok (d.withStats st)
      | .error e => .error (.ofStats e)).map ((), ·)
  | .finishWithStats id stats finished =>
    (p.updateDeployment id fun d => .ok ((d.withStats stats).finishAt finished)).map ((), ·)
  | .finishDeployment id finished =>
    (p.updateDeployment id fun d => .ok (d.finishAt finished)).map ((), ·)
  | .insertRecords records => (records.foldlM addRecord p).map ((), ·)
  | .findRecord id device => .ok (p.records.get? (id, device), p)
  | .findOldestActive device => .ok (oldest (p.activeOf device), p)
  | .findRecords id => .ok (p.recordsOf id, p)
  | .hasRecord id device => .ok (p.records.contains (id, device), p)
  | .updateStatus id device status substate finished =>
    (p.updateRecord id device (·.withStatus status substate finished)).map fun (r, p) =>
      (r.status, p)
  | .assignArtifact id device deviceType a =>
    (p.updateRecord id device (·.withArtifact deviceType a)).map fun (_, p) => ((), p)
  | .abortRecords id finished =>
    .ok ((), p.stopRecords (·.deploymentId = id) .aborted finished)
  | .decommissionRecords device finished =>
    .ok (sortedNames ((p.activeOf device).map (·.deploymentId)),
      p.stopRecords (·.deviceId = device) .decommissioned finished)
  | .countByStatus id =>
    match Stats.ofStatuses ((p.recordsOf id).map (·.status)) with
    | .ok st => .ok (st, p)
    | .error e => .error (.ofStats e)
  | .markLog id device available =>
    (p.updateRecord id device (·.withLogMark available)).map fun (_, p) => ((), p)
  | .saveLog log => .ok ((), { p with logs := p.logs.insert log.key log })
  | .findLog id device => .ok (p.logs.get? (id, device), p)

end Partition

/-- A data store of tables: every tenant has a part, at first without contents. -/
@[ext] structure MemoryStore where
  partition : TenantId → Partition := fun _ => {}

namespace MemoryStore

instance : Inhabited MemoryStore := ⟨{}⟩

/-- The store with another part of a tenant. -/
def withPartition (s : MemoryStore) (tenant : TenantId) (p : Partition) : MemoryStore :=
  ⟨fun t => if t = tenant then p else s.partition t⟩

instance : DataStore MemoryStore where
  run tenant c s :=
    match (s.partition tenant).run c with
    | .ok (a, p) => (.ok a, s.withPartition tenant p)
    | .error e => (.error e, s)

/-- The partition that was put in for a tenant is the one that is found for it. -/
@[simp] theorem partition_withPartition_self (s : MemoryStore) (tenant : TenantId)
    (p : Partition) : (s.withPartition tenant p).partition tenant = p := by
  simp [withPartition]

/-- Putting in a partition for one tenant does not show in the partition of another. -/
theorem partition_withPartition_of_ne (s : MemoryStore) {t tenant : TenantId} (p : Partition)
    (h : t ≠ tenant) : (s.withPartition tenant p).partition t = s.partition t := by
  simp [withPartition, h]

/-- Putting back the partition that a tenant has changes nothing. -/
@[simp] theorem withPartition_partition (s : MemoryStore) (tenant : TenantId) :
    s.withPartition tenant (s.partition tenant) = s := by
  ext t
  by_cases h : t = tenant <;> simp [withPartition, h]

/-- Of two parts given to a tenant the second stays. -/
@[simp] theorem withPartition_withPartition (s : MemoryStore) (tenant : TenantId)
    (p p' : Partition) :
    (s.withPartition tenant p).withPartition tenant p' = s.withPartition tenant p' := by
  ext t
  by_cases h : t = tenant <;> simp [withPartition, h]

/-- Partitions of two tenants can be put in in either order. -/
theorem withPartition_comm (s : MemoryStore) {tenant tenant' : TenantId} (p p' : Partition)
    (h : tenant ≠ tenant') : (s.withPartition tenant p).withPartition tenant' p'
      = (s.withPartition tenant' p').withPartition tenant p := by
  refine MemoryStore.ext (funext fun t => ?_)
  by_cases ht : t = tenant
  · subst ht
    simp [withPartition, h]
  · simp [withPartition, ht]

end MemoryStore

end Fleet
