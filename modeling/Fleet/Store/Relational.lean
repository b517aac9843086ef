import Fleet.Codec.Record
import Fleet.Json.Parser
import Fleet.Json.Printer
import Fleet.Store.Memory
import Fleet.Time.Stamp

/-!
# `Fleet.Store.Relational`: a data store of rows

A `Database` has three relations, whose rows are found by tenant and names. A row holds a
JSON document with all of the value, and beside it the columns that selections use: the time
of creation, whether a deployment is finished, and the status of a record. Documents are read
each time they are needed. A changed value is written to the row that the names in the value
itself tell, unless it cannot be written. A call that fails leaves the database as it was.
-/

set_option autoImplicit false

namespace Fleet

open Fleet.Time Fleet.Codec Fleet.Json

structure DeploymentRow where
  /-- The time of creation in nanoseconds. -/
  createdNanos : Int
  /-- Whether the finish time is set. -/
  finished : Bool
  document : String
deriving DecidableEq, Repr

structure RecordRow where
  /-- The token of the status. -/
  status : String
  createdNanos : Int
  document : String
deriving DecidableEq, Repr

/-- The names that find a record or a log. -/
abbrev RecordKey := TenantId × DeploymentId × DeviceId

/-- The relations of a store. -/
structure Database where
  deployments : Table (TenantId × DeploymentId) DeploymentRow := ∅
  records : Table RecordKey RecordRow := ∅
  logs : Table RecordKey String := ∅
deriving DecidableEq, Inhabited

namespace Database

/-- The detail of the error for a document that cannot be read. -/
def unreadable : String := "unreadable document"

def decode {α : Type} (dec : Decoder α) (document : String) : Except StoreError α :=
  match (Json.parse? document).bind dec with
  | some a => .ok a
  | none => .error ⟨.corrupt, unreadable⟩

def decodeOption {α : Type} (dec : Decoder α) : Option String → Except StoreError (Option α)
  | none => .ok none
  | some document => (decode dec document).map some

/-- The document of a value. -/
def encode {α : Type} (enc : Encoder α) (a : α) : Except StoreError String :=
  match enc a with
  | .ok v => .ok v.render
  | .error reason => .error ⟨.invalid, reason⟩

/-- The time of a value in nanoseconds, if a 64-bit column can hold it. -/
def timeColumn (t : Instant) : Except StoreError Int :=
  if t.hasWordNanos then .ok t.nanos
  else .error ⟨.invalid, "timestamp out of range: " ++ t.displayText⟩

/-- The row of a deployment. -/
def deploymentRow (d : Deployment) : Except StoreError DeploymentRow := do
  let createdNanos ← timeColumn d.created
  return { createdNanos, finished := d.finished.isSome, document := ← encode encodeDeployment d }

/-- The row of a record. -/
def recordRow (r : DeviceRecord) : Except StoreError RecordRow := do
  let createdNanos ← timeColumn r.created
  return { status := r.status.token, createdNanos, document := ← encode encodeRecord r }

def loadDeployment (db : Database) (tenant : TenantId) (id : DeploymentId) :
    Except StoreError (Option Deployment) :=
  decodeOption decodeDeployment ((db.deployments.get? (tenant, id)).map (·.document))

/-- The record of a device in a deployment. -/
def loadRecord (db : Database) (tenant : TenantId) (id : DeploymentId) (device : DeviceId) :
    Except StoreError (Option DeviceRecord) :=
  decodeOption decodeRecord ((db.records.get? (tenant, id, device)).map (·.document))

/-- Writes the document of a deployment to the row of its name, if there is one. -/
def storeDeployment (db : Database) (tenant : TenantId) (d : Deployment) (document : String) :
    Database :=
  { db with
    deployments := db.deployments.modify (tenant, d.id) fun row =>
      { row with finished := d.finished.isSome, document } }

/-- Writes the document of a record to the row of its names, if there is one. -/
def storeRecord (db : Database) (tenant : TenantId) (r : DeviceRecord) (document : String) :
    Database :=
  { db with
    records := db.records.modify (tenant, r.deploymentId, r.deviceId) fun row =>
      { row with status := r.status.token, document } }

/-- Changes a deployment, or fails if there is none with the name. -/
def updateDeployment (db : Database) (tenant : TenantId) (id : DeploymentId)
    (f : Deployment → Except StoreError Deployment) : Except StoreError Database := do
  match ← db.loadDeployment tenant id with
  | none => .error (.noDeployment id)
  | some d =>
    let d ← f d
    return db.storeDeployment tenant d (← encode encodeDeployment d)

/-- Changes a record, or fails if there is none with the names. -/
def updateRecord (db : Database) (tenant : TenantId) (id : DeploymentId) (device : DeviceId)
    (f : DeviceRecord → DeviceRecord) : Except StoreError (DeviceRecord × Database) := do
  match ← db.loadRecord tenant id device with
  | none => .error (.noRecord id device)
  | some r => return (r, db.storeRecord tenant (f r) (← encode encodeRecord (f r)))

/-- Adds a record, or fails if there is no row for it or its names are taken. -/
def addRecord (tenant : TenantId) (db : Database) (r : DeviceRecord) :
    Except StoreError Database := do
  let row ← recordRow r
  let key := (tenant, r.deploymentId, r.deviceId)
  if db.records.contains key then .error (.recordExists r.deploymentId r.deviceId)
  else return { db with records := db.records.insert key row }

/-- The rows of records that pass a test on their names, in the order of names. -/
def recordRows (db : Database) (test : RecordKey → Bool) : List (RecordKey × RecordRow) :=
  db.records.entries.filter fun e => test e.1

/-- The rows of the records of a deployment. -/
def rowsOfDeployment (db : Database) (tenant : TenantId) (id : DeploymentId) :
    List (RecordKey × RecordRow) :=
  db.recordRows fun k => k.1 = tenant && k.2.1 = id

/-- The rows of the records of a device. -/
def rowsOfDevice (db : Database) (tenant : TenantId) (device : DeviceId) :
    List (RecordKey × RecordRow) :=
  db.recordRows fun k => k.1 = tenant && k.2.2 = device

/-- The records in some rows. -/
def decodeRows (rows : List (RecordKey × RecordRow)) : Except StoreError (List DeviceRecord) :=
  rows.mapM fun e => decode decodeRecord e.2.document

/-- Whether one row comes before another by creation and deployment. -/
def rowBefore (a b : RecordKey × RecordRow) : Bool :=
  a.2.createdNanos < b.2.createdNanos
    || (a.2.createdNanos = b.2.createdNanos && a.1.2.1 ≤ b.1.2.1)

/-- Puts the active ones of some records to rest. -/
def stopRecords (db : Database) (tenant : TenantId) (records : List DeviceRecord)
    (s : DeviceStatus) (finished : Instant) : Except StoreError Database :=
  (records.filter (·.status.isActive)).foldlM (fun db r => do
    let r := r.stopAt s finished
    return db.storeRecord tenant r (← encode encodeRecord r)) db

/-- The counters of the status columns of some rows. -/
def countRows (rows : List (RecordKey × RecordRow)) : Except StoreError Stats := do
  let statuses ← rows.mapM fun e =>
    match DeviceStatus.ofToken? e.2.status with
    | some s => .ok s
    | none => .error ⟨.corrupt, DeviceStatus.unknownMessage e.2.status⟩
  match Stats.ofStatuses statuses with
  | .ok st => .ok st
  | .error e => .error (.ofStats e)

/-- Runs a call for a tenant. -/
def run (db : Database) (tenant : TenantId) :
    (c : StoreCall) → Except StoreError (c.Answer × Database)
  | .insertDeployment d => do
    let row ← deploymentRow d
    if db.deployments.contains (tenant, d.id) then .error (.deploymentExists d.id)
    else return ((), { db with deployments := db.deployments.insert (tenant, d.id) row })
  | .deleteDeployment id =>
    .ok ((), { db with deployments := db.deployments.erase (tenant, id) })
  | .findDeployment id => do return (← db.loadDeployment tenant id, db)
  | .findUnfinished id => do
    let row := (db.deployments.get? (tenant, id)).filter (!·.finished)
    return (← decodeOption decodeDeployment (row.map (·.document)), db)
  | .findDeployments q => do
    let rows := db.deployments.entries.filter (·.1.1 = tenant)
    let found ← rows.mapM fun e => decode decodeDeployment e.2.document
    return (q.apply found, db)
  | .countDevices id => .ok ((db.rowsOfDeployment tenant id).length, db)
  | .moveDevice id old new =>
    (db.updateDeployment tenant id fun d =>
      match d.stats.transition old new with
      | .ok st => .ok (d.withStats st)
      | .error e => .error (.ofStats e)).map ((), ·)
  | .finishWithStats id stats finished =>
    (db.updateDeployment tenant id fun d =>
      .ok ((d.withStats stats).finishAt finished)).map ((), ·)
  | .finishDeployment id finished => do
    match ← db.loadDeployment tenant id with
    | none => .error (.noDeployment id)
    | some d =>
      -- The first finish time stays.
      if d.isFinished then return ((), db)
      else
        let d := d.finishAt finished
        return ((), db.storeDeployment tenant d (← encode encodeDeployment d))
  | .insertRecords records => (records.foldlM (addRecord tenant) db).map ((), ·)
  | .findRecord id device => do return (← db.loadRecord tenant id device, db)
  | .findOldestActive device => do
    -- The columns decide the order, the documents which of the records are active.
    let records ← decodeRows ((db.rowsOfDevice tenant device).mergeSort rowBefore)
    return (records.find? (·.status.isActive), db)
  | .findRecords id => do return (← decodeRows (db.rowsOfDeployment tenant id), db)
  | .hasRecord id device => .ok (db.records.contains (tenant, id, device), db)
  | .updateStatus id device status substate finished =>
    (db.updateRecord tenant id device (·.withStatus status substate finished)).map fun (r, db) =>
      (r.status, db)
  | .assignArtifact id device deviceType a =>
    (db.updateRecord tenant id device (·.withArtifact deviceType a)).map fun (_, db) => ((), db)
  | .abortRecords id finished => do
    let records ← decodeRows (db.rowsOfDeployment tenant id)
    return ((), ← db.stopRecords tenant records .aborted finished)
  | .decommissionRecords device finished => do
    -- All documents of the device are read, also those that the stop leaves alone.
    let records ← decodeRows (db.rowsOfDevice tenant device)
    let affected := (records.filter (·.status.isActive)).map (·.deploymentId)
    return (sortedNames affected, ← db.stopRecords tenant records .decommissioned finished)
  | .countByStatus id => do return (← countRows (db.rowsOfDeployment tenant id), db)
  | .markLog id device available =>
    (db.updateRecord tenant id device (·.withLogMark available)).map fun (_, db) => ((), db)
  | .saveLog log => do
    let document ← encode encodeLog log
    return ((), { db with
      logs := db.logs.insert (tenant, log.deploymentId, log.deviceId) document })
  | .findLog id device => do
    return (← decodeOption decodeLog (db.logs.get? (tenant, id, device)), db)

instance : DataStore Database where
  run tenant c db :=
    match db.run tenant c with
    | .ok (a, db') => (.ok a, db')
    | .error e => (.error e, db)

end Database

end Fleet
