import Fleet.Store.Relational

/-!
# `Fleet.Store.InPlace`: the calls of a data store, write by write

`Partition.run` and `Database.run` say what a call answers and what it leaves. This module says
how the call gets there. An `InPlace` program changes its state one write after another, and a
program that fails keeps what it wrote until then. So nothing here is all or nothing by itself:

* In tables, a call makes all its checks before its first write. Counters are moved on a copy,
  since only the second one of two may turn out to be full (`Stats.move`).
* In a database, a call is one statement or a transaction. A `Connection` plans which of its
  statements fail, besides those that the contents of the database make fail. Dropping a
  transaction undoes what it did, which is up to the `Engine`.
-/

set_option autoImplicit false

namespace Fleet

open Fleet.Time Fleet.Codec

/-- A program that changes a state in place. What it wrote before an error stays. -/
abbrev InPlace (ε σ α : Type) := ExceptT ε (StateM σ) α

/-- Runs a program on a copy, which takes the place of the original if all went well. -/
def InPlace.onCopy {ε σ α : Type} (m : InPlace ε σ α) : InPlace ε σ α := fun s =>
  match m s with
  | (.ok a, s') => (.ok a, s')
  | (.error e, _) => (.error e, s)

/-! ### Counters -/

namespace Stats

/-- Counts one device more. -/
def countUp (s : DeviceStatus) : InPlace StatsError Stats Unit := do
  let n := (← get).count s
  if n = maxCount then throw (.overflow s) else modify (·.set s (n + 1))

/-- Counts one device less. -/
def countDown (s : DeviceStatus) : InPlace StatsError Stats Unit := do
  let n := (← get).count s
  if n = 0 then throw (.underflow s) else modify (·.set s (n - 1))

/-- Moves one device from a status to another. -/
def move (old new : DeviceStatus) : InPlace StatsError Stats Unit :=
  if old = new then pure () else InPlace.onCopy do
    countDown old
    countUp new

end Stats

/-- Runs a program on the counters of a deployment. -/
def Deployment.onStats {α : Type} (m : InPlace StatsError Stats α) :
    InPlace StoreError Deployment α := fun d =>
  let (answer, st) := m d.stats
  (answer.mapError .ofStats, d.withStats st)

/-! ### Tables -/

namespace Partition

variable {α : Type}

/-- Runs a program on a deployment where it stands, or fails if there is none with the name. -/
def onDeployment (id : DeploymentId) (m : InPlace StoreError Deployment α) :
    InPlace StoreError Partition α := fun p =>
  match p.deployments.get? id with
  | none => (.error (.noDeployment id), p)
  | some d =>
    let (answer, d') := m d
    (answer, { p with deployments := p.deployments.insert id d' })

/-- Runs a program on a record where it stands, or fails if there is none with the names. -/
def onRecord (id : DeploymentId) (device : DeviceId) (m : InPlace StoreError DeviceRecord α) :
    InPlace StoreError Partition α := fun p =>
  match p.records.get? (id, device) with
  | none => (.error (.noRecord id device), p)
  | some r =>
    let (answer, r') := m r
    (answer, { p with records := p.records.insert (id, device) r' })

/-- Fails at the first record with a key that is in use or among those of earlier records. -/
def checkFree (earlier : List (DeploymentId × DeviceId)) :
    List DeviceRecord → InPlace StoreError Partition Unit
  | [] => pure ()
  | r :: rest => do
    if (← get).records.contains r.key ∨ r.key ∈ earlier then
      throw (.recordExists r.deploymentId r.deviceId)
    else checkFree (r.key :: earlier) rest

/-- Stores records one after the other, whatever there was before. -/
def placeEach : List DeviceRecord → InPlace StoreError Partition Unit
  | [] => pure ()
  | r :: rest => do
    modify fun p => { p with records := p.records.insert r.key r }
    placeEach rest

/-- Puts the records under some keys to rest, if they pass a test, one after the other. Answers
which deployments had one. -/
def stopEach (test : DeviceRecord → Bool) (s : DeviceStatus) (finished : Instant) :
    List (DeploymentId × DeviceId) → InPlace StoreError Partition (List DeploymentId)
  | [] => pure []
  | key :: rest => do
    match (← get).records.get? key with
    | none => stopEach test s finished rest
    | some r =>
      if test r && r.status.isActive then
        modify fun p => { p with records := p.records.insert key (r.stopAt s finished) }
        return r.deploymentId :: (← stopEach test s finished rest)
      else stopEach test s finished rest

/-- The keys of all records. -/
def recordKeys (p : Partition) : List (DeploymentId × DeviceId) := p.records.entries.map (·.1)

/-- A call that only looks. -/
def look (c : StoreCall) : InPlace StoreError Partition c.Answer := fun p =>
  ((p.run c).map (·.1), p)

/-- The program of a call. -/
def steps : (c : StoreCall) → InPlace StoreError Partition c.Answer
  | .insertDeployment d => do
    if (← get).deployments.contains d.id then throw (.deploymentExists d.id)
    else modify fun p => { p with deployments := p.deployments.insert d.id d }
  | .deleteDeployment id =>
    modify fun p => { p with deployments := p.deployments.erase id }
  | .moveDevice id old new => onDeployment id (Deployment.onStats (Stats.move old new))
  | .finishWithStats id stats finished => onDeployment id do
    modify (·.withStats stats)
    modify (·.finishAt finished)
  | .finishDeployment id finished => onDeployment id (modify (·.finishAt finished))
  | .insertRecords records => do
    checkFree [] records
    placeEach records
  | .updateStatus id device status substate finished => onRecord id device do
    let old := (← get).status
    modify (·.withStatus status substate finished)
    return old
  | .assignArtifact id device deviceType a =>
    onRecord id device (modify (·.withArtifact deviceType a))
  | .abortRecords id finished => do
    let _ ← stopEach (·.deploymentId = id) .aborted finished (← get).recordKeys
  | .decommissionRecords device finished => do
    let affected ← stopEach (·.deviceId = device) .decommissioned finished (← get).recordKeys
    return sortedNames affected
  | .markLog id device available => onRecord id device (modify (·.withLogMark available))
  | .saveLog log => modify fun p => { p with logs := p.logs.insert log.key log }
  | .findDeployment id => look (.findDeployment id)
  | .findUnfinished id => look (.findUnfinished id)
  | .findDeployments q => look (.findDeployments q)
  | .countDevices id => look (.countDevices id)
  | .findRecord id device => look (.findRecord id device)
  | .findOldestActive device => look (.findOldestActive device)
  | .findRecords id => look (.findRecords id)
  | .hasRecord id device => look (.hasRecord id device)
  | .countByStatus id => look (.countByStatus id)
  | .findLog id device => look (.findLog id device)

end Partition

/-- The program of a call on the part of a tenant. -/
def MemoryStore.steps (tenant : TenantId) (c : StoreCall) :
    InPlace StoreError MemoryStore c.Answer := fun s =>
  let (answer, p) := Partition.steps c (s.partition tenant)
  (answer, s.withPartition tenant p)

/-! ### Databases -/

/-- What a database leaves to the engine that keeps it. -/
structure Engine where
  /-- What becomes of a database when a transaction is dropped that began with the first database
  and got as far as the second. -/
  rollback : Database → Database → Database

/-- Dropping a transaction restores the database with which it began. -/
def Engine.RollsBack (engine : Engine) : Prop :=
  ∀ before dirty, engine.rollback before dirty = before

/-- A database with what will go wrong. -/
structure Connection where
  database : Database
  /-- What the engine refuses each of the next statements with, if it does. -/
  troubles : List (Option StoreError) := []

namespace Connection

variable {α : Type}

/-- A statement. If it fails, it writes nothing. -/
def statement (f : Database → Except StoreError (α × Database)) :
    InPlace StoreError Connection α := fun conn =>
  match conn.troubles with
  | some e :: later => (.error e, { conn with troubles := later })
  | _ =>
    match f conn.database with
    | .ok (a, db) => (.ok a, ⟨db, conn.troubles.tail⟩)
    | .error e => (.error e, ⟨conn.database, conn.troubles.tail⟩)

/-- A statement that selects. -/
def select (f : Database → α) : InPlace StoreError Connection α :=
  statement fun db => .ok (f db, db)

/-- A statement that selects something to be read, which may turn out to be unreadable. -/
def fetch (f : Database → Except StoreError α) : InPlace StoreError Connection α := do
  MonadExcept.ofExcept (← select f)

/-- A statement that selects something that must be there. -/
def expect (f : Database → Except StoreError (Option α)) (missing : StoreError) :
    InPlace StoreError Connection α := do
  match ← fetch f with
  | none => throw missing
  | some a => return a

/-- A statement that writes. -/
def write (f : Database → Database) : InPlace StoreError Connection Unit :=
  statement fun db => .ok ((), f db)

/-- Runs a program between the statements that begin and commit a transaction. -/
def transaction (engine : Engine) (m : InPlace StoreError Connection α) :
    InPlace StoreError Connection α := fun conn =>
  let attempt : InPlace StoreError Connection α := do
    write id
    let a ← m
    write id
    return a
  match attempt conn with
  | (.ok a, conn') => (.ok a, conn')
  | (.error e, conn') =>
    (.error e, { conn' with database := engine.rollback conn.database conn'.database })

end Connection

namespace Database

open Connection

/-- Selects a deployment, or fails if there is none with the name. -/
def expectDeployment (tenant : TenantId) (id : DeploymentId) :
    InPlace StoreError Connection Deployment :=
  expect (·.loadDeployment tenant id) (.noDeployment id)

/-- Writes a deployment with a statement, unless there is no document of it. -/
def putDeployment (tenant : TenantId) (d : Deployment) : InPlace StoreError Connection Unit := do
  let document ← MonadExcept.ofExcept (encode encodeDeployment d)
  write (·.storeDeployment tenant d document)

/-- Writes a record with a statement, unless there is no document of it. -/
def putRecord (tenant : TenantId) (r : DeviceRecord) : InPlace StoreError Connection Unit := do
  let document ← MonadExcept.ofExcept (encode encodeRecord r)
  write (·.storeRecord tenant r document)

/-- Changes a record with two statements, and answers what it was. -/
def changeRecord (tenant : TenantId) (id : DeploymentId) (device : DeviceId)
    (f : DeviceRecord → DeviceRecord) : InPlace StoreError Connection DeviceRecord := do
  let r ← expect (·.loadRecord tenant id device) (.noRecord id device)
  putRecord tenant (f r)
  return r

/-- Inserts records with a statement each. The row of a record is made before its own statement,
but after those of earlier records. -/
def insertEach (tenant : TenantId) : List DeviceRecord → InPlace StoreError Connection Unit
  | [] => pure ()
  | r :: rest => do
    let _ ← MonadExcept.ofExcept (recordRow r)
    statement fun db => (addRecord tenant db r).map ((), ·)
    insertEach tenant rest

/-- Puts the active ones of some records to rest with a statement each, and answers which
deployments had one. -/
def stopEach (tenant : TenantId) (s : DeviceStatus) (finished : Instant) :
    List DeviceRecord → InPlace StoreError Connection (List DeploymentId)
  | [] => pure []
  | r :: rest => do
    if r.status.isActive then
      putRecord tenant (r.stopAt s finished)
      return r.deploymentId :: (← stopEach tenant s finished rest)
    else stopEach tenant s finished rest

/-- A call that only selects. -/
def look (tenant : TenantId) (c : StoreCall) : InPlace StoreError Connection c.Answer :=
  fetch fun db => (db.run tenant c).map (·.1)

/-- The program of a call. -/
def steps (engine : Engine) (tenant : TenantId) :
    (c : StoreCall) → InPlace StoreError Connection c.Answer
  | .insertDeployment d => do
    let _ ← MonadExcept.ofExcept (deploymentRow d)
    statement (·.run tenant (.insertDeployment d))
  | .deleteDeployment id => statement (·.run tenant (.deleteDeployment id))
  | .moveDevice id old new => transaction engine do
    let d ← expectDeployment tenant id
    match Deployment.onStats (Stats.move old new) d with
    | (.ok (), d') => putDeployment tenant d'
    | (.error e, _) => throw e
  | .finishWithStats id stats finished => transaction engine do
    let d ← expectDeployment tenant id
    putDeployment tenant ((d.withStats stats).finishAt finished)
  | .finishDeployment id finished => transaction engine do
    let d ← expectDeployment tenant id
    if d.isFinished then return
    putDeployment tenant (d.finishAt finished)
  | .insertRecords records => transaction engine (insertEach tenant records)
  | .updateStatus id device status substate finished => transaction engine do
    let r ← changeRecord tenant id device (·.withStatus status substate finished)
    return r.status
  | .assignArtifact id device deviceType a => transaction engine do
    let _ ← changeRecord tenant id device (·.withArtifact deviceType a)
  | .abortRecords id finished => transaction engine do
    let records ← fetch fun db => decodeRows (db.rowsOfDeployment tenant id)
    let _ ← stopEach tenant .aborted finished records
  | .decommissionRecords device finished => transaction engine do
    let records ← fetch fun db => decodeRows (db.rowsOfDevice tenant device)
    return sortedNames (← stopEach tenant .decommissioned finished records)
  | .markLog id device available => transaction engine do
    let _ ← changeRecord tenant id device (·.withLogMark available)
  | .saveLog log => do
    let _ ← MonadExcept.ofExcept (encode encodeLog log)
    statement (·.run tenant (.saveLog log))
  | .findDeployment id => look tenant (.findDeployment id)
  | .findUnfinished id => look tenant (.findUnfinished id)
  | .findDeployments q => look tenant (.findDeployments q)
  | .countDevices id => look tenant (.countDevices id)
  | .findRecord id device => look tenant (.findRecord id device)
  | .findOldestActive device => look tenant (.findOldestActive device)
  | .findRecords id => look tenant (.findRecords id)
  | .hasRecord id device => look tenant (.hasRecord id device)
  | .countByStatus id => look tenant (.countByStatus id)
  | .findLog id device => look tenant (.findLog id device)

end Database

end Fleet
