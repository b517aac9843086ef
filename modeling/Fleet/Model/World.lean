import Fleet.Audit
import Fleet.Catalog
import Fleet.Inventory
import Fleet.Link
import Fleet.Model.Error
import Fleet.Model.Fault
import Fleet.Store.Call

/-!
# `Fleet.Model.World`: what operations read and change

An operation reads a `Scene`: who asks, the time, the catalog, the inventory, the names for
new deployments and records and how download links are made. It changes a `World`: the data
store, the object storage, the plan of faults, the journal of writes and the trail of events.
Every collaborator is asked through one of the functions here, which consult the plan of
faults first.
-/

set_option autoImplicit false

namespace Fleet

open Fleet.Time

/-- Object storages that can sign a download link. -/
class LinkIssuer (ω : Type) where
  /-- Signs a link to download the object at a path under a file name. -/
  download (now : Instant) (ctx : Context) (path filename : String) (lifetime : Span) (o : ω) :
    Except ObjectError Link × ω

/-- What an operation reads. -/
structure Scene where
  ctx : Context
  now : Instant
  catalog : Catalog
  inventory : Inventory
  /-- The name of a deployment to be created. -/
  newDeployment : DeploymentId
  /-- The names of records to be created, by their position in the deployment. -/
  newRecord : Nat → RecordId
  linkLifetime : Span := defaultLinkLifetime
  /-- What is put after artifact names in download links. -/
  filenameSuffix : Option String := none

/-- What operations change. -/
structure World (σ ω : Type) where
  store : σ
  objects : ω
  faults : FaultPlan := []
  /-- The calls that may have changed the store, in order, failed ones included. -/
  journal : List StoreCall := []
  trail : List AuditEvent := []

/-- Operations on deployments. -/
abbrev ModelM (σ ω α : Type) := ReaderT Scene (ExceptT ModelError (StateM (World σ ω))) α

namespace World

variable {σ ω : Type}

/-- The world after a call has been entered in the journal, if it may change the store. -/
def noted (w : World σ ω) (c : StoreCall) : World σ ω :=
  if c.isMutating then { w with journal := w.journal ++ [c] } else w

/-- Runs a call of the data store for a tenant, unless a fault strikes it. -/
def callStore [DataStore σ] (w : World σ ω) (tenant : TenantId) (c : StoreCall) :
    Except StoreError c.Answer × World σ ω :=
  let (struck, faults) := FaultPlan.strike c.name w.faults
  let w := { w.noted c with faults }
  match struck with
  | some f => (.error ⟨f.kind, f.detail⟩, w)
  | none =>
    let (answer, store) := DataStore.run tenant c w.store
    (answer, { w with store })

end World

namespace ModelM

variable {σ ω : Type}

/-- Asks the data store and goes on with its answer or its error. -/
def tryStore [DataStore σ] (c : StoreCall) : ModelM σ ω (Except StoreError c.Answer) :=
  fun scene w =>
    let (answer, w) := w.callStore scene.ctx.partition c
    (.ok answer, w)

/-- Asks the data store; a failure ends the operation and names the activity. -/
def askStore [DataStore σ] (activity : String) (c : StoreCall) : ModelM σ ω c.Answer := do
  match ← tryStore c with
  | .ok a => return a
  | .error e => throw (.store activity e)

/-- Takes an answer of a collaborator, unless a fault strikes the call; then the operation ends
with an error made from what the fault says. -/
def consult {α : Type} (target : String) (failure : String → ModelError) (answer : α) :
    ModelM σ ω α :=
  fun _ w =>
    let (struck, faults) := FaultPlan.strike target w.faults
    let w := { w with faults }
    match struck with
    | some f => (.error (failure f.detail), w)
    | none => (.ok answer, w)

/-- Asks the catalog for the first artifact of a name that fits a type of device. -/
def artifactByName (activity name deviceType : String) : ModelM σ ω (Option Artifact) := do
  consult "image_by_name_and_device_type" (.catalog activity)
    ((← read).catalog.findByName name deviceType)

/-- Asks the catalog for the first artifact among some that fits a type of device. -/
def artifactByIds (activity : String) (ids : List ArtifactId) (deviceType : String) :
    ModelM σ ω (Option Artifact) := do
  consult "image_by_ids_and_device_type" (.catalog activity)
    ((← read).catalog.findByIds ids deviceType)

/-- Asks the catalog for all artifacts of a name. -/
def artifactsByName (activity name : String) : ModelM σ ω (List Artifact) := do
  consult "images_by_name" (.catalog activity) ((← read).catalog.allByName name)

/-- Asks the inventory for the type of a device. -/
def typeOfDevice (activity : String) (device : DeviceId) : ModelM σ ω (Option String) := do
  consult "device_type" (.inventory activity) ((← read).inventory.deviceType device)

/-- Asks the inventory for the devices of a group. -/
def devicesOfGroup (activity group : String) : ModelM σ ω (List DeviceId) := do
  consult "devices_in_group" (.inventory activity) ((← read).inventory.devicesInGroup group)

/-- Asks the object storage for a download link. -/
def downloadLink [LinkIssuer ω] (activity path filename : String) : ModelM σ ω Link :=
  fun scene w =>
    let (link, objects) :=
      LinkIssuer.download scene.now scene.ctx path filename scene.linkLifetime w.objects
    (match link with
      | .ok l => .ok l
      | .error e => .error (.storage activity e), { w with objects })

/-- Records an event for a deployment. -/
def emit (kind : AuditKind) (id : DeploymentId) (details : AuditEvent → AuditEvent := fun e => e) :
    ModelM σ ω Unit :=
  fun scene w =>
    (.ok (), { w with trail := w.trail ++ [details (.of scene.ctx scene.now kind id)] })

/-- Ends the operation if the input breaks a rule. -/
def accept (r : Except ValidationError Unit) : ModelM σ ω Unit :=
  match r with
  | .ok () => pure ()
  | .error e => throw (.validation e)

end ModelM

end Fleet
