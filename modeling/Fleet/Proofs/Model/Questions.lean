import Fleet.Model.Run

/-!
# `Fleet.Proofs.Model.Questions`: operations are chains of questions

`ModelM.Asks` says that a computation is put together from questions to its collaborators, and
which calls of the data store are among them. What every question does to a world, and what a
chain of two such computations does, every computation of this kind does: a property of all
operations is an induction over `Asks` away.

There is one lemma for each part of an operation. Most parts make calls only that leave records
and logs alone, whatever the store finds (`StoreCall.IsTame`). A report and a poll may change the
record of a device, but neither adds a record nor has to do with logs (`StoreCall.SparesLogs`).
That leaves a creation, which may be taken back, and the storing of a log.
-/

set_option autoImplicit false

namespace Fleet

/-- A call that adds no record, and has to do with no log and no mark of one. -/
def StoreCall.SparesLogs : StoreCall → Prop
  | .insertRecords _ | .saveLog _ | .markLog .. => False
  | _ => True

/-- A call that has to do with no log, takes no deployment away, and neither adds a record nor
changes one that may be at rest. -/
def StoreCall.IsTame : StoreCall → Prop
  | .deleteDeployment _ | .updateStatus .. | .assignArtifact .. => False
  | c => c.SparesLogs

/-- A tame call has nothing to do with logs. -/
theorem StoreCall.IsTame.sparesLogs {c : StoreCall} (h : c.IsTame) : c.SparesLogs := by
  cases c <;> trivial

namespace ModelM

/-- A computation that is put together from questions, those to the data store being calls of
some kind. -/
inductive Asks {σ ω : Type} [DataStore σ] [LinkIssuer ω] (kind : StoreCall → Prop) :
    {α : Type} → ModelM σ ω α → Prop where
  | pure {α : Type} (a : α) : Asks kind (pure a)
  | throw {α : Type} (e : ModelError) : Asks kind (throw e : ModelM σ ω α)
  | read : Asks kind read
  | bind {α β : Type} {m : ModelM σ ω α} {f : α → ModelM σ ω β} (first : Asks kind m)
      (rest : ∀ a, Asks kind (f a)) : Asks kind (m >>= f)
  | tryStore {c : StoreCall} (hc : kind c) : Asks kind (tryStore c)
  | consult {α : Type} (target : String) (failure : String → ModelError) (a : α) :
      Asks kind (consult target failure a)
  | downloadLink (activity path filename : String) :
      Asks kind (downloadLink activity path filename)
  | emit (event : AuditKind) (id : DeploymentId) (details : AuditEvent → AuditEvent) :
      Asks kind (emit event id details)

namespace Asks

variable {σ ω α β : Type} [DataStore σ] [LinkIssuer ω] {kind kind' : StoreCall → Prop}

/-- A computation that asks for calls of one kind asks for calls of any wider kind. -/
theorem mono {m : ModelM σ ω α} (h : Asks kind m) (hkind : ∀ c, kind c → kind' c) :
    Asks kind' m := by
  induction h with
  | pure a => exact .pure a
  | throw e => exact .throw e
  | read => exact .read
  | bind first rest ih ih' => exact .bind ih ih'
  | tryStore hc => exact .tryStore (hkind _ hc)
  | consult target failure a => exact .consult target failure a
  | downloadLink activity path filename => exact .downloadLink activity path filename
  | emit event id details => exact .emit event id details

/-- A computation that makes calls of some kind makes calls. -/
theorem any {m : ModelM σ ω α} (h : Asks kind m) : Asks (fun _ => True) m :=
  h.mono fun _ _ => trivial

/-- A computation that makes tame calls only spares the logs. -/
theorem sparesLogs {m : ModelM σ ω α} (h : Asks StoreCall.IsTame m) :
    Asks StoreCall.SparesLogs m :=
  h.mono fun _ hc => hc.sparesLogs

/-- A call of the store that ends the operation if it fails is one question. -/
theorem askStore (activity : String) {c : StoreCall} (hc : kind c) :
    Asks kind (askStore activity c : ModelM σ ω _) := by
  refine .bind (.tryStore hc) fun answer => ?_
  cases answer with
  | ok a => exact .pure a
  | error e => exact .throw _

/-- A check asks nobody. -/
theorem accept (r : Except ValidationError Unit) : Asks kind (accept r : ModelM σ ω Unit) := by
  cases r with
  | ok u => exact .pure ()
  | error e => exact .throw _

/-- A decision asks what its branches ask. -/
theorem ite {c : Prop} [Decidable c] {m m' : ModelM σ ω α} (h : Asks kind m) (h' : Asks kind m') :
    Asks kind (if c then m else m') := by
  split
  · exact h
  · exact h'

/-- A computation that goes on unless it is stopped by an error. -/
theorem stopIf {c : Prop} [Decidable c] {e : ModelError} {f : Unit → ModelM σ ω β}
    (h : Asks kind (f ())) : Asks kind (if c then MonadExcept.throw e >>= f else f ()) := by
  split
  · exact .bind (.throw e) fun _ => h
  · exact h

/-! ### Looking at deployments and stopping them -/

/-- Looking up a deployment is tame. -/
theorem getDeployment (id : DeploymentId) :
    Asks StoreCall.IsTame (getDeployment id : ModelM σ ω _) :=
  askStore _ trivial

/-- Telling the counters of a deployment is tame. -/
theorem getStats (id : DeploymentId) : Asks StoreCall.IsTame (getStats id : ModelM σ ω _) := by
  refine .bind (getDeployment id) fun found => ?_
  cases found with
  | none => exact .pure _
  | some d => exact .bind (askStore _ trivial) fun _ => .pure _

/-- Telling whether a deployment is finished is tame. -/
theorem isFinished (id : DeploymentId) : Asks StoreCall.IsTame (isFinished id : ModelM σ ω _) :=
  .bind (askStore _ trivial) fun _ => .pure _

/-- Counting the devices of deployments is tame. -/
theorem recountDevices (l : List Deployment) :
    Asks StoreCall.IsTame (recountDevices l : ModelM σ ω _) := by
  induction l with
  | nil => exact .pure _
  | cons d rest ih => exact .bind (askStore _ trivial) fun _ => .bind ih fun _ => .pure _

/-- A search for deployments is tame. -/
theorem lookup (q : Query) : Asks StoreCall.IsTame (lookup q : ModelM σ ω _) :=
  .bind (accept _) fun _ => .bind (askStore _ trivial) fun found => recountDevices found

/-- Counting a deployment anew and finishing it is tame. -/
theorem finishRecounted (id : DeploymentId) :
    Asks StoreCall.IsTame (finishRecounted id : ModelM σ ω _) :=
  .bind (askStore _ trivial) fun _ => .bind .read fun _ => askStore _ trivial

/-- An abort is tame: it stops active records only. -/
theorem abort (id : DeploymentId) : Asks StoreCall.IsTame (abort id : ModelM σ ω _) := by
  refine .bind (getDeployment id) fun found => ?_
  cases found with
  | none => exact .throw _
  | some d =>
    exact .stopIf (.bind .read fun _ => .bind (askStore _ trivial) fun _ =>
      .bind (finishRecounted id) fun _ => .emit _ _ _)

/-- Counting anew and finishing the deployments of a device is tame. -/
theorem finishWithout (device : DeviceId) (ids : List DeploymentId) :
    Asks StoreCall.IsTame (finishWithout device ids : ModelM σ ω _) := by
  induction ids with
  | nil => exact .pure _
  | cons id rest ih => exact .bind (finishRecounted id) fun _ => .bind (.emit _ _ _) fun _ => ih

/-- Taking a device out of service is tame: it stops active records only. -/
theorem decommission (device : DeviceId) :
    Asks StoreCall.IsTame (decommission device : ModelM σ ω _) :=
  .bind .read fun _ => .bind (askStore _ trivial) fun affected => finishWithout device affected

/-- Telling the records of a deployment is tame. -/
theorem getRecords (id : DeploymentId) : Asks StoreCall.IsTame (getRecords id : ModelM σ ω _) := by
  refine .bind (getDeployment id) fun found => ?_
  cases found with
  | none => exact .throw _
  | some d => exact askStore _ trivial

/-! ### Reports, polls and logs -/

/-- Closing a deployment whose devices are at rest is tame. -/
theorem finishIfDone (id : DeploymentId) :
    Asks StoreCall.IsTame (finishIfDone id : ModelM σ ω _) := by
  refine .bind (getDeployment id) fun found => ?_
  cases found with
  | none => exact .throw _
  | some d =>
    exact .ite (.bind .read fun _ => .bind (askStore _ trivial) fun _ => .emit _ _ _) (.pure _)

/-- A report changes a record, so it is not tame, but it spares the logs. -/
theorem report (id : DeploymentId) (device : DeviceId) (r : StatusReport) :
    Asks StoreCall.SparesLogs (report id device r : ModelM σ ω _) := by
  refine .bind (accept _) fun _ => .bind (askStore _ trivial) fun found => ?_
  cases found with
  | none => exact .throw _
  | some current =>
    refine .stopIf (.stopIf (.stopIf (.ite (.pure _) (.stopIf ?_))))
    exact .bind .read fun _ => .bind (askStore _ trivial) fun _ => .bind (askStore _ trivial)
      fun _ => .bind (.emit _ _ _) fun _ => (finishIfDone id).sparesLogs

/-- The search for an artifact by name asks the catalog, and the store for nothing. -/
theorem artifactByName (activity name deviceType : String) :
    Asks kind (artifactByName activity name deviceType : ModelM σ ω _) :=
  .bind .read fun _ => .consult _ _ _

/-- The search for an artifact among given ones asks the catalog, and the store for nothing. -/
theorem artifactByIds (activity : String) (ids : List ArtifactId) (deviceType : String) :
    Asks kind (artifactByIds activity ids deviceType : ModelM σ ω _) :=
  .bind .read fun _ => .consult _ _ _

/-- A search by name gives a record its artifact, so it is not tame, but it spares the logs. -/
theorem reassign (d : Deployment) (r : DeviceRecord) (installed : Installed) :
    Asks StoreCall.SparesLogs (reassign d r installed : ModelM σ ω _) := by
  rw [ModelM.reassign]
  cases (if installed.deviceType.isEmpty then r.deviceType else some installed.deviceType) with
  | none => exact .pure _
  | some t =>
    -- Wherever the artifact comes from, it is given to the record in one way.
    refine .bind (artifactByIds _ _ _) fun frozen => ?_
    cases frozen
    case' some a => refine .bind (.pure _) fun found => ?_
    case' none => refine .bind (artifactByName _ _ _) fun found => ?_
    all_goals
      cases found with
      | none => exact .pure _
      | some a => exact .bind (askStore _ trivial) fun _ => .pure _

/-- The search for an artifact may give it to a record, so it is not tame, but it spares the
logs. -/
theorem artifactFor (d : Deployment) (r : DeviceRecord) (installed : Installed) :
    Asks StoreCall.SparesLogs (artifactFor d r installed : ModelM σ ω _) := by
  rw [ModelM.artifactFor]
  cases r.artifact with
  | none => exact reassign d r installed
  | some a => exact .ite (reassign d r installed) (.pure _)

/-- Instructions ask the object storage for a link, and the store for nothing. -/
theorem instruct (id : DeploymentId) (a : Artifact) :
    Asks kind (instruct id a : ModelM σ ω _) :=
  .bind .read fun _ => .bind (.downloadLink _ _ _) fun _ => .pure _

/-- A poll may change a record, so it is not tame, but it spares the logs. -/
theorem poll (device : DeviceId) (installed : Installed) :
    Asks StoreCall.SparesLogs (poll device installed : ModelM σ ω _) := by
  refine .bind (askStore _ trivial) fun found => ?_
  cases found with
  | none => exact .pure _
  | some r =>
    refine .bind (getDeployment _).sparesLogs fun found => ?_
    cases found with
    | none => exact .pure _
    | some d =>
      refine .ite (.bind (report _ _ _) fun _ => .pure _) ?_
      refine .bind (artifactFor d r installed) fun found => ?_
      cases found with
      | none => exact .bind (report _ _ _) fun _ => .pure _
      | some a => exact .bind (instruct d.id a) fun _ => .pure _

/-- Telling whether there is a record is tame. -/
theorem hasRecord (id : DeploymentId) (device : DeviceId) :
    Asks StoreCall.IsTame (hasRecord id device : ModelM σ ω _) :=
  askStore _ trivial

/-- Saving a log may make any call. It has rules of its own. -/
theorem saveLog (log : DeploymentLog) : Asks (fun _ => True) (saveLog log : ModelM σ ω _) :=
  .bind (accept _) fun _ => .bind (hasRecord _ _).any fun _ =>
    .stopIf (.bind (askStore _ trivial) fun _ => askStore _ trivial)

/-- Telling the log of a device is tame. -/
theorem getLog (id : DeploymentId) (device : DeviceId) :
    Asks StoreCall.IsTame (getLog id device : ModelM σ ω _) :=
  askStore _ trivial

/-! ### Creations -/

/-- The targets of a plan ask the inventory, and the store for nothing. -/
theorem resolveDevices (p : Plan) :
    Asks kind (resolveDevices p : ModelM σ ω _) := by
  rw [ModelM.resolveDevices]
  cases p.target with
  | devices ids => exact .bind (.pure ids) fun _ => .stopIf (.pure _)
  | group name => exact .bind (.bind .read fun _ => .consult _ _ _) fun _ => .stopIf (.pure _)

/-- A new record asks the inventory and the catalog, and the store for nothing. -/
theorem newRecordFor (d : Deployment) (device : DeviceId) (id : RecordId) :
    Asks kind (newRecordFor d device id : ModelM σ ω _) := by
  refine .bind (.bind .read fun _ => .consult _ _ _) fun deviceType => ?_
  cases deviceType with
  | none => exact .bind (.pure _) fun _ => .pure _
  | some t => exact .bind (artifactByName _ _ _) fun _ => .pure _

/-- New records ask the inventory and the catalog, and the store for nothing. -/
theorem newRecords (d : Deployment) (position : Nat) (devices : List DeviceId) :
    Asks kind (newRecords d position devices : ModelM σ ω _) := by
  induction devices generalizing position with
  | nil => exact .pure _
  | cons device rest ih =>
    exact .bind .read fun _ => .bind (newRecordFor d device _) fun _ => .bind (ih _) fun _ =>
      .pure _

/-- Storing a new deployment may make any call, since it may be taken back. It has rules of its
own. -/
theorem storeNew (d : Deployment) (records : List DeviceRecord) :
    Asks (fun _ => True) (storeNew d records : ModelM σ ω _) := by
  refine .bind (askStore _ trivial) fun _ => .bind (.tryStore trivial) fun answer => ?_
  cases answer with
  | ok u => exact .pure _
  | error cause =>
    refine .bind (.tryStore trivial) fun answer => ?_
    cases answer with
    | ok u => exact .throw _
    | error e => exact .throw _

/-- A creation may make any call, since it may be taken back. It has rules of its own. -/
theorem create (p : Plan) : Asks (fun _ => True) (create p : ModelM σ ω _) := by
  refine .bind (accept _) fun _ => .bind (resolveDevices p) fun devices => .bind .read fun _ => ?_
  refine .bind (.bind .read fun _ => .consult _ _ _) fun artifacts => ?_
  refine .bind (newRecords _ _ _) fun records => ?_
  cases Stats.ofStatuses (records.map (·.status)) with
  | error e => exact .throw _
  | ok stats =>
    exact .bind (storeNew _ _) fun _ => .bind (.emit _ _ _) fun _ =>
      .ite (.bind (.emit _ _ _) fun _ => .pure _) (.pure _)

end Asks

end ModelM

/-- Every operation is a chain of questions. -/
theorem ModelCall.asks {σ ω : Type} [DataStore σ] [LinkIssuer ω] (c : ModelCall) :
    ModelM.Asks (fun _ => True) (c.run : ModelM σ ω c.Answer) := by
  cases c with
  | create p => exact .create p
  | get id => exact (ModelM.Asks.getDeployment id).any
  | stats id => exact (ModelM.Asks.getStats id).any
  | isFinished id => exact (ModelM.Asks.isFinished id).any
  | lookup q => exact (ModelM.Asks.lookup q).any
  | abort id => exact (ModelM.Asks.abort id).any
  | decommission device => exact (ModelM.Asks.decommission device).any
  | poll device installed => exact (ModelM.Asks.poll device installed).any
  | report id device r => exact (ModelM.Asks.report id device r).any
  | records id => exact (ModelM.Asks.getRecords id).any
  | hasRecord id device => exact (ModelM.Asks.hasRecord id device).any
  | saveLog log => exact .saveLog log
  | getLog id device => exact (ModelM.Asks.getLog id device).any

end Fleet
