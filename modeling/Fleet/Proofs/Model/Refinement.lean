import Fleet.Proofs.Model.Agreement

/-!
# `Fleet.Proofs.Model.Refinement`: operations over a file behave as over tables

One lemma an operation, each following the text of the operation rule by rule: over two stores
of which one simulates the other, the operation agrees. What is written is storable because it
comes from the request, from the catalog or from the clock, and for all three that is asked
(`Step.Storable`). The new deployment of a plan is the one value that is put together from
several of them (`create`).

`FileStore.refines_tables` is the main theorem, for single calls and for whole operations.
-/

set_option autoImplicit false

namespace Fleet

open Fleet.Time

/-- The time can be stored, in documents and in a column, and so can every artifact there is. -/
structure Scene.Storable (scene : Scene) : Prop where
  representable : scene.now.Representable
  fits : scene.now.hasWordNanos = true
  artifact : ∀ a ∈ scene.catalog.artifacts, a.Storable

/-- What an operation brings can be stored, and a plan selects no more devices than a word can
count. -/
def ModelCall.Storable (scene : Scene) : ModelCall → Prop
  | .create p => p.Storable ∧ (scene.targets p).length < 2 ^ 64
  | .saveLog log => log.Storable
  | _ => True

namespace ModelM.Agree

variable {σ τ ω : Type} [DataStore σ] [DataStore τ] {R : σ → τ → Prop} {scene : Scene}
  (hR : DataStore.Simulates R)
include hR

/-! ### Looking at deployments and stopping them -/

/-- Looking up a deployment agrees. -/
theorem getDeployment (id : DeploymentId) :
    Agree R scene (getDeployment id : ModelM σ ω _) (getDeployment id) fun _ => True :=
  askStore hR _ trivial

/-- Telling the counters of a deployment agrees. -/
theorem getStats (id : DeploymentId) :
    Agree R scene (getStats id : ModelM σ ω _) (getStats id) fun _ => True := by
  refine .bind (getDeployment hR id) fun found _ => ?_
  cases found with
  | none => exact .pure trivial
  | some d => exact .bind (askStore hR _ trivial) fun stats _ => .pure trivial

/-- Telling whether a deployment is finished agrees. -/
theorem isFinished (id : DeploymentId) :
    Agree R scene (isFinished id : ModelM σ ω _) (isFinished id) fun _ => True :=
  .bind (askStore hR _ trivial) fun _ _ => .pure trivial

/-- Counting the devices of deployments agrees, by induction on the list. -/
theorem recountDevices (l : List Deployment) :
    Agree R scene (recountDevices l : ModelM σ ω _) (recountDevices l) fun _ => True := by
  induction l with
  | nil => exact .pure trivial
  | cons d rest ih =>
    exact .bind (askStore hR _ trivial) fun n _ => .bind ih fun ds _ => .pure trivial

/-- A search for deployments agrees. -/
theorem lookup (q : Query) :
    Agree R scene (lookup q : ModelM σ ω _) (lookup q) fun _ => True :=
  .bind (accept _) fun _ _ => .bind (askStore hR _ trivial) fun found _ => recountDevices hR found

/-- Counting a deployment anew and finishing it agrees: counters and the time of the scene can be
stored. -/
theorem finishRecounted (hscene : scene.Storable) (id : DeploymentId) :
    Agree R scene (finishRecounted id : ModelM σ ω _) (finishRecounted id) fun _ => True := by
  refine .bind (askStore hR _ trivial) fun stats _ => .bind read fun s hs => ?_
  rw [hs]
  exact askStore hR _ hscene.representable

/-- An abort agrees: what it writes is the time of the scene. -/
theorem abort (hscene : scene.Storable) (id : DeploymentId) :
    Agree R scene (abort id : ModelM σ ω _) (abort id) fun _ => True := by
  refine .bind (getDeployment hR id) fun found _ => ?_
  cases found with
  | none => exact .throw _
  | some d =>
    refine .stopIf fun _ => .bind read fun s hs => ?_
    rw [hs]
    exact .bind (askStore hR _ hscene.representable) fun _ _ =>
      .bind (finishRecounted hR hscene id) fun _ _ => emit _ _ _

/-- Counting anew and finishing the deployments of a device agrees, by induction on their names. -/
theorem finishWithout (hscene : scene.Storable) (device : DeviceId) (ids : List DeploymentId) :
    Agree R scene (finishWithout device ids : ModelM σ ω _) (finishWithout device ids)
      fun _ => True := by
  induction ids with
  | nil => exact .pure trivial
  | cons id rest ih =>
    exact .bind (finishRecounted hR hscene id) fun _ _ => .bind (emit _ _ _) fun _ _ => ih

/-- Taking a device out of service agrees: what it writes is the time of the scene. -/
theorem decommission (hscene : scene.Storable) (device : DeviceId) :
    Agree R scene (decommission device : ModelM σ ω _) (decommission device) fun _ => True := by
  refine .bind read fun s hs => ?_
  rw [hs]
  exact .bind (askStore hR _ hscene.representable) fun affected _ =>
    finishWithout hR hscene device affected

/-- Telling the records of a deployment agrees. -/
theorem getRecords (id : DeploymentId) :
    Agree R scene (getRecords id : ModelM σ ω _) (getRecords id) fun _ => True := by
  refine .bind (getDeployment hR id) fun found _ => ?_
  cases found with
  | none => exact .throw _
  | some d => exact askStore hR _ trivial

/-! ### Reports, polls and logs -/

/-- Closing a deployment whose devices are at rest agrees: it writes the time of the scene. -/
theorem finishIfDone (hscene : scene.Storable) (id : DeploymentId) :
    Agree R scene (finishIfDone id : ModelM σ ω _) (finishIfDone id) fun _ => True := by
  refine .bind (getDeployment hR id) fun found _ => ?_
  cases found with
  | none => exact .throw _
  | some d =>
    refine .ite (fun _ => .bind read fun s hs => ?_) fun _ => .pure trivial
    rw [hs]
    exact .bind (askStore hR _ hscene.representable) fun _ _ => emit _ _ _

/-- Moving a record agrees: it writes a status, a remark and the time of the scene. -/
theorem moveRecord (hscene : scene.Storable) (id : DeploymentId) (device : DeviceId)
    (r : StatusReport) :
    Agree R scene (moveRecord id device r : ModelM σ ω _) (moveRecord id device r)
      fun _ => True := by
  refine .bind read fun s hs => ?_
  rw [hs]
  have hfinished : ∀ t ∈ (if r.status.isTerminal then some scene.now else none),
      t.Representable := by
    intro t ht
    split at ht
    · cases ht
      exact hscene.representable
    · cases ht
  exact .bind (askStore hR _ hfinished) fun old _ => .bind (askStore hR _ trivial) fun _ _ =>
    .bind (emit _ _ _) fun _ _ => finishIfDone hR hscene id

/-- A report agrees, from its checks to the closing of the deployment. -/
theorem report (hscene : scene.Storable) (id : DeploymentId) (device : DeviceId)
    (r : StatusReport) :
    Agree R scene (report id device r : ModelM σ ω _) (report id device r) fun _ => True := by
  refine .bind (accept _) fun _ _ => .bind (askStore hR _ trivial) fun found _ => ?_
  cases found with
  | none => exact .throw _
  | some current =>
    exact .stopIf fun _ => .stopIf fun _ => .stopIf fun _ => .ite (fun _ => .pure trivial) fun _ =>
      .stopIf fun _ => moveRecord hR hscene id device r

omit [DataStore σ] [DataStore τ] hR in
/-- An artifact from the catalog can be stored. -/
theorem artifactByName (hscene : scene.Storable) (activity name deviceType : String) :
    Agree R scene (artifactByName activity name deviceType : ModelM σ ω _)
      (artifactByName activity name deviceType) fun found => ∀ a ∈ found, a.Storable := by
  refine .bind read fun s hs => ?_
  rw [hs]
  exact consult _ _ fun a ha => hscene.artifact a (List.mem_of_find?_eq_some ha)

omit [DataStore σ] [DataStore τ] hR in
/-- The search for an artifact among given ones agrees, and what is found can be stored, as the
catalog can. -/
theorem artifactByIds (hscene : scene.Storable) (activity : String) (ids : List ArtifactId)
    (deviceType : String) :
    Agree R scene (artifactByIds activity ids deviceType : ModelM σ ω _)
      (artifactByIds activity ids deviceType) fun found => ∀ a ∈ found, a.Storable := by
  refine .bind read fun s hs => ?_
  rw [hs]
  exact consult _ _ fun a ha => hscene.artifact a (List.mem_of_find?_eq_some ha)

/-- A search by name agrees: the artifact that it stores is one of the catalog. -/
theorem reassign (hscene : scene.Storable) (d : Deployment) (r : DeviceRecord)
    (installed : Installed) :
    Agree R scene (reassign d r installed : ModelM σ ω _) (reassign d r installed)
      fun _ => True := by
  rw [ModelM.reassign, ModelM.reassign]
  cases (if installed.deviceType.isEmpty then r.deviceType else some installed.deviceType) with
  | none => exact .pure trivial
  | some t =>
    refine .bind (artifactByIds hscene _ _ _) fun frozen hfrozen => ?_
    cases frozen
    case' some a =>
      refine .bind (P := fun found => ∀ a ∈ found, a.Storable) (.pure hfrozen)
        fun found hfound => ?_
    case' none => refine .bind (artifactByName hscene _ _ _) fun found hfound => ?_
    all_goals
      -- Wherever the artifact comes from, it is one of the catalog.
      cases found with
      | none => exact .pure trivial
      | some a => exact .bind (askStore hR _ (hfound a rfl)) fun _ _ => .pure trivial

/-- The search for the artifact of a record agrees, whichever look-up finds it. -/
theorem artifactFor (hscene : scene.Storable) (d : Deployment) (r : DeviceRecord)
    (installed : Installed) :
    Agree R scene (artifactFor d r installed : ModelM σ ω _) (artifactFor d r installed)
      fun _ => True := by
  rw [ModelM.artifactFor, ModelM.artifactFor]
  cases r.artifact with
  | none => exact reassign hR hscene d r installed
  | some a => exact .ite (fun _ => reassign hR hscene d r installed) fun _ => .pure trivial

omit [DataStore σ] [DataStore τ] hR in
/-- Instructions agree: the object storage is the same. -/
theorem instruct [LinkIssuer ω] (id : DeploymentId) (a : Artifact) :
    Agree R scene (instruct id a : ModelM σ ω _) (instruct id a) fun _ => True := by
  refine .bind read fun s hs => ?_
  rw [hs]
  exact .bind (downloadLink _ _ _) fun _ _ => .pure trivial

/-- A poll agrees: what it writes is an artifact of the catalog or the time of the scene. -/
theorem poll [LinkIssuer ω] (hscene : scene.Storable) (device : DeviceId) (installed : Installed) :
    Agree R scene (poll device installed : ModelM σ ω _) (poll device installed)
      fun _ => True := by
  refine .bind (askStore hR _ trivial) fun found _ => ?_
  cases found with
  | none => exact .pure trivial
  | some r =>
    refine .bind (getDeployment hR _) fun found _ => ?_
    cases found with
    | none => exact .pure trivial
    | some d =>
      refine .ite (fun _ => .bind (report hR hscene _ _ _) fun _ _ => .pure trivial) fun _ => ?_
      refine .bind (artifactFor hR hscene d r installed) fun found _ => ?_
      cases found with
      | none => exact .bind (report hR hscene _ _ _) fun _ _ => .pure trivial
      | some a => exact .bind (instruct d.id a) fun _ _ => .pure trivial

/-- Saving a log that can be stored agrees. -/
theorem saveLog {log : DeploymentLog} (hlog : log.Storable) :
    Agree R scene (saveLog log : ModelM σ ω _) (saveLog log) fun _ => True :=
  .bind (accept _) fun _ _ => .bind (askStore hR _ trivial) fun _ _ => .stopIf fun _ =>
    .bind (askStore hR _ hlog) fun _ _ => askStore hR _ trivial

/-! ### New deployments -/

omit [DataStore σ] [DataStore τ] hR in
/-- The targets of a plan agree, and are those of the scene. -/
theorem resolveDevices (p : Plan) :
    Agree R scene (resolveDevices p : ModelM σ ω _) (resolveDevices p)
      (· = scene.targets p) := by
  rw [ModelM.resolveDevices, ModelM.resolveDevices, Scene.targets]
  cases p.target with
  | devices ids =>
    refine .bind (P := (· = ids)) (.pure rfl) fun candidates hcandidates => ?_
    rw [hcandidates]
    exact .stopIf fun _ => .pure rfl
  | group name =>
    refine .bind (P := (· = scene.inventory.devicesInGroup name))
      (.bind read fun s hs => consult _ _ (by rw [hs])) fun candidates hcandidates => ?_
    rw [hcandidates]
    exact .stopIf fun _ => .pure rfl

omit [DataStore σ] [DataStore τ] hR in
/-- A new record agrees, can be stored and is as old as its deployment. -/
theorem newRecordFor (hscene : scene.Storable) {d : Deployment} (hd : d.created.Representable)
    (device : DeviceId) (id : RecordId) :
    Agree R scene (newRecordFor d device id : ModelM σ ω _) (newRecordFor d device id)
      fun r => r.Storable ∧ r.created = d.created := by
  -- A record is storable with any storable artifact, and without one too.
  have hrecord (deviceType : Option String) (artifact : Option Artifact)
      (hartifact : ∀ a ∈ artifact, a.Storable) :
      let r : DeviceRecord :=
        { id, deploymentId := d.id, deviceId := device, artifact, deviceType, status := .pending
          created := d.created }
      let r := if artifact.isSome then r else r.stopAt .noArtifact d.created
      r.Storable ∧ r.created = d.created := by
    dsimp only
    split
    · exact ⟨⟨hartifact, hd, fun t ht => by cases ht⟩, rfl⟩
    · refine ⟨⟨hartifact, hd, fun t ht => ?_⟩, rfl⟩
      cases ht
      exact hd
  refine .bind (P := fun _ => True) (.bind read fun s hs => consult _ _ trivial)
    fun deviceType _ => ?_
  cases deviceType with
  | none =>
    exact .bind (P := fun found => ∀ a ∈ found, a.Storable) (.pure fun a ha => by cases ha)
      fun artifact hartifact => .pure (hrecord none artifact hartifact)
  | some t =>
    exact .bind (artifactByName hscene _ _ _) fun artifact hartifact =>
      .pure (hrecord (some t) artifact hartifact)

omit [DataStore σ] [DataStore τ] hR in
/-- New records agree, by induction on the devices. There is one for each, and all can be stored. -/
theorem newRecords (hscene : scene.Storable) {d : Deployment} (hd : d.created.Representable)
    (devices : List DeviceId) (position : Nat) :
    Agree R scene (newRecords d position devices : ModelM σ ω _) (newRecords d position devices)
      fun l => l.length = devices.length ∧ ∀ r ∈ l, r.Storable ∧ r.created = d.created := by
  induction devices generalizing position with
  | nil => exact .pure ⟨rfl, fun r hr => by cases hr⟩
  | cons device rest ih =>
    refine .bind read fun s _ => .bind (newRecordFor hscene hd device _) fun r hr =>
      .bind (ih _) fun l hl => .pure ⟨?_, ?_⟩
    · rw [List.length_cons, List.length_cons, hl.1]
    · exact List.forall_mem_cons.2 ⟨hr, hl.2⟩

/-- Storing a new deployment agrees, taking it back included. -/
theorem storeNew {d : Deployment} {records : List DeviceRecord} (hd : d.Storable)
    (hcreated : d.created.hasWordNanos = true)
    (hrecords : ∀ r ∈ records, r.Storable ∧ r.created = d.created) :
    Agree R scene (storeNew d records : ModelM σ ω _) (storeNew d records) fun _ => True := by
  have hinsert : (StoreCall.insertRecords records).Storable := fun r hr =>
    ⟨(hrecords r hr).1, by rw [(hrecords r hr).2]; exact hcreated⟩
  refine .bind (askStore hR _ (show (StoreCall.insertDeployment d).Storable from ⟨hd, hcreated⟩))
    fun _ _ => .bind (tryStore hR hinsert) fun answer _ => ?_
  cases answer with
  | ok => exact .pure trivial
  | error cause =>
    -- The deployment is taken back, in both stores or in none.
    refine .bind (tryStore hR trivial) fun answer _ => ?_
    cases answer with
    | ok => exact .throw _
    | error e => exact .throw _

omit [DataStore σ] [DataStore τ] hR in
/-- A deployment with counted records is storable if their number fits a word. -/
theorem storable_withRecords {d : Deployment} (hd : d.Storable) (stats : Stats)
    {records : List DeviceRecord} (hlength : records.length < 2 ^ 64) :
    (d.withRecords stats records).Storable := by
  rw [Deployment.withRecords]
  dsimp only
  split
  · refine ⟨hd.plan, hd.created, fun t ht => ?_, hlength, hlength⟩
    cases ht
    exact hd.created
  · exact ⟨hd.plan, hd.created, hd.finished, hlength, hlength⟩

/-- A creation agrees: the new deployment can be stored, as it is put together from a plan, a
catalog and a time that can. -/
theorem create (hscene : scene.Storable) {p : Plan} (hp : p.Storable)
    (htargets : (scene.targets p).length < 2 ^ 64) :
    Agree R scene (create p : ModelM σ ω _) (create p) fun _ => True := by
  refine .bind (accept _) fun _ _ => .bind (resolveDevices p) fun devices hdevices =>
    .bind read fun s hs => ?_
  rw [hs]
  refine .bind (P := fun _ => True) (.bind read fun s hs => consult _ _ trivial)
    fun artifacts _ => ?_
  -- From here the deployment is put together, first without and then with its records.
  let d : Deployment :=
    { id := scene.newDeployment, plan := p, created := scene.now
      artifacts := artifacts.map (·.id) }
  have hd : d.Storable :=
    { plan := hp
      created := hscene.representable
      finished := fun t ht => by cases ht
      deviceCount := Nat.two_pow_pos 64
      maxDevices := Nat.two_pow_pos 64 }
  refine .bind (newRecords hscene (d := d) hscene.representable devices 0)
    fun records hrecords => ?_
  cases Stats.ofStatuses (records.map (·.status)) with
  | error e => exact .throw _
  | ok stats =>
    have hlength : records.length < 2 ^ 64 := by rw [hrecords.1, hdevices]; exact htargets
    have hcreated : (d.withRecords stats records).created = d.created := by
      rw [Deployment.withRecords]
      dsimp only
      split <;> rfl
    have hword : (d.withRecords stats records).created.hasWordNanos = true := by
      rw [hcreated]
      exact hscene.fits
    refine .bind (storeNew hR (storable_withRecords hd stats hlength) hword
      fun r hr => ⟨(hrecords.2 r hr).1, (hrecords.2 r hr).2.trans hcreated.symm⟩) fun _ _ => ?_
    exact .bind (emit _ _ _) fun _ _ =>
      .ite (fun _ => .bind (emit _ _ _) fun _ _ => .pure trivial) fun _ => .pure trivial

/-! ### All operations -/

/-- Every operation agrees, one case for each. -/
theorem run [LinkIssuer ω] (hscene : scene.Storable) (c : ModelCall) (hc : c.Storable scene) :
    Agree R scene (c.run : ModelM σ ω _) c.run fun _ => True := by
  cases c with
  | create p => exact create hR hscene hc.1 hc.2
  | get id => exact getDeployment hR id
  | stats id => exact getStats hR id
  | isFinished id => exact isFinished hR id
  | lookup q => exact lookup hR q
  | abort id => exact abort hR hscene id
  | decommission device => exact decommission hR hscene device
  | poll device installed => exact poll hR hscene device installed
  | report id device r => exact report hR hscene id device r
  | records id => exact getRecords hR id
  | hasRecord id device => exact askStore hR _ trivial
  | saveLog log => exact saveLog hR hc
  | getLog id device => exact askStore hR _ trivial

end ModelM.Agree

/-! ### Runs -/

/-- A step that only brings what can be stored. -/
def Step.Storable (step : Step) : Prop := step.1.Storable ∧ step.2.Storable step.1

/-- Steps over two stores get the same answers and lead to worlds that are alike. -/
theorem World.Alike.answers_eq {σ τ ω : Type} [DataStore σ] [DataStore τ] [LinkIssuer ω]
    {R : σ → τ → Prop} (hR : DataStore.Simulates R) {w : World σ ω} {v : World τ ω}
    (h : Alike R w v) (steps : List Step) (hsteps : ∀ step ∈ steps, step.Storable) :
    w.answers steps = v.answers steps ∧ Alike R (w.run steps) (v.run steps) := by
  induction steps generalizing w v with
  | nil => exact ⟨rfl, h⟩
  | cons step rest ih =>
    obtain ⟨hscene, hc⟩ := hsteps step List.mem_cons_self
    obtain ⟨x, w', v', hw, hv, h', -⟩ := ModelM.Agree.run hR hscene step.2 hc w v h
    obtain ⟨hanswers, hrun⟩ := ih h' fun step' hmem => hsteps step' (List.mem_cons_of_mem _ hmem)
    have hw : w.perform step.1 step.2 = (x, w') := hw
    have hv : v.perform step.1 step.2 = (x, v') := hv
    refine ⟨?_, ?_⟩
    · rw [answers, answers, hw, hv, hanswers]
    · rw [World.run, World.run, List.foldl_cons, List.foldl_cons, hw, hv]
      exact hrun

namespace FileStore

/-- A data store in a new file, which may be closed and opened again before any call, behaves as
one of tables. Storable calls get the same answers from both. So operations that only bring
what can be stored get the same answers over both, and do the same to all else. -/
theorem refines_tables {config : StoreConfig} {disk : Disk} {reopenings : List Bool}
    {s : FileStore} (hopen : opened { config, disk, reopenings } = .ok s) :
    (∀ calls : List (TenantId × StoreCall), (∀ call ∈ calls, call.2.Storable) →
      DataStore.answers s calls = DataStore.answers ({} : MemoryStore) calls) ∧
    (∀ (ω : Type) [LinkIssuer ω] (objects : ω) (faults : FaultPlan) (steps : List Step),
      (∀ step ∈ steps, step.Storable) →
        let file : World FileStore ω := { store := s, objects, faults }
        let tables : World MemoryStore ω := { store := {}, objects, faults }
        file.answers steps = tables.answers steps ∧
        (file.run steps).objects = (tables.run steps).objects ∧
        (file.run steps).faults = (tables.run steps).faults ∧
        (file.run steps).journal = (tables.run steps).journal ∧
        (file.run steps).trail = (tables.run steps).trail) := by
  have hholds := holds_of_opened hopen
  refine ⟨fun calls hcalls => ?_, fun ω _ objects faults steps hsteps => ?_⟩
  · exact (simulates_holds.answers_eq hholds calls hcalls).symm
  · have halike : World.Alike (fun (m : MemoryStore) (s : FileStore) => s.Holds m)
        ({ store := {}, objects, faults } : World MemoryStore ω) { store := s, objects, faults } :=
      ⟨hholds, rfl, rfl, rfl, rfl⟩
    obtain ⟨hanswers, hrun⟩ := halike.answers_eq simulates_holds steps hsteps
    exact ⟨hanswers.symm, hrun.objects.symm, hrun.faults.symm, hrun.journal.symm, hrun.trail.symm⟩

/-- A new file, which is closed and opened again before the second and the third call. -/
def sampleFile : FileStore where
  config := { path := "fleet.db" }
  disk :=
    { isDirectory := fun _ => false, canHold := fun _ => true, canOpen := fun _ => true
      version := fun _ => none }
  version := some layoutVersion
  reopenings := [false, true, true]

/-- A deployment of nobody's devices. -/
def sampleDeployment : Deployment where
  id := "update"
  plan := { name := "all", artifactName := "app" }
  created := .ofUnix 0

/-- The sample deployment can be stored. -/
theorem storable_sampleDeployment : sampleDeployment.Storable where
  plan := ⟨by decide, fun n hn => by cases hn⟩
  created := ⟨by decide, by decide, by decide⟩
  finished t ht := by cases ht
  deviceCount := by decide
  maxDevices := by decide

/-- All that the sample run writes can be stored. -/
theorem storable_sampleSteps : ∀ step ∈ World.sampleSteps, step.Storable := by
  have hscene : World.sampleScene.Storable :=
    { representable := storable_sampleDeployment.created
      fits := by decide
      artifact := fun a ha => by
        rw [List.mem_singleton.1 ha]
        constructor <;> (intro x hx; cases hx) }
  have hplan : (ModelCall.create { name := "all", artifactName := "app"
                                   devices := ["left", "right"] }).Storable World.sampleScene :=
    ⟨⟨by decide, fun n hn => by cases hn⟩, by decide⟩
  simp only [World.sampleSteps, List.forall_mem_cons, List.not_mem_nil, false_implies,
    implies_true, and_true]
  exact ⟨⟨hscene, hplan⟩, ⟨hscene, trivial⟩, ⟨hscene, trivial⟩, hscene, trivial⟩

/-- An insertion, the same again and a look-up over a file, and a run of operations, answered as
over tables. -/
theorem refines_tables_sample :
    DataStore.answers sampleFile
        [("", .insertDeployment sampleDeployment), ("", .insertDeployment sampleDeployment),
          ("", .findDeployment "update")]
      = [⟨.insertDeployment sampleDeployment, .ok ()⟩,
          ⟨.insertDeployment sampleDeployment, .error (.deploymentExists "update")⟩,
          ⟨.findDeployment "update", .ok (some sampleDeployment)⟩] ∧
    ({ store := sampleFile, objects := World.sampleWorld.objects } :
        World FileStore ObjectSite).answers World.sampleSteps
      = World.sampleWorld.answers World.sampleSteps := by
  have hopen : opened { sampleFile with version := none } = .ok sampleFile := rfl
  obtain ⟨hcalls, hsteps⟩ := refines_tables hopen
  have hsample := storable_sampleDeployment
  refine ⟨(hcalls _ ?_).trans rfl, (hsteps ObjectSite _ [] _ storable_sampleSteps).1⟩
  simp only [List.forall_mem_cons, List.not_mem_nil, false_implies, implies_true, and_true]
  exact ⟨⟨hsample, rfl⟩, ⟨hsample, rfl⟩, trivial⟩

end FileStore

end Fleet
