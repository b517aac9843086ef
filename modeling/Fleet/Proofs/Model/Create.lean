import Fleet.Proofs.Model.Lifecycle
import Mathlib.Data.List.Nodup

/-!
# `Fleet.Proofs.Model.Create`: a plan becomes a deployment

`Scene.opened` and `Scene.records` are what a plan becomes in a scene: a pure function of the
plan, the catalog, the inventory and the names that are handed out.

Everything that a plan asks of the catalog and the inventory comes before the first write, so a
creation has two parts (`create_prepared`): it is declined and leaves no trace but in the plan of
faults, or the deployment and its records are there to be stored. `create_outcome` says what
comes of it over a consistent part of a data store of tables. Such a plan is refused late, with a
trace in the journal, if the name is taken.
-/

set_option autoImplicit false

namespace Fleet

namespace Plan

/-- The devices of a list, later repetitions dropped. -/
theorem nodup_distinct (l done : List DeviceId) (h : done.Nodup) :
    (l.foldl (fun done d => if done.contains d then done else done ++ [d]) done).Nodup := by
  induction l generalizing done with
  | nil => exact h
  | cons d rest ih =>
    rw [List.foldl_cons]
    split
    · exact ih done h
    · next hnew =>
      have hfresh : d ∉ done := fun hd => hnew (List.contains_iff_mem.2 hd)
      exact ih _ (List.Nodup.append h (List.nodup_singleton d)
        (List.disjoint_singleton.2 hfresh))

/-- No device is selected twice. -/
theorem nodup_selectDevices (p : Plan) (l : List DeviceId) : (p.selectDevices l).Nodup := by
  have h := nodup_distinct l [] List.nodup_nil
  rw [selectDevices]
  cases p.maxDevices with
  | none => exact h
  | some n => exact h.sublist (List.take_sublist n _)

end Plan

namespace Scene

variable (scene : Scene)

/-- The devices that a plan selects. -/
def targets (p : Plan) : List DeviceId :=
  p.selectDevices (match p.target with
    | .devices ids => ids
    | .group name => scene.inventory.devicesInGroup name)

/-- The deployment of a plan before its records are counted. -/
def draft (p : Plan) : Deployment :=
  { id := scene.newDeployment, plan := p, created := scene.now
    artifacts := (scene.catalog.allByName p.artifactName).map (·.id) }

/-- The artifact that a device is given at the creation of a deployment. -/
def artifactFor (d : Deployment) (device : DeviceId) : Option Artifact :=
  (scene.inventory.deviceType device).bind (scene.catalog.findByName d.artifactName)

/-- The new record of a device. -/
def recordFor (d : Deployment) (device : DeviceId) (id : RecordId) : DeviceRecord :=
  let r : DeviceRecord :=
    { id, deploymentId := d.id, deviceId := device, artifact := scene.artifactFor d device
      deviceType := scene.inventory.deviceType device, status := .pending, created := d.created }
  if (scene.artifactFor d device).isSome then r else r.stopAt .noArtifact d.created

/-- The new records of devices, `position` being the position of the first one. -/
def recordsFrom (d : Deployment) (position : Nat) : List DeviceId → List DeviceRecord
  | [] => []
  | device :: rest =>
    scene.recordFor d device (scene.newRecord position) :: recordsFrom d (position + 1) rest

/-- The records of a plan. -/
def records (p : Plan) : List DeviceRecord :=
  scene.recordsFrom (scene.draft p) 0 (scene.targets p)

/-- The deployment of a plan. -/
def opened (p : Plan) : Deployment :=
  (scene.draft p).withRecords (.tally (statuses (scene.records p))) (scene.records p)

/-- The events for a new deployment. -/
def openingEvents (p : Plan) : List AuditEvent :=
  { AuditEvent.of scene.ctx scene.now .deploymentCreated scene.newDeployment with
    deviceCount := some (scene.records p).length, artifactName := some p.artifactName }
  :: if (scene.opened p).isFinished then
      [.of scene.ctx scene.now .deploymentFinished scene.newDeployment]
    else []

section

variable (d : Deployment)

/-- A new record waits with an artifact that fits the type of its device, or it is at rest because
there is none, since the creation of its deployment. -/
theorem status_recordFor (device : DeviceId) (id : RecordId) :
    (scene.recordFor d device id).status = .pending ∧
      (scene.recordFor d device id).finished = none ∧
      (∃ t a, scene.inventory.deviceType device = some t ∧
        scene.catalog.findByName d.artifactName t = some a ∧
        (scene.recordFor d device id).artifact = some a ∧
        (scene.recordFor d device id).deviceType = some t) ∨
    (scene.recordFor d device id).status = .noArtifact ∧
      (scene.recordFor d device id).finished = some d.created := by
  rw [recordFor]
  cases hartifact : scene.artifactFor d device with
  | none => exact .inr ⟨rfl, rfl⟩
  | some a =>
    obtain ⟨t, ht, ha⟩ := Option.bind_eq_some_iff.1 hartifact
    exact .inl ⟨rfl, rfl, t, a, ht, ha, rfl, ht⟩

/-- A new record stands under the name of its deployment and its device. -/
theorem key_recordFor (device : DeviceId) (id : RecordId) :
    (scene.recordFor d device id).key = (d.id, device) := by
  rw [recordFor]
  split <;> rfl

variable {scene d} in
/-- Every new record is that of some selected device. -/
theorem mem_recordsFrom {devices : List DeviceId} {position : Nat} {r : DeviceRecord}
    (h : r ∈ scene.recordsFrom d position devices) :
    ∃ device id, r = scene.recordFor d device id := by
  induction devices generalizing position with
  | nil => cases h
  | cons device rest ih =>
    rcases List.mem_cons.1 h with rfl | h
    · exact ⟨_, _, rfl⟩
    · exact ih h

/-- The new records stand under the selected devices, in order. -/
theorem map_key_recordsFrom (devices : List DeviceId) (position : Nat) :
    (scene.recordsFrom d position devices).map (·.key) = devices.map fun device =>
      (d.id, device) := by
  induction devices generalizing position with
  | nil => rfl
  | cons device rest ih =>
    rw [recordsFrom, List.map_cons, List.map_cons, ih, key_recordFor]

/-- There is one new record for each selected device. -/
theorem length_recordsFrom (devices : List DeviceId) (position : Nat) :
    (scene.recordsFrom d position devices).length = devices.length := by
  have h := congrArg List.length (scene.map_key_recordsFrom d devices position)
  rwa [List.length_map, List.length_map] at h

end

section

variable (p : Plan)

/-- No two new records have the same name. -/
theorem nodup_records : ((scene.records p).map (·.key)).Nodup := by
  rw [records, map_key_recordsFrom]
  exact (p.nodup_selectDevices _).map fun a b h => (Prod.mk.inj h).2

/-- A plan gets one record for each of its targets. -/
theorem length_records : (scene.records p).length = (scene.targets p).length :=
  scene.length_recordsFrom _ _ _

variable {scene p}

/-- The records of a plan can be counted if there are not too many. -/
theorem ofStatuses_records (hbounded : (scene.targets p).length < 2 ^ 64) :
    Stats.ofStatuses (statuses (scene.records p)) = .ok (.tally (statuses (scene.records p))) :=
  Stats.ofStatuses_eq_tally (by rw [length_statuses, length_records]; exact hbounded)

/-- Every new record belongs to the new deployment. -/
theorem deploymentId_of_mem_records {r : DeviceRecord} (h : r ∈ scene.records p) :
    r.deploymentId = scene.newDeployment := by
  obtain ⟨device, id, rfl⟩ := mem_recordsFrom h
  exact (Prod.mk.inj (scene.key_recordFor _ device id)).1

/-- The new deployment has the name that was handed out. -/
@[simp] theorem id_opened : (scene.opened p).id = scene.newDeployment := by
  rw [opened, Deployment.withRecords]
  dsimp only
  split <;> rfl

/-- The new deployment keeps its plan. -/
@[simp] theorem plan_opened : (scene.opened p).plan = p := by
  rw [opened, Deployment.withRecords]
  dsimp only
  split <;> rfl

/-- The new deployment freezes the names of the artifacts that the catalog has under the name in the
plan. -/
@[simp] theorem artifacts_opened :
    (scene.opened p).artifacts = (scene.catalog.allByName p.artifactName).map (·.id) := by
  rw [opened, Deployment.withRecords]
  dsimp only
  split <;> rfl

/-- A plan that selects devices opens a deployment. -/
theorem opened_opened (hsome : scene.targets p ≠ [])
    (hbounded : (scene.targets p).length < 2 ^ 64) :
    Deployment.Opened scene.now (scene.opened p) (scene.records p) where
  counted := ⟨scene.draft p, rfl, rfl, rfl⟩
  inhabited he := by
    have hlength := scene.length_records p
    rw [he, List.length_nil] at hlength
    exact hsome (List.length_eq_zero_iff.1 hlength.symm)
  bounded := by
    rw [length_records]
    exact hbounded
  waiting r hr := by
    obtain ⟨device, id, rfl⟩ := mem_recordsFrom hr
    rcases scene.status_recordFor (scene.draft p) device id with h | h
    · exact .inl ⟨h.1, h.2.1⟩
    · exact .inr h

end

end Scene

namespace ModelM

variable {ω : Type} {scene : Scene} {w : World MemoryStore ω} {p : Partition}

/-- For a new record the inventory and the catalog are asked, and nothing else. -/
theorem newRecordFor_consults (scene : Scene) (d : Deployment) (device : DeviceId) (id : RecordId) :
    Consults (newRecordFor d device id : ModelM MemoryStore ω _) scene
      (scene.recordFor d device id) := by
  rw [newRecordFor]
  refine (Consults.typeOfDevice scene _ device).bind ?_
  rw [Scene.recordFor, Scene.artifactFor]
  cases scene.inventory.deviceType device with
  | none => exact .of_pure _
  | some t => exact (Consults.artifactByName scene _ _ t).bind (.of_pure _)

/-- For new records the inventory and the catalog are asked, device by device, and nothing else. -/
theorem newRecords_consults (scene : Scene) (d : Deployment) (position : Nat)
    (devices : List DeviceId) :
    Consults (newRecords d position devices : ModelM MemoryStore ω _) scene
      (scene.recordsFrom d position devices) := by
  induction devices generalizing position with
  | nil => exact .of_pure []
  | cons device rest ih =>
    rw [newRecords, Scene.recordsFrom]
    exact .of_read ((newRecordFor_consults scene d device _).bind ((ih _).bind (.of_pure _)))

/-- Why a plan comes to nothing before anything is stored. -/
inductive Declined (scene : Scene) (w : World MemoryStore ω) (plan : Plan) : ModelError → Prop where
  /-- The plan breaks a rule. -/
  | invalid {e : ValidationError} (broken : plan.validate = .error e) :
      Declined scene w plan (.validation e)
  /-- It selects no device. -/
  | deserted (valid : plan.validate = .ok ()) (nobody : scene.targets plan = []) :
      Declined scene w plan .noDevices
  /-- The catalog or the inventory fails by a planned fault. -/
  | unanswered (planned : w.faults ≠ []) {e : ModelError} (he : IsCollaboratorError e) :
      Declined scene w plan e
  /-- A counter cannot hold the records. -/
  | uncountable {e : StatsError}
      (full : Stats.ofStatuses (statuses (scene.records plan)) = .error e) :
      Declined scene w plan (.stats e)

/-- A plan whose records can be counted is never declined for a broken store. -/
theorem Declined.isBookkeeping {plan : Plan} {e : ModelError} (h : Declined scene w plan e)
    (hbounded : (scene.targets plan).length < 2 ^ 64) : e.isBookkeeping = false := by
  cases h with
  | invalid => rfl
  | deserted => rfl
  | unanswered planned he => exact he.isBookkeeping
  | uncountable full =>
    rw [Scene.ofStatuses_records hbounded] at full
    cases full

/-- The last part of a creation: a deployment and its records are stored and announced. -/
def storeOpened (d : Deployment) (records : List DeviceRecord) :
    ModelM MemoryStore ω DeploymentId := do
  storeNew d records
  emit .deploymentCreated d.id fun e =>
    { e with deviceCount := some records.length, artifactName := some d.artifactName }
  if d.isFinished then emit .deploymentFinished d.id
  return d.id

/-- The devices of a plan are found, unless there are none or the inventory fails. -/
theorem resolveDevices_run (scene : Scene) (w : World MemoryStore ω) (plan : Plan) :
    ∃ faults : FaultPlan, w.faults.Consulted faults ∧
      ((scene.targets plan = [] ∧ (resolveDevices plan : ModelM MemoryStore ω _) scene w
          = (.error .noDevices, w.withFaults faults)) ∨
        (w.faults ≠ [] ∧ ∃ e, IsCollaboratorError e ∧
          (resolveDevices plan : ModelM MemoryStore ω _) scene w
            = (.error e, w.withFaults faults)) ∨
        (scene.targets plan ≠ [] ∧ (resolveDevices plan : ModelM MemoryStore ω _) scene w
          = (.ok (scene.targets plan), w.withFaults faults))) := by
  -- Named devices need no question; a group is asked for and may fail.
  obtain ⟨candidates, faults, hfaults, htargets, hrun⟩ : ∃ (candidates : List DeviceId)
      (faults : FaultPlan), w.faults.Consulted faults ∧
      scene.targets plan = plan.selectDevices candidates ∧
      ((resolveDevices plan : ModelM MemoryStore ω _) scene w = ((do
          if (plan.selectDevices candidates).isEmpty then throw .noDevices
          return plan.selectDevices candidates : ModelM MemoryStore ω _) scene
            (w.withFaults faults)) ∨
        (w.faults ≠ [] ∧ ∃ e, IsCollaboratorError e ∧
          (resolveDevices plan : ModelM MemoryStore ω _) scene w
            = (.error e, w.withFaults faults))) := by
    rw [resolveDevices, Scene.targets]
    cases plan.target with
    | devices ids => exact ⟨ids, w.faults, .refl, rfl, .inl rfl⟩
    | group name =>
      obtain ⟨faults, hfaults, hok | ⟨hplanned, e, he, herror⟩⟩ := Consults.devicesOfGroup scene
        "searching for devices in group" name w
      · exact ⟨_, faults, hfaults, rfl, .inl (bind_ok hok)⟩
      · exact ⟨_, faults, hfaults, rfl, .inr ⟨hplanned, e, he, bind_error herror⟩⟩
  refine ⟨faults, hfaults, ?_⟩
  rcases hrun with hpick | hfailed
  · rw [hpick, ← htargets]
    cases scene.targets plan with
    | nil => exact .inl ⟨rfl, rfl⟩
    | cons device rest => exact .inr (.inr ⟨List.cons_ne_nil _ _, rfl⟩)
  · exact .inr (.inl hfailed)

/-- A plan is declined with no trace but in the plan of faults, or it is ready to be stored. -/
theorem create_prepared (scene : Scene) (w : World MemoryStore ω) (plan : Plan) :
    ∃ faults : FaultPlan, w.faults.Consulted faults ∧
      ((∃ e, Declined scene w plan e ∧
          (create plan : ModelM MemoryStore ω _) scene w = (.error e, w.withFaults faults)) ∨
        ∃ stats, plan.validate = .ok () ∧ scene.targets plan ≠ [] ∧
          Stats.ofStatuses (statuses (scene.records plan)) = .ok stats ∧
          (create plan : ModelM MemoryStore ω _) scene w
            = storeOpened ((scene.draft plan).withRecords stats (scene.records plan))
                (scene.records plan) scene (w.withFaults faults)) := by
  rw [create]
  cases hvalid : plan.validate with
  | error e => exact ⟨w.faults, .refl, .inl ⟨_, .invalid hvalid, bind_error (accept_error rfl)⟩⟩
  | ok u =>
    rw [bind_ok (accept_ok rfl)]
    -- Three rounds of questions follow, and each of them may fail.
    obtain ⟨faults, hfaults, ⟨hnobody, hrun⟩ | ⟨hplanned, e, he, hrun⟩ | ⟨hsome, hrun⟩⟩ :=
      resolveDevices_run scene w plan
    · exact ⟨faults, hfaults, .inl ⟨_, .deserted hvalid hnobody, bind_error hrun⟩⟩
    · exact ⟨faults, hfaults, .inl ⟨e, .unanswered hplanned he, bind_error hrun⟩⟩
    rw [bind_ok hrun, bind_ok read_run]
    obtain ⟨faults₁, hfaults₁, hartifacts | ⟨hplanned, e, he, herror⟩⟩ :=
      Consults.artifactsByName scene "searching for artifacts by name" plan.artifactName
        (w.withFaults faults)
    case inr =>
      exact ⟨faults₁, hfaults.trans hfaults₁,
        .inl ⟨e, .unanswered (hfaults.ne_nil hplanned) he, bind_error herror⟩⟩
    rw [bind_ok hartifacts]
    obtain ⟨faults₂, hfaults₂, hrecords | ⟨hplanned, e, he, herror⟩⟩ :=
      newRecords_consults (ω := ω) scene (scene.draft plan) 0 (scene.targets plan)
        (w.withFaults faults₁)
    case inr =>
      exact ⟨faults₂, (hfaults.trans hfaults₁).trans hfaults₂,
        .inl ⟨e, .unanswered ((hfaults.trans hfaults₁).ne_nil hplanned) he, bind_error herror⟩⟩
    refine ⟨faults₂, (hfaults.trans hfaults₁).trans hfaults₂, ?_⟩
    cases hcount : Stats.ofStatuses (statuses (scene.records plan)) with
    | error e =>
      refine .inl ⟨_, .uncountable hcount, (bind_ok hrecords).trans ?_⟩
      rw [statuses, Scene.records] at hcount
      dsimp only
      rw [hcount]
      rfl
    | ok stats =>
      refine .inr ⟨stats, rfl, hsome, rfl, (bind_ok hrecords).trans ?_⟩
      rw [statuses, Scene.records] at hcount
      dsimp only
      rw [hcount]
      rfl

/-- A plan whose records can be counted is declined, or the deployment that it opens is stored. -/
theorem create_prepared_of_bounded (scene : Scene) (w : World MemoryStore ω) {plan : Plan}
    (hbounded : (scene.targets plan).length < 2 ^ 64) :
    ∃ faults : FaultPlan, w.faults.Consulted faults ∧
      ((∃ e, Declined scene w plan e ∧
          (create plan : ModelM MemoryStore ω _) scene w = (.error e, w.withFaults faults)) ∨
        plan.validate = .ok () ∧ scene.targets plan ≠ [] ∧
          (create plan : ModelM MemoryStore ω _) scene w
            = storeOpened (scene.opened plan) (scene.records plan) scene (w.withFaults faults)) := by
  obtain ⟨faults, hfaults, hdeclined | ⟨stats, hvalid, hsome, hcount, hrun⟩⟩ :=
    create_prepared scene w plan
  · exact ⟨faults, hfaults, .inl hdeclined⟩
  · rw [Scene.ofStatuses_records hbounded] at hcount
    cases hcount
    exact ⟨faults, hfaults, .inr ⟨hvalid, hsome, hrun⟩⟩

/-- A new deployment and its records are stored together. -/
theorem storeNew_run {calls : List StoreCall} {events : List AuditEvent}
    (hfaults : w.faults.SparesStore) {d : Deployment} {l : List DeviceRecord}
    (hfresh : p.deployments.get? d.id = none) (hfree : ∀ r ∈ l, p.records.get? r.key = none)
    (hnodup : (l.map (·.key)).Nodup) :
    (storeNew d l : ModelM MemoryStore ω _) scene (w.turn scene.ctx.partition p calls events)
      = (.ok (), w.turn scene.ctx.partition (p.withOpened d l)
          (calls ++ [.insertDeployment d] ++ [.insertRecords l]) events) := by
  have hfree' : ∀ r ∈ l, (p.withDeployment d.id d).records.get? r.key = none := hfree
  rw [storeNew, bind_ok (askStore_ok _ hfaults (Partition.run_insertDeployment hfresh)),
    bind_ok (tryStore_ok hfaults (Partition.run_insertRecords hfree' hnodup))]
  rfl

/-- A deployment under a free name is stored with its records and announced. -/
theorem storeOpened_run (hfaults : w.faults.SparesStore) (hp : w.part scene.ctx.partition = p)
    (plan : Plan) (hfresh : p.deployments.get? scene.newDeployment = none)
    (hfree : ∀ device, p.records.get? (scene.newDeployment, device) = none) :
    storeOpened (scene.opened plan) (scene.records plan) scene w
      = (.ok scene.newDeployment, w.turn scene.ctx.partition
          (p.withOpened (scene.opened plan) (scene.records plan))
          [.insertDeployment (scene.opened plan), .insertRecords (scene.records plan)]
          (scene.openingEvents plan)) := by
  have hid : (scene.opened plan).id = scene.newDeployment := Scene.id_opened
  have hname : (scene.opened plan).artifactName = plan.artifactName :=
    congrArg Plan.artifactName Scene.plan_opened
  have hfree' : ∀ r ∈ scene.records plan, p.records.get? r.key = none := by
    intro r hr
    rw [DeviceRecord.key, Scene.deploymentId_of_mem_records hr]
    exact hfree r.deviceId
  have hstore := of_turn hp (storeNew_run hfaults (d := scene.opened plan)
    (by rw [hid]; exact hfresh) hfree' (scene.nodup_records plan))
  rw [storeOpened, Scene.openingEvents, bind_ok hstore, bind_ok (emit_run _ _ _), hname, hid]
  cases hfinished : (scene.opened plan).isFinished with
  | false => rfl
  | true =>
    rw [if_pos rfl, if_pos rfl, bind_ok (emit_run _ _ _)]
    rfl

/-- A deployment under a taken name is refused by the data store. -/
theorem storeOpened_refused (hfaults : w.faults.SparesStore)
    (hp : w.part scene.ctx.partition = p) (plan : Plan) {d : Deployment}
    (htaken : p.deployments.get? scene.newDeployment = some d) :
    ∃ e, storeOpened (scene.opened plan) (scene.records plan) scene w
      = (.error e, w.turn scene.ctx.partition p
          [.insertDeployment (scene.opened plan)] []) := by
  have hrefused : p.run (.insertDeployment (scene.opened plan))
      = .error (.deploymentExists scene.newDeployment) := by
    rw [Partition.run, Scene.id_opened, Table.contains_iff.2 ⟨d, htaken⟩]
    rfl
  exact ⟨_, bind_error (of_turn hp (bind_error (askStore_error _ hfaults hrefused)))⟩

/-- What a plan comes to. -/
inductive CreateOutcome (scene : Scene) (w : World MemoryStore ω) (p : Partition) (plan : Plan) :
    Except ModelError DeploymentId × World MemoryStore ω → Prop where
  /-- It is refused. -/
  | refused {faults : FaultPlan} (spares : faults.SparesStore) {e : ModelError}
      (he : e.isBookkeeping = false) :
      CreateOutcome scene w p plan (.error e, w.withFaults faults)
  /-- The name that was handed out is taken. -/
  | taken {faults : FaultPlan} (spares : faults.SparesStore) {d : Deployment}
      (hd : p.deployments.get? scene.newDeployment = some d) {e : ModelError} :
      CreateOutcome scene w p plan (.error e, (w.withFaults faults).turn scene.ctx.partition p
        [.insertDeployment (scene.opened plan)] [])
  /-- It becomes a deployment with its records. -/
  | opened {faults : FaultPlan} (spares : faults.SparesStore) (valid : plan.validate = .ok ())
      (fresh : p.deployments.get? scene.newDeployment = none)
      (inhabited : scene.targets plan ≠ []) :
      CreateOutcome scene w p plan (.ok scene.newDeployment,
        (w.withFaults faults).turn scene.ctx.partition
          (p.withOpened (scene.opened plan) (scene.records plan))
          [.insertDeployment (scene.opened plan), .insertRecords (scene.records plan)]
          (scene.openingEvents plan))

/-- All that a creation can come to over a consistent part: it is declined, refused for a name that
is taken, or stored. -/
theorem create_outcome (hfaults : w.faults.SparesStore)
    (hp : w.part scene.ctx.partition = p) (hconsistent : p.Consistent) (plan : Plan)
    (hbounded : (scene.targets plan).length < 2 ^ 64) :
    CreateOutcome scene w p plan ((create plan : ModelM MemoryStore ω _) scene w) := by
  obtain ⟨faults, hconsulted, ⟨e, hdeclined, hrun⟩ | ⟨hvalid, hsome, hrun⟩⟩ :=
    create_prepared_of_bounded scene w hbounded
  all_goals
    have hspares : faults.SparesStore := hconsulted.spares hfaults
    rw [hrun]
  · exact .refused hspares (hdeclined.isBookkeeping hbounded)
  cases hget : p.deployments.get? scene.newDeployment with
  | some d =>
    obtain ⟨e, hrefused⟩ := storeOpened_refused (w := w.withFaults faults) hspares hp plan hget
    rw [hrefused]
    exact .taken hspares hget
  | none =>
    rw [storeOpened_run (w := w.withFaults faults) hspares hp plan hget (hconsistent.free hget)]
    exact .opened hspares hvalid hget hsome

end ModelM

end Fleet
