import Fleet.Proofs.Model.Runs

/-!
# `Fleet.Proofs.Model.Opening`: what a creation adds

`create_opens_iff` is the main theorem. Where no collaborator fails and the new name is free, a plan
is opened exactly if it keeps the rules and selects a device. What it selects is said from the plan
alone: the named devices or those of the group, later repetitions dropped, and of these as many as
the plan allows (`Plan.selectDevices_eq`). A part that has opened a plan differs from the one before
in one deployment and in one record for each of these devices (`Partition.get?_withRecords_of_mem`,
`Partition.get?_withRecords_of_notMem`).
-/

set_option autoImplicit false

namespace Fleet

open Fleet.Time

namespace Plan

/-- Devices that are seen for the first time join those that were seen before. -/
theorem foldl_distinct (l done : List DeviceId) :
    l.foldl (fun done d => if done.contains d then done else done ++ [d]) done
      = done ++ (l.filter fun d => !done.contains d).eraseDups := by
  induction l generalizing done with
  | nil => simp
  | cons d rest ih =>
    rw [List.foldl_cons]
    by_cases hd : done.contains d = true
    · rw [if_pos hd, ih, List.filter_cons_of_neg (by simpa using hd)]
    · have hrest : (rest.filter fun b => !(done ++ [d]).contains b)
          = (rest.filter fun b => !done.contains b).filter fun b => !b == d := by
        rw [List.filter_filter]
        refine List.filter_congr fun b _ => ?_
        grind
      rw [if_neg hd, ih, List.filter_cons_of_pos (by simpa using hd), List.eraseDups_cons, hrest,
        List.append_assoc]
      rfl

/-- The selected devices are the first ones of the plan or the group, without repetitions and up to
the limit of the plan. -/
theorem selectDevices_eq (p : Plan) (l : List DeviceId) :
    p.selectDevices l
      = match p.maxDevices with
        | none => l.eraseDups
        | some n => l.eraseDups.take n := by
  have hdistinct := foldl_distinct l []
  rw [List.filter_eq_self.2 (by simp), List.nil_append] at hdistinct
  cases hmax : p.maxDevices with
  | none => simp only [selectDevices, hdistinct, hmax]
  | some n => simp only [selectDevices, hdistinct, hmax]

end Plan

namespace Scene

variable (scene : Scene) (d : Deployment)

/-- The record of a device that an artifact was found for waits, any other is at rest. -/
theorem recordFor_eq (device : DeviceId) (id : RecordId) :
    scene.recordFor d device id =
      { id
        deploymentId := d.id
        deviceId := device
        artifact := scene.artifactFor d device
        deviceType := scene.inventory.deviceType device
        status := if (scene.artifactFor d device).isSome then .pending else .noArtifact
        created := d.created
        finished := if (scene.artifactFor d device).isSome then none else some d.created } := by
  rw [recordFor]
  split <;> rfl

/-- The record at a position is that of the device there, under the name that is handed out for the
position. -/
theorem getElem?_recordsFrom (devices : List DeviceId) (position i : Nat) :
    (scene.recordsFrom d position devices)[i]?
      = devices[i]?.map fun device =>
          scene.recordFor d device (scene.newRecord (position + i)) := by
  induction devices generalizing position i with
  | nil => rfl
  | cons device rest ih =>
    rw [recordsFrom]
    cases i with
    | zero => rfl
    | succ i =>
      rw [List.getElem?_cons_succ, List.getElem?_cons_succ, ih]
      simp only [Nat.add_assoc, Nat.add_comm 1]

end Scene

namespace Partition

variable {p : Partition} {l : List DeviceRecord}

/-- Storing records leaves the logs alone. -/
@[simp] theorem logs_withRecords (p : Partition) (l : List DeviceRecord) :
    (p.withRecords l).logs = p.logs := by
  induction l generalizing p with
  | nil => rfl
  | cons r rest ih => exact ih (p.withRecord r.key r)

/-- Storing a batch of records leaves those of other names as they are. -/
theorem get?_withRecords_of_notMem {k : DeploymentId × DeviceId} (hk : k ∉ l.map (·.key)) :
    (p.withRecords l).records.get? k = p.records.get? k := by
  induction l generalizing p with
  | nil => rfl
  | cons r rest ih =>
    rw [List.map_cons, List.mem_cons, not_or] at hk
    show ((p.withRecord r.key r).withRecords rest).records.get? k = _
    rw [ih hk.2, get?_withRecord, if_neg (Ne.symm hk.1)]

/-- Records with different keys are all found. -/
theorem get?_withRecords_of_mem (hnodup : (l.map (·.key)).Nodup) {r : DeviceRecord} (hr : r ∈ l) :
    (p.withRecords l).records.get? r.key = some r := by
  induction l generalizing p with
  | nil => cases hr
  | cons first rest ih =>
    rw [List.map_cons, List.nodup_cons] at hnodup
    show ((p.withRecord first.key first).withRecords rest).records.get? r.key = _
    rcases List.mem_cons.1 hr with rfl | hr
    · rw [get?_withRecords_of_notMem hnodup.1, get?_withRecord, if_pos rfl]
    · exact ih hnodup.2 hr

/-- Each device that a plan selects is given a record. -/
theorem record_withOpened {scene : Scene} {plan : Plan} {i : Nat} {device : DeviceId}
    (hi : (scene.targets plan)[i]? = some device) :
    (p.withOpened (scene.opened plan) (scene.records plan)).records.get?
        (scene.newDeployment, device)
      = some (scene.recordFor (scene.draft plan) device (scene.newRecord i)) := by
  have hget : (scene.records plan)[i]?
      = some (scene.recordFor (scene.draft plan) device (scene.newRecord i)) := by
    rw [Scene.records, Scene.getElem?_recordsFrom, hi, Nat.zero_add]
    rfl
  have hfound := get?_withRecords_of_mem (p := p.withDeployment (scene.opened plan).id
    (scene.opened plan)) (scene.nodup_records plan) (List.mem_of_getElem? hget)
  rw [Scene.key_recordFor] at hfound
  exact hfound

/-- No other record is written. -/
theorem record_withOpened_of_notMem {scene : Scene} {plan : Plan} {k : DeploymentId × DeviceId}
    (hk : k.1 = scene.newDeployment → k.2 ∉ scene.targets plan) :
    (p.withOpened (scene.opened plan) (scene.records plan)).records.get? k
      = p.records.get? k := by
  refine get?_withRecords_of_notMem fun hmem => ?_
  rw [Scene.records, Scene.map_key_recordsFrom] at hmem
  obtain ⟨device, hdevice, rfl⟩ := List.mem_map.1 hmem
  exact hk rfl hdevice

/-- Neither a deployment nor a record of the part has the name. -/
structure Unused (p : Partition) (id : DeploymentId) : Prop where
  deployment : p.deployments.get? id = none
  record : ∀ {k r}, p.records.get? k = some r → k.1 ≠ id ∧ r.deploymentId ≠ id

namespace Unused

variable {id : DeploymentId}

/-- A free name has no records. -/
theorem get?_record (h : p.Unused id) (device : DeviceId) : p.records.get? (id, device) = none := by
  cases hr : p.records.get? (id, device) with
  | none => rfl
  | some r => exact absurd rfl (h.record hr).1

/-- A deployment under a free name has no records. -/
theorem recordsOf (h : p.Unused id) : p.recordsOf id = [] := by
  refine List.filter_eq_nil_iff.2 fun r hr => ?_
  obtain ⟨k, hk⟩ := Table.mem_values_iff.1 hr
  simpa using (h.record hk).2

/-- The records under the new name are those of the plan. -/
theorem recordsOf_withOpened {scene : Scene} (h : p.Unused scene.newDeployment) (plan : Plan) :
    ((p.withOpened (scene.opened plan) (scene.records plan)).recordsOf scene.newDeployment).Perm
      (scene.records plan) := by
  have hfree : ∀ r ∈ scene.records plan,
      (p.withDeployment (scene.opened plan).id (scene.opened plan)).records.get? r.key = none := by
    intro r hr
    rw [DeviceRecord.key, Scene.deploymentId_of_mem_records hr]
    exact h.get?_record r.deviceId
  have hperm := recordsOf_withRecords hfree (scene.nodup_records plan) scene.newDeployment
  have hall : ∀ r ∈ scene.records plan, decide (r.deploymentId = scene.newDeployment) = true :=
    fun r hr => decide_eq_true (Scene.deploymentId_of_mem_records hr)
  rwa [recordsOf_withDeployment, h.recordsOf, List.append_nil, List.filter_eq_self.2 hall] at hperm

/-- The counters of the new deployment are those of its records. -/
theorem ofStatuses_withOpened {scene : Scene} (h : p.Unused scene.newDeployment) {plan : Plan}
    (hbounded : (scene.targets plan).length < 2 ^ 64) :
    Stats.ofStatuses (statuses ((p.withOpened (scene.opened plan)
        (scene.records plan)).recordsOf scene.newDeployment))
      = .ok (.tally (statuses (scene.records plan))) := by
  have hperm := h.recordsOf_withOpened plan
  rw [Stats.tally_congr (statuses_perm hperm.symm)]
  refine Stats.ofStatuses_eq_tally ?_
  rw [length_statuses, hperm.length_eq, Scene.length_records]
  exact hbounded

end Unused

end Partition

namespace Scene

variable {scene : Scene} {plan : Plan}

/-- A new deployment is finished from the start if all of its records are at rest. -/
theorem finished_opened (hsome : scene.targets plan ≠ [])
    (hbounded : (scene.targets plan).length < 2 ^ 64) :
    (scene.opened plan).finished
      = if ∀ r ∈ scene.records plan, r.status.isTerminal = true then some scene.now else none := by
  have hcounts := Deployment.Counts.opened (opened_opened hsome hbounded)
  have hdone : (scene.opened plan).allDevicesTerminal = true ↔
      ∀ r ∈ scene.records plan, r.status.isTerminal = true := hcounts.allDevicesTerminal_iff
  rw [← if_congr hdone rfl rfl, opened, Deployment.withRecords]
  dsimp only
  split
  · next hall => exact (if_pos hall).symm
  · rfl

/-- The new deployment, field by field: what it takes from the plan, the catalog and the clock, and
what is counted. -/
theorem opened_eq (scene : Scene) (plan : Plan) :
    scene.opened plan =
      { id := scene.newDeployment
        plan
        stats := .tally (statuses (scene.records plan))
        created := scene.now
        finished := (scene.opened plan).finished
        deviceCount := (scene.targets plan).length
        maxDevices := (scene.targets plan).length
        artifacts := (scene.catalog.allByName plan.artifactName).map (·.id) } := by
  rw [← length_records, opened, Deployment.withRecords]
  dsimp only
  split <;> rfl

end Scene

namespace ModelM

variable {ω : Type} {scene : Scene} {w : World MemoryStore ω} {p : Partition} {plan : Plan}

/-- Where no fault is planned, only the plan itself can be at fault. -/
theorem Declined.of_flawless {e : ModelError} (h : Declined scene w plan e) (hfaults : w.faults = [])
    (hbounded : (scene.targets plan).length < 2 ^ 64) :
    ¬(plan.validate = .ok () ∧ scene.targets plan ≠ []) := by
  rintro ⟨hvalid, hsome⟩
  cases h with
  | invalid broken =>
    rw [hvalid] at broken
    cases broken
  | deserted valid nobody => exact hsome nobody
  | unanswered planned he => exact planned hfaults
  | uncountable full =>
    rw [Scene.ofStatuses_records hbounded] at full
    cases full

/-- Where no fault is planned and the name is free, a plan is declined without any trace, or it is
opened. -/
theorem create_flawless (hfaults : w.faults = []) (hp : w.part scene.ctx.partition = p)
    (hunused : p.Unused scene.newDeployment)
    (hbounded : (scene.targets plan).length < 2 ^ 64) :
    (¬(plan.validate = .ok () ∧ scene.targets plan ≠ []) ∧
      ∃ e, (create plan : ModelM MemoryStore ω _) scene w = (.error e, w)) ∨
    (plan.validate = .ok () ∧ scene.targets plan ≠ [] ∧
      ∃ calls, (create plan : ModelM MemoryStore ω _) scene w
        = (.ok scene.newDeployment, w.turn scene.ctx.partition
            (p.withOpened (scene.opened plan) (scene.records plan)) calls
            (scene.openingEvents plan))) := by
  obtain ⟨faults, hconsulted, hrun⟩ := create_prepared_of_bounded scene w hbounded
  rw [hfaults] at hconsulted
  have hsame : w.withFaults faults = w := by
    rw [hconsulted.eq_nil, World.withFaults, ← hfaults]
  have hspares : w.faults.SparesStore := by
    rw [hfaults]
    exact FaultPlan.sparesStore_nil
  rw [hsame] at hrun
  rcases hrun with ⟨e, hdeclined, hrun⟩ | ⟨hvalid, hsome, hrun⟩
  · exact .inl ⟨hdeclined.of_flawless hfaults hbounded, e, hrun⟩
  · exact .inr ⟨hvalid, hsome, _, hrun.trans
      (storeOpened_run hspares hp plan hunused.deployment hunused.get?_record)⟩

end ModelM

namespace World

variable {ω : Type} [LinkIssuer ω] {w : World MemoryStore ω}

/-- Where no collaborator fails and the new name is free, a plan is opened exactly if it is valid and
selects a device. Otherwise nothing happens. -/
theorem create_opens_iff (hfaults : w.faults = []) (scene : Scene) (plan : Plan)
    (hunused : (w.part scene.ctx.partition).Unused scene.newDeployment)
    {candidates devices : List DeviceId}
    (hcandidates : candidates = match plan.target with
      | .devices ids => ids
      | .group name => scene.inventory.devicesInGroup name)
    (hdevices : devices = match plan.maxDevices with
      | none => candidates.eraseDups
      | some n => candidates.eraseDups.take n)
    (hbounded : devices.length < 2 ^ 64) :
    let id := scene.newDeployment
    let p := w.part scene.ctx.partition
    let x := w.perform scene (.create plan)
    let p' := x.2.part scene.ctx.partition
    let artifactFor (device : DeviceId) : Option Artifact :=
      (scene.inventory.deviceType device).bind fun t =>
        scene.catalog.artifacts.find? fun a => a.name = plan.artifactName && a.fits t
    ((∃ name, x.1 = .ok name) ↔ plan.validate = .ok () ∧ devices ≠ []) ∧
    (∀ e, x.1 = .error e → x.2 = w) ∧
    (∀ name, x.1 = .ok name → name = id ∧
      x.2.store = w.store.withPartition scene.ctx.partition p' ∧ p'.logs = p.logs ∧
      (∃ stats finished,
        p'.deployments.get? id = some
          { id, plan, stats, created := scene.now, finished
            deviceCount := devices.length
            maxDevices := devices.length
            artifacts := (scene.catalog.artifacts.filter
              (·.name = plan.artifactName)).map (·.id) } ∧
        Stats.ofStatuses (statuses (p'.recordsOf id)) = .ok stats ∧
        finished = (if ∀ r ∈ p'.recordsOf id, r.status.isTerminal = true then some scene.now
          else none) ∧
        x.2.trail = w.trail ++
          { AuditEvent.of scene.ctx scene.now .deploymentCreated id with
            deviceCount := some devices.length, artifactName := some plan.artifactName }
          :: if finished.isSome then [.of scene.ctx scene.now .deploymentFinished id] else []) ∧
      (∀ (i : Nat) device, devices[i]? = some device → p'.records.get? (id, device) = some
        { id := scene.newRecord i
          deploymentId := id
          deviceId := device
          artifact := artifactFor device
          deviceType := scene.inventory.deviceType device
          status := if (artifactFor device).isSome then .pending else .noArtifact
          created := scene.now
          finished := if (artifactFor device).isSome then none else some scene.now }) ∧
      (∀ other, other ≠ id → p'.deployments.get? other = p.deployments.get? other) ∧
      (∀ k, (k.1 = id → k.2 ∉ devices) → p'.records.get? k = p.records.get? k)) := by
  intro id p x p' artifactFor
  have htargets : scene.targets plan = devices := by
    have hselected : plan.selectDevices candidates = devices :=
      (Plan.selectDevices_eq plan candidates).trans hdevices.symm
    rw [← hselected, hcandidates]
    rfl
  have hbounded' : (scene.targets plan).length < 2 ^ 64 := by
    rw [htargets]
    exact hbounded
  rw [← htargets]
  -- Without failures there are two courses: the plan is declined, or all of it is stored.
  rcases ModelM.create_flawless hfaults rfl hunused hbounded' with
    ⟨hnot, e, hrun⟩ | ⟨hvalid, hsome, calls, hrun⟩
  · have hx : x = (.error e, w) := hrun
    refine ⟨⟨fun ⟨name, hname⟩ => ?_, fun h => absurd h hnot⟩, fun _ _ => ?_, fun name hname => ?_⟩
    · rw [hx] at hname
      cases hname
    · rw [hx]
    · rw [hx] at hname
      cases hname
  · have hx : x = _ := hrun
    have hp' : p' = p.withOpened (scene.opened plan) (scene.records plan) := by
      show x.2.part scene.ctx.partition = _
      rw [hx, part_turn]
    refine ⟨⟨fun _ => ⟨hvalid, hsome⟩, fun _ => ⟨id, by rw [hx]⟩⟩, fun e he => ?_,
      fun name hname => ?_⟩
    · rw [hx] at he
      cases he
    · rw [hx] at hname
      cases hname
      -- The counters are those of the records that are stored with them.
      refine ⟨rfl, ?_, ?_, ⟨.tally (statuses (scene.records plan)), (scene.opened plan).finished,
        ?_, ?_, ?_, ?_⟩, ?_, ?_, ?_⟩
      · rw [hp', hx]
        rfl
      · rw [hp', Partition.withOpened, Partition.logs_withRecords]
        rfl
      · rw [hp', Partition.get?_withOpened, Scene.id_opened, if_pos rfl]
        exact congrArg some (Scene.opened_eq scene plan)
      · rw [hp']
        exact hunused.ofStatuses_withOpened hbounded'
      · rw [Scene.finished_opened hsome hbounded', hp']
        refine if_congr (forall_congr' fun r => ?_) rfl rfl
        rw [(hunused.recordsOf_withOpened plan).mem_iff]
      · rw [hx, ← Scene.length_records]
        rfl
      · intro i device hi
        rw [hp', Partition.record_withOpened hi, Scene.recordFor_eq]
        rfl
      · intro other hother
        rw [hp', Partition.get?_withOpened, Scene.id_opened, if_neg (Ne.symm hother)]
      · intro k hk
        rw [hp', Partition.record_withOpened_of_notMem hk]

/-- Of four devices that are named the first two are taken, one of them twice. One of them is known
to the inventory. -/
theorem create_opens_iff_sample :
    let plan : Plan :=
      { name := "all", artifactName := "app", devices := ["left", "left", "ghost", "right"]
        maxDevices := some 2 }
    let x := sampleWorld.perform sampleScene (.create plan)
    let p' := x.2.part ""
    x.1 = .ok "update" ∧
      (p'.records.get? ("update", "left")).map (·.status) = some .pending ∧
      (p'.records.get? ("update", "ghost")).map (·.status) = some .noArtifact ∧
      (p'.records.get? ("update", "right")).map (·.status) = none := by
  intro plan x p'
  have hunused : (sampleWorld.part "").Unused "update" := ⟨rfl, fun h => nomatch h⟩
  have hdevices : ["left", "ghost"] = match plan.maxDevices with
      | none => ["left", "left", "ghost", "right"].eraseDups
      | some n => (["left", "left", "ghost", "right"].eraseDups).take n := by decide
  obtain ⟨hiff, -, hopened⟩ := create_opens_iff (w := sampleWorld) rfl sampleScene plan hunused
    (by decide) hdevices (by decide)
  obtain ⟨name, hname⟩ := hiff.2 ⟨by decide, by decide⟩
  obtain ⟨rfl, -, -, -, hrecords, -, hothers⟩ := hopened name hname
  refine ⟨hname, ?_, ?_, ?_⟩
  · exact congrArg (Option.map (·.status)) (hrecords 0 "left" rfl)
  · exact congrArg (Option.map (·.status)) (hrecords 1 "ghost" rfl)
  · exact congrArg (Option.map (·.status)) (hothers ("update", "right") (by decide))

end World

end Fleet
