import Fleet.Proofs.Model.Execution
import Fleet.Proofs.Store.Consistency

/-!
# `Fleet.Proofs.Model.Lifecycle`: looking up and stopping, run to the end

Over a consistent part of a data store of tables every question of these operations is
answered. A look-up gives what the part holds and leaves the world as it is. An abort that is
not refused ends in `Partition.afterAbort` (`abort_run`), and taking a device out of service
always ends in `Partition.afterDecommission` (`decommission_run`).
-/

set_option autoImplicit false

namespace Fleet

/-- The event for a deployment that loses a device. -/
def Scene.lossEvent (scene : Scene) (device : DeviceId) (id : DeploymentId) : AuditEvent :=
  { AuditEvent.of scene.ctx scene.now .deviceDecommissioned id with
    deviceId := some device, newStatus := some .decommissioned }

namespace ModelM

variable {ω : Type} {scene : Scene} {w : World MemoryStore ω} {p : Partition}
  {id : DeploymentId} {d : Deployment}

/-! ### Looking up -/

section

variable (hfaults : w.faults.SparesStore) (hp : w.part scene.ctx.partition = p)
include hfaults hp

/-- Looking up a deployment gives the one that is stored. -/
theorem getDeployment_run (id : DeploymentId) :
    (getDeployment id : ModelM MemoryStore ω _) scene w = (.ok (p.deployments.get? id), w) :=
  askStore_read _ hfaults hp rfl rfl

/-- A count gives the counters of the records. -/
theorem countRecords_run (hbounded : (p.recordsOf id).length < 2 ^ 64) :
    (countRecords id : ModelM MemoryStore ω _) scene w = (.ok (p.tallyOf id), w) :=
  askStore_read _ hfaults hp rfl (Partition.run_countByStatus hbounded)

/-- The counters that are told are counted from the records, if there is the deployment. -/
theorem getStats_run (hbounded : (p.recordsOf id).length < 2 ^ 64) :
    (getStats id : ModelM MemoryStore ω _) scene w
      = (.ok ((p.deployments.get? id).map fun _ => p.tallyOf id), w) := by
  rw [getStats, bind_ok (getDeployment_run hfaults hp id)]
  cases p.deployments.get? id with
  | none => rfl
  | some d =>
    dsimp only
    rw [bind_ok (countRecords_run hfaults hp hbounded)]
    rfl

/-- A deployment that is missing counts as finished. -/
theorem isFinished_run (id : DeploymentId) :
    (isFinished id : ModelM MemoryStore ω _) scene w
      = (.ok ((p.deployments.get? id).filter (!·.isFinished)).isNone, w) := by
  rw [isFinished, bind_ok (askStore_read _ hfaults hp rfl rfl)]
  rfl

/-- The number of devices that a look-up tells is counted from the records. -/
theorem recountDevices_run (l : List Deployment) :
    (recountDevices l : ModelM MemoryStore ω _) scene w
      = (.ok (l.map fun d => { d with deviceCount := (p.recordsOf d.id).length }), w) := by
  induction l with
  | nil => rfl
  | cons d rest ih =>
    rw [recountDevices, bind_ok (askStore_read _ hfaults hp rfl rfl), bind_ok ih]
    rfl

/-- A search is refused by a rule of queries, or gives its page of the deployments that are
stored. -/
theorem lookup_run (q : Query) :
    (∃ e, (lookup q : ModelM MemoryStore ω _) scene w = (.error (.validation e), w)) ∨
    (lookup q : ModelM MemoryStore ω _) scene w
      = (.ok ((q.apply p.deployments.values).map fun d =>
          { d with deviceCount := (p.recordsOf d.id).length }), w) := by
  rw [lookup]
  cases hvalid : q.validate with
  | error e => exact .inl ⟨e, bind_error (accept_error rfl)⟩
  | ok u =>
    refine .inr ?_
    rw [bind_ok (accept_ok rfl), bind_ok (askStore_read _ hfaults hp rfl rfl)]
    exact recountDevices_run hfaults hp _

/-- The records of a deployment are told in order, if there is the deployment. -/
theorem getRecords_run (id : DeploymentId) :
    (getRecords id : ModelM MemoryStore ω _) scene w
      = (if (p.deployments.get? id).isSome then .ok (p.recordsOf id)
          else .error .deploymentNotFound, w) := by
  rw [getRecords, bind_ok (getDeployment_run hfaults hp id)]
  cases p.deployments.get? id with
  | none => rfl
  | some d => exact askStore_read _ hfaults hp rfl rfl

end

/-! ### Stopping -/

/-- A deployment is counted anew and finished, in two calls of which the second is noted. -/
theorem finishRecounted_run {calls : List StoreCall} {events : List AuditEvent}
    (hfaults : w.faults.SparesStore) (hd : p.deployments.get? id = some d)
    (hbounded : (p.recordsOf id).length < 2 ^ 64) :
    (finishRecounted id : ModelM MemoryStore ω _) scene
        (w.turn scene.ctx.partition p calls events)
      = (.ok (), w.turn scene.ctx.partition (p.recounted id scene.now)
          (calls ++ [.finishWithStats id (p.tallyOf id) scene.now]) events) := by
  rw [finishRecounted, bind_ok (countRecords_run
    (w := w.turn scene.ctx.partition p calls events) hfaults (World.part_turn ..) hbounded),
    bind_ok read_run]
  exact askStore_ok _ hfaults (Partition.run_finishWithTally scene.now hd)

/-- Every deployment that is named is counted anew and finished, and each is told of, in order. -/
theorem finishWithout_run {calls : List StoreCall} {events : List AuditEvent}
    (device : DeviceId) (ids : List DeploymentId) (hfaults : w.faults.SparesStore)
    (hids : ∀ id ∈ ids, (∃ d, p.deployments.get? id = some d) ∧
      (p.recordsOf id).length < 2 ^ 64) :
    ∃ calls', (finishWithout device ids : ModelM MemoryStore ω _) scene
        (w.turn scene.ctx.partition p calls events)
      = (.ok (), w.turn scene.ctx.partition
          (ids.foldl (fun p id => p.recounted id scene.now) p) calls'
          (events ++ ids.map (scene.lossEvent device))) := by
  induction ids generalizing p calls events with
  | nil => exact ⟨calls, by rw [List.map_nil, List.append_nil]; rfl⟩
  | cons id rest ih =>
    obtain ⟨⟨d, hd⟩, hbounded⟩ := hids id List.mem_cons_self
    -- Counting one deployment anew leaves the other ones there, with their records.
    have hrest : ∀ id' ∈ rest, (∃ d, (p.recounted id scene.now).deployments.get? id' = some d) ∧
        ((p.recounted id scene.now).recordsOf id').length < 2 ^ 64 := by
      intro id' hid'
      obtain ⟨⟨d', hd'⟩, hbounded'⟩ := hids id' (List.mem_cons_of_mem _ hid')
      rw [Partition.recordsOf, Partition.records_recounted, Partition.get?_recounted, hd']
      refine ⟨?_, hbounded'⟩
      split <;> exact ⟨_, rfl⟩
    have hevents : events ++ (scene.lossEvent device id :: rest.map (scene.lossEvent device))
        = (events ++ [scene.lossEvent device id]) ++ rest.map (scene.lossEvent device) :=
      List.append_cons ..
    rw [finishWithout, bind_ok (finishRecounted_run hfaults hd hbounded),
      bind_ok (emit_run _ _ _), List.map_cons, hevents]
    exact ih hrest

/-- What an abort does: it is refused, or it stops the deployment. -/
theorem abort_run (hfaults : w.faults.SparesStore) (hp : w.part scene.ctx.partition = p)
    (hconsistent : p.Consistent) (id : DeploymentId) :
    (p.deployments.get? id = none ∧
      (abort id : ModelM MemoryStore ω _) scene w = (.error .deploymentNotFound, w)) ∨
    ∃ d, p.deployments.get? id = some d ∧
      ((d.isFinished = true ∧
        (abort id : ModelM MemoryStore ω _) scene w = (.error .alreadyFinished, w)) ∨
      (d.isFinished = false ∧ ∃ calls,
        (abort id : ModelM MemoryStore ω _) scene w
          = (.ok (), w.turn scene.ctx.partition (p.afterAbort id scene.now) calls
              [.of scene.ctx scene.now .deploymentAborted id]))) := by
  rw [abort, bind_ok (getDeployment_run hfaults hp id)]
  cases hd : p.deployments.get? id with
  | none => exact .inl ⟨rfl, rfl⟩
  | some d =>
    refine .inr ⟨d, rfl, ?_⟩
    dsimp only
    cases hfinished : d.isFinished with
    | true => exact .inl ⟨rfl, bind_error (throw_run _)⟩
    | false =>
      refine .inr ⟨rfl, ?_⟩
      have hstop : p.run (.abortRecords id scene.now)
          = .ok ((), p.stopRecords (·.deploymentId = id) .aborted scene.now) := rfl
      have hd' : (p.stopRecords (·.deploymentId = id) .aborted
          scene.now).deployments.get? id = some d := hd
      -- A stop changes records in place, so there are as many to count as before.
      have hbounded : ((p.stopRecords (·.deploymentId = id) .aborted scene.now).recordsOf
          id).length < 2 ^ 64 := by
        rw [Partition.recordsOf_stopRecords, List.length_map]
        exact (hconsistent.counts hd).bounded
      refine ⟨[.abortRecords id scene.now, .finishWithStats id
        ((p.stopRecords (·.deploymentId = id) .aborted scene.now).tallyOf id) scene.now],
        of_turn hp ?_⟩
      rw [if_neg Bool.false_ne_true, bind_ok read_run, bind_ok (askStore_ok _ hfaults hstop),
        bind_ok (finishRecounted_run hfaults hd' hbounded), emit_run]
      rfl

/-- Taking a device out of service is never refused. -/
theorem decommission_run (hfaults : w.faults.SparesStore)
    (hp : w.part scene.ctx.partition = p) (hconsistent : p.Consistent) (device : DeviceId) :
    ∃ calls, (decommission device : ModelM MemoryStore ω _) scene w
      = (.ok (), w.turn scene.ctx.partition (p.afterDecommission device scene.now) calls
          ((p.affected device).map (scene.lossEvent device))) := by
  have hstop : p.run (.decommissionRecords device scene.now)
      = .ok (p.affected device,
          p.stopRecords (·.deviceId = device) .decommissioned scene.now) := rfl
  have hids : ∀ id ∈ p.affected device,
      (∃ d, (p.stopRecords (·.deviceId = device) .decommissioned
        scene.now).deployments.get? id = some d) ∧
      ((p.stopRecords (·.deviceId = device) .decommissioned
        scene.now).recordsOf id).length < 2 ^ 64 := by
    intro id hid
    -- An affected deployment has a record, which belongs to it.
    obtain ⟨r, hr, -⟩ := Partition.mem_affected.1 hid
    obtain ⟨d, hd⟩ := hconsistent.owned ((Partition.mem_recordsOf hconsistent.keyed).1 hr)
    rw [Partition.recordsOf_stopRecords, List.length_map]
    exact ⟨⟨d, hd⟩, (hconsistent.counts hd).bounded⟩
  obtain ⟨calls, hrun⟩ : ∃ calls, (finishWithout device (p.affected device) :
      ModelM MemoryStore ω Unit) scene (w.turn scene.ctx.partition
        (p.stopRecords (·.deviceId = device) .decommissioned scene.now)
        ([] ++ [.decommissionRecords device scene.now]) []) = _ :=
    finishWithout_run device _ hfaults hids
  refine ⟨calls, of_turn hp ?_⟩
  rw [decommission, bind_ok read_run, bind_ok (askStore_ok _ hfaults hstop)]
  exact hrun

end ModelM

end Fleet
