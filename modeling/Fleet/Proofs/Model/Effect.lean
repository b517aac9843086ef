import Fleet.Model.Run
import Fleet.Proofs.Model.Create
import Fleet.Proofs.Model.Device

/-!
# `Fleet.Proofs.Model.Effect`: what one operation does

`Scene.Change` lists all that an operation can make of the part of the tenant that asks, with
the conditions under which it does and the events that tell of it. Every change lets the part
evolve (`Change.evolves`), so the part stays consistent.

`perform_effect` says that every operation over consistent parts has one of these effects and
no other: parts of other tenants stay, and the operation never fails for a reason that speaks
of a broken store. Only a creation asks for something in return: no more devices than a counter
can count (`ModelCall.Bounded`), and a free name if it is not to fail for that reason
(`ModelCall.Ready`).
-/

set_option autoImplicit false

namespace Fleet

open Fleet.Time

/-- The events for a device that moves on from the record `r` in the deployment `d`. -/
def Scene.reportEvents (scene : Scene) (p : Partition) (d : Deployment) (r : DeviceRecord)
    (status : DeviceStatus) (substate : Option String) : List AuditEvent :=
  scene.moveEvent r.deploymentId r.deviceId r.status status :: scene.finishEvents
    (d.withStats ((p.withRecord r.key (r.movedTo status substate scene.now)).tallyOf d.id))

/-- What an operation can make of the part of the tenant that asks, and the events for it. -/
inductive Scene.Change (scene : Scene) (p : Partition) :
    ModelCall → Partition → List AuditEvent → Prop where
  /-- Nothing is stored. -/
  | rest {c : ModelCall} : Change scene p c p []
  /-- A plan becomes a deployment. -/
  | opened {plan : Plan} (valid : plan.validate = .ok ())
      (fresh : p.deployments.get? scene.newDeployment = none)
      (inhabited : scene.targets plan ≠ []) (bounded : (scene.targets plan).length < 2 ^ 64) :
      Change scene p (.create plan) (p.withOpened (scene.opened plan) (scene.records plan))
        (scene.openingEvents plan)
  /-- A device moves on. -/
  | moved {r : DeviceRecord} {d : Deployment} {s : StatusReport}
      (hr : p.records.get? r.key = some r) (hd : p.deployments.get? r.deploymentId = some d)
      (active : r.status.isActive = true) (reportable : s.status.isReportable = true)
      (changed : r.status ≠ s.status) :
      Change scene p (.report r.deploymentId r.deviceId s)
        (p.afterReport d r s.status s.substate scene.now)
        (scene.reportEvents p d r s.status s.substate)
  /-- A device that asks for work is at rest. -/
  | rested {r : DeviceRecord} {d : Deployment} {s : DeviceStatus} {installed : Installed}
      (hr : p.records.get? r.key = some r) (hd : p.deployments.get? r.deploymentId = some d)
      (active : r.status.isActive = true)
      (reason : (s = .alreadyInstalled ∧ installed.runs d = true) ∨
        (s = .noArtifact ∧ installed.runs d = false ∧
          (installed.typeFor r).bind (scene.resolve d) = none)) :
      Change scene p (.poll r.deviceId installed) (p.afterReport d r s none scene.now)
        (scene.reportEvents p d r s none)
  /-- A device that asks for work is given an artifact. -/
  | assigned {r : DeviceRecord} {d : Deployment} {t : String} {a : Artifact}
      {installed : Installed} (hr : p.records.get? r.key = some r)
      (hd : p.deployments.get? r.deploymentId = some d) (active : r.status.isActive = true)
      (found : scene.resolve d t = some a) :
      Change scene p (.poll r.deviceId installed) (p.withRecord r.key (r.withArtifact t a)) []
  /-- A deployment is aborted. -/
  | aborted {id : DeploymentId} {d : Deployment} (hd : p.deployments.get? id = some d)
      (unfinished : d.isFinished = false) :
      Change scene p (.abort id) (p.afterAbort id scene.now)
        [.of scene.ctx scene.now .deploymentAborted id]
  /-- A device is taken out of service. -/
  | decommissioned (device : DeviceId) :
      Change scene p (.decommission device) (p.afterDecommission device scene.now)
        ((p.affected device).map (scene.lossEvent device))
  /-- A log is stored. -/
  | logged {log : DeploymentLog} {r : DeviceRecord} (valid : log.validate = .ok ())
      (hr : p.records.get? log.key = some r) :
      Change scene p (.saveLog log)
        ((p.withLog log).withRecord log.key (r.withLogMark true)) []

/-- Every change lets the part evolve. -/
theorem Scene.Change.evolves {scene : Scene} {c : ModelCall} {p p' : Partition}
    {events : List AuditEvent} (h : p.Consistent) (change : scene.Change p c p' events) :
    p.Evolves scene.now p' := by
  cases change with
  | rest => exact h.evolves_refl
  | opened valid fresh inhabited bounded =>
    refine h.evolves_opened (opened_opened inhabited bounded) ?_ (fun r hr => ?_)
      (scene.nodup_records _)
    · rw [id_opened]
      exact fresh
    · rw [id_opened]
      exact deploymentId_of_mem_records hr
  | moved hr hd active reportable changed =>
    exact h.evolves_report hr hd _ active reportable changed
  | rested hr hd active reason =>
    -- A poll that puts a device to rest is a report of its own.
    obtain ⟨reportable, changed⟩ := ModelM.reason_change active reason
    exact h.evolves_report hr hd _ active reportable changed
  | assigned hr hd active found => exact h.evolves_assign hr _ _ active
  | aborted hd unfinished => exact h.evolves_abort hd unfinished
  | decommissioned device => exact h.evolves_decommission device
  | logged valid hr =>
    have hkey := h.keyed.record hr
    rw [← hkey] at hr
    rw [← hkey]
    exact h.evolves_log hr _

/-! ### Records that go on -/

namespace Partition

/-- A record goes on from an active one of the part under the same key, with the artifact and
the type of device that it had. -/
def Continues (p : Partition) (k : DeploymentId × DeviceId) (r' : DeviceRecord) : Prop :=
  ∃ r, p.records.get? k = some r ∧ r.status.isActive = true ∧ r'.artifact = r.artifact ∧
    r'.deviceType = r.deviceType

namespace Continues

variable {p : Partition} {k : DeploymentId × DeviceId} {r r' : DeviceRecord} {now : Instant}

/-- An active record that is still there under its name is one that goes on. -/
theorem of_get? (hr' : p.records.get? k = some r') (active' : r'.status.isActive = true) :
    p.Continues k r' :=
  ⟨r', hr', active', rfl, rfl⟩

/-- A report leaves artifacts alone, and the record that it moves was active. -/
theorem of_afterReport {d : Deployment} {s : DeviceStatus} {substate : Option String}
    (hr : p.records.get? r.key = some r) (active : r.status.isActive = true)
    (hr' : (p.afterReport d r s substate now).records.get? k = some r')
    (active' : r'.status.isActive = true) : p.Continues k r' := by
  rw [afterReport, records_withDeployment, get?_withRecord] at hr'
  split at hr'
  · next hk =>
    cases hr'
    exact ⟨r, hk ▸ hr, active, rfl, rfl⟩
  · exact of_get? hr' active'

/-- A record that is still active after a stop is one that the stop did not touch. -/
theorem of_stopRecords {test : DeviceRecord → Bool} {s : DeviceStatus} (hs : s.isActive = false)
    (hr' : (p.stopRecords test s now).records.get? k = some r')
    (active' : r'.status.isActive = true) : p.Continues k r' := by
  rw [get?_stopRecords] at hr'
  obtain ⟨r, hr, rfl⟩ := Option.map_eq_some_iff.1 hr'
  rw [DeviceRecord.stopIf] at active' ⊢
  split at active'
  · rw [show (r.stopAt s now).status = s from rfl, hs] at active'
    cases active'
  · next hstay =>
    rw [if_neg hstay]
    exact of_get? hr active'

end Continues

end Partition

namespace Scene.Change

variable {scene : Scene} {c : ModelCall} {p p' : Partition} {events : List AuditEvent}

/-- A deployment that was not there before is the one of a creation. -/
theorem opened_of_new (h : p.Consistent) (change : scene.Change p c p' events) {id : DeploymentId}
    {d' : Deployment} (hnew : p.deployments.get? id = none)
    (hd' : p'.deployments.get? id = some d') :
    ∃ plan, c = .create plan ∧ id = scene.newDeployment ∧ d' = scene.opened plan ∧
      plan.validate = .ok () := by
  have hreport {r : DeviceRecord} {d : Deployment} {st : DeviceStatus} {substate : Option String}
      (hd : p.deployments.get? r.deploymentId = some d) :
      (p.afterReport d r st substate scene.now).deployments.get? id = none := by
    rw [Partition.afterReport, Partition.get?_withDeployment, h.keyed.deployment hd]
    split
    · next hid =>
      rw [hid, hnew] at hd
      cases hd
    · exact hnew
  -- A name that was free is taken by one change only; all others write to names that are there.
  cases change with
  | opened valid fresh inhabited bounded =>
    rw [Partition.get?_withOpened, id_opened] at hd'
    split at hd'
    · next hid =>
      cases hd'
      exact ⟨_, rfl, hid.symm, rfl, valid⟩
    · rw [hnew] at hd'
      cases hd'
  | moved hr hd active reportable changed =>
    rw [hreport hd] at hd'
    cases hd'
  | rested hr hd active reason =>
    rw [hreport hd] at hd'
    cases hd'
  | aborted hd unfinished =>
    rw [Partition.afterAbort, Partition.get?_recounted, Partition.deployments_stopRecords, hnew]
      at hd'
    split at hd' <;> cases hd'
  | decommissioned device =>
    rw [Partition.get?_afterDecommission, hnew] at hd'
    split at hd' <;> cases hd'
  | _ => exact absurd (hd'.symm.trans hnew) (Option.some_ne_none _)

/-- A deployment makes one step with its records, or it is the one of a creation. -/
theorem deployment (h : p.Consistent) (change : scene.Change p c p' events) {id : DeploymentId}
    {d' : Deployment} (hd' : p'.deployments.get? id = some d') :
    (∃ d, p.deployments.get? id = some d ∧
      d.Progress scene.now (p.recordsOf id) d' (p'.recordsOf id)) ∨
    p.deployments.get? id = none ∧ ∃ plan, c = .create plan ∧ id = scene.newDeployment ∧
      d' = scene.opened plan ∧ plan.validate = .ok () := by
  rcases (change.evolves h).deployment hd' with hold | ⟨hnew, -⟩
  · exact .inl hold
  · exact .inr ⟨hnew, change.opened_of_new h hnew hd'⟩

/-- An active record was active before, and it has the same artifact unless a poll gave it
another one, or it is one of a creation. -/
theorem activeRecord (change : scene.Change p c p' events)
    {k : DeploymentId × DeviceId} {r' : DeviceRecord} (hr' : p'.records.get? k = some r')
    (active' : r'.status.isActive = true) :
    p.Continues k r' ∨
    (p.deployments.get? scene.newDeployment = none ∧ ∃ plan device id, c = .create plan ∧
      r' = scene.recordFor (scene.draft plan) device id) ∨
    ∃ r d t a, p.records.get? k = some r ∧ p.deployments.get? k.1 = some d ∧
      scene.resolve d t = some a ∧ r' = r.withArtifact t a := by
  cases change with
  | rest => exact .inl (.of_get? hr' active')
  | opened valid fresh inhabited bounded =>
    rcases Partition.get?_withRecords hr' with hmem | hr
    · obtain ⟨device, id, hrecord⟩ := mem_recordsFrom hmem
      exact .inr (.inl ⟨fresh, _, device, id, rfl, hrecord⟩)
    · exact .inl (.of_get? hr active')
  | moved hr hd active reportable changed => exact .inl (.of_afterReport hr active hr' active')
  | rested hr hd active reason => exact .inl (.of_afterReport hr active hr' active')
  | assigned hr hd active found =>
    rw [Partition.get?_withRecord] at hr'
    split at hr'
    · next hk =>
      cases hr'
      subst hk
      -- Of the records that are there this one alone has another artifact.
      exact .inr (.inr ⟨_, _, _, _, hr, hd, found, rfl⟩)
    · exact .inl (.of_get? hr' active')
  | aborted hd unfinished =>
    rw [Partition.afterAbort, Partition.records_recounted] at hr'
    exact .inl (.of_stopRecords rfl hr' active')
  | decommissioned device =>
    rw [Partition.afterDecommission, (Partition.foldl_recounted _ _ _).1] at hr'
    exact .inl (.of_stopRecords rfl hr' active')
  | logged valid hr =>
    rw [Partition.get?_withRecord] at hr'
    split at hr'
    · next hk =>
      cases hr'
      subst hk
      exact .inl ⟨_, hr, active', rfl, rfl⟩
    · exact .inl (.of_get? hr' active')

end Scene.Change

/-- A creation selects no more devices than a counter can count. -/
def ModelCall.Bounded (scene : Scene) : ModelCall → Prop
  | .create plan => (scene.targets plan).length < 2 ^ 64
  | _ => True

/-- What a creation asks for: a free name, and no more devices than a counter can count. -/
def ModelCall.Ready (scene : Scene) (p : Partition) : ModelCall → Prop
  | .create plan => p.deployments.get? scene.newDeployment = none ∧
      (scene.targets plan).length < 2 ^ 64
  | _ => True

/-- A call that is ready selects no more devices than a counter can count. -/
theorem ModelCall.Ready.bounded {scene : Scene} {p : Partition} {c : ModelCall}
    (h : c.Ready scene p) : c.Bounded scene := by
  cases c with
  | create plan => exact h.2
  | _ => trivial

namespace World

variable {ω : Type} {scene : Scene} {w : World MemoryStore ω} {c : ModelCall}
  {p p' : Partition}

/-- What one operation does to a world. -/
structure Effect (scene : Scene) (w : World MemoryStore ω) (c : ModelCall)
    (x : Except ModelError c.Answer × World MemoryStore ω) : Prop where
  /-- The part of the tenant that asks makes one change, and the trail goes on with it. -/
  change : ∃ events, scene.Change (w.part scene.ctx.partition) c
    (x.2.part scene.ctx.partition) events ∧ x.2.trail = w.trail ++ events
  /-- Other parts stay as they are. -/
  others : ∀ t, t ≠ scene.ctx.partition → x.2.part t = w.part t
  /-- Faults go on sparing the store. -/
  spares : x.2.faults.SparesStore
  /-- An error is never about a broken store, unless the name of a creation is taken. -/
  sound : c.Ready scene (w.part scene.ctx.partition) → ∀ e, x.1 = .error e →
    e.isBookkeeping = false

namespace Effect

/-- An operation that only looks. -/
theorem of_rest {x : Except ModelError c.Answer} {plan : FaultPlan}
    (hplan : plan.SparesStore) (hx : ∀ e, x = .error e → e.isBookkeeping = false) :
    Effect scene w c (x, w.withFaults plan) :=
  ⟨⟨[], .rest, (List.append_nil _).symm⟩, fun _ _ => rfl, hplan, fun _ => hx⟩

/-- An operation that gives the tenant another part. -/
theorem of_turn {x : Except ModelError c.Answer} {plan : FaultPlan} {calls : List StoreCall}
    {events : List AuditEvent} (hplan : plan.SparesStore)
    (hp : w.part scene.ctx.partition = p) (change : scene.Change p c p' events)
    (hx : c.Ready scene p → ∀ e, x = .error e → e.isBookkeeping = false) :
    Effect scene w c (x, (w.withFaults plan).turn scene.ctx.partition p' calls events) where
  change := by
    rw [hp, part_turn]
    exact ⟨events, change, rfl⟩
  others t ht := MemoryStore.partition_withPartition_of_ne _ _ ht
  spares := hplan
  sound := by
    rw [hp]
    exact hx

/-- What an operation does to the store is not touched by what it does to the object storage. -/
theorem withObjects {x : Except ModelError c.Answer} {w' : World MemoryStore ω} (o : ω)
    (h : Effect scene w c (x, w')) : Effect scene w c (x, w'.withObjects o) :=
  ⟨h.change, h.others, h.spares, h.sound⟩

end Effect

/-- An answer is no error of bookkeeping. -/
theorem ok_ne_error {α : Type} {a : α} : ∀ e : ModelError,
    (.ok a : Except ModelError α) = .error e → e.isBookkeeping = false := by
  intro e he
  cases he

/-- An error that is none of bookkeeping stays one. -/
theorem sound_of_eq {α : Type} {e : ModelError} (h : e.isBookkeeping = false) : ∀ e' : ModelError,
    (.error e : Except ModelError α) = .error e' → e'.isBookkeeping = false := by
  intro e' he
  cases he
  exact h

section

variable (hp : w.part scene.ctx.partition = p)
include hp

/-- A creation opens a deployment or changes nothing. -/
theorem effect_of_create {plan : Plan}
    {x : Except ModelError DeploymentId × World MemoryStore ω}
    (hbounded : (scene.targets plan).length < 2 ^ 64)
    (h : ModelM.CreateOutcome scene w p plan x) : Effect scene w (.create plan) x := by
  cases h with
  | refused hspares he => exact .of_rest hspares (sound_of_eq he)
  | taken hspares hd =>
    refine .of_turn hspares hp .rest fun hready => ?_
    rw [ModelCall.Ready, hd] at hready
    cases hready.1
  | opened hspares valid hfresh inhabited =>
    exact .of_turn hspares hp (.opened valid hfresh inhabited hbounded) fun _ => ok_ne_error

/-- A report moves a record or changes nothing. -/
theorem effect_of_report {id : DeploymentId} {device : DeviceId} {s : StatusReport}
    {x : Except ModelError Unit × World MemoryStore ω} (hfaults : w.faults.SparesStore)
    (hconsistent : p.Consistent) (h : ModelM.ReportOutcome scene w p id device s x) :
    Effect scene w (.report id device s) x := by
  cases h with
  | refused he => exact .of_rest hfaults (sound_of_eq he)
  | unchanged hr same => exact .of_rest hfaults ok_ne_error
  | moved hr hd active reportable changed =>
    have hkey := hconsistent.keyed.record hr
    obtain ⟨rfl, rfl⟩ := Prod.mk.inj hkey
    exact .of_turn hfaults hp (.moved hr hd active reportable changed) fun _ => ok_ne_error

/-- A poll gives a record its artifact, moves it to rest, or changes nothing. -/
theorem effect_of_poll [LinkIssuer ω] {device : DeviceId} {installed : Installed}
    {x : Except ModelError (Option Instructions) × World MemoryStore ω}
    (hfaults : w.faults.SparesStore) (hconsistent : p.Consistent)
    (h : ModelM.PollOutcome scene w p device installed x) :
    Effect scene w (.poll device installed) x := by
  have hserves {r d a p'} (serves : ModelM.Serves scene p device installed r d a p') :
      scene.Change p (.poll device installed) p' [] := by
    obtain ⟨hr, rfl, hactive⟩ := Partition.of_oldest hconsistent.keyed serves.oldest
    cases serves.gives with
    | kept has same => exact .rest
    | renewed lacks type found => exact .assigned hr serves.stored hactive found
  cases h with
  | idle free => exact .of_rest hfaults ok_ne_error
  | failed hspares he => exact .of_rest hspares (sound_of_eq he.isBookkeeping)
  | rested hspares holdest hd reason =>
    obtain ⟨hr, rfl, hactive⟩ := Partition.of_oldest hconsistent.keyed holdest
    refine .of_turn hspares hp ?_ fun _ => ok_ne_error
    have hchange : scene.Change p (.poll _ installed) _ _ :=
      .rested hr hd hactive reason
    rw [Scene.reportEvents, ← hconsistent.keyed.deployment hd] at hchange
    exact hchange
  | served hspares serves link =>
    exact .withObjects _ (.of_turn hspares hp (hserves serves) fun _ => ok_ne_error)
  | unlinked hspares serves link =>
    exact .withObjects _ (.of_turn hspares hp (hserves serves) fun _ => sound_of_eq rfl)

/-- Saving a log stores and marks it or changes nothing. -/
theorem effect_of_saveLog {log : DeploymentLog}
    {x : Except ModelError Unit × World MemoryStore ω} (hfaults : w.faults.SparesStore)
    (h : ModelM.LogOutcome scene w p log x) : Effect scene w (.saveLog log) x := by
  cases h with
  | refused he => exact .of_rest hfaults (sound_of_eq he)
  | stored valid hr => exact .of_turn hfaults hp (.logged valid hr) fun _ => ok_ne_error

end

/-- Every operation over a consistent part makes one change to it and nothing else. -/
theorem perform_effect [LinkIssuer ω] (hfaults : w.faults.SparesStore)
    (hconsistent : (w.part scene.ctx.partition).Consistent) (c : ModelCall)
    (hbounded : c.Bounded scene) : Effect scene w c (w.perform scene c) := by
  -- One case an operation: what its run comes to is one of the changes, or none.
  obtain ⟨p, hp⟩ : ∃ p, w.part scene.ctx.partition = p := ⟨_, rfl⟩
  rw [hp] at hconsistent
  cases c with
  | create plan =>
    exact effect_of_create hp hbounded
      (ModelM.create_outcome hfaults hp hconsistent plan hbounded)
  | get id =>
    show Effect scene w (.get id) ((ModelM.getDeployment id : ModelM MemoryStore ω _) scene w)
    rw [ModelM.getDeployment_run hfaults hp]
    exact .of_rest hfaults ok_ne_error
  | stats id =>
    show Effect scene w (.stats id) ((ModelM.getStats id : ModelM MemoryStore ω _) scene w)
    rw [ModelM.getStats_run hfaults hp (hconsistent.bounded id)]
    exact .of_rest hfaults ok_ne_error
  | isFinished id =>
    show Effect scene w (.isFinished id) ((ModelM.isFinished id : ModelM MemoryStore ω _) scene w)
    rw [ModelM.isFinished_run hfaults hp]
    exact .of_rest hfaults ok_ne_error
  | lookup q =>
    show Effect scene w (.lookup q) ((ModelM.lookup q : ModelM MemoryStore ω _) scene w)
    rcases ModelM.lookup_run hfaults hp q with ⟨e, h⟩ | h
    · rw [h]
      exact .of_rest hfaults (sound_of_eq rfl)
    · rw [h]
      exact .of_rest hfaults ok_ne_error
  | abort id =>
    show Effect scene w (.abort id) ((ModelM.abort id : ModelM MemoryStore ω _) scene w)
    rcases ModelM.abort_run hfaults hp hconsistent id with
      ⟨-, h⟩ | ⟨d, hd, ⟨-, h⟩ | ⟨unfinished, calls, h⟩⟩
    · rw [h]
      exact .of_rest hfaults (sound_of_eq rfl)
    · rw [h]
      exact .of_rest hfaults (sound_of_eq rfl)
    · rw [h]
      exact .of_turn hfaults hp (.aborted hd unfinished) fun _ => ok_ne_error
  | decommission device =>
    show Effect scene w (.decommission device)
      ((ModelM.decommission device : ModelM MemoryStore ω _) scene w)
    obtain ⟨calls, h⟩ := ModelM.decommission_run hfaults hp hconsistent device
    rw [h]
    exact .of_turn hfaults hp (.decommissioned device) fun _ => ok_ne_error
  | poll device installed =>
    exact effect_of_poll hp hfaults hconsistent
      (ModelM.poll_outcome hfaults hp hconsistent device installed)
  | report id device s =>
    exact effect_of_report hp hfaults hconsistent
      (ModelM.report_outcome hfaults hp hconsistent id device s)
  | records id =>
    show Effect scene w (.records id) ((ModelM.getRecords id : ModelM MemoryStore ω _) scene w)
    rw [ModelM.getRecords_run hfaults hp]
    split
    · exact .of_rest hfaults ok_ne_error
    · exact .of_rest hfaults (sound_of_eq rfl)
  | hasRecord id device =>
    show Effect scene w (.hasRecord id device)
      ((ModelM.hasRecord id device : ModelM MemoryStore ω _) scene w)
    rw [ModelM.hasRecord, ModelM.askStore_read _ hfaults hp rfl rfl]
    exact .of_rest hfaults ok_ne_error
  | saveLog log => exact effect_of_saveLog hp hfaults (ModelM.saveLog_outcome hfaults hp log)
  | getLog id device =>
    show Effect scene w (.getLog id device)
      ((ModelM.getLog id device : ModelM MemoryStore ω _) scene w)
    rw [ModelM.getLog, ModelM.askStore_read _ hfaults hp rfl rfl]
    exact .of_rest hfaults ok_ne_error

end World

end Fleet
