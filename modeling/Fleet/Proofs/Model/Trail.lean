import Fleet.Proofs.Audit.Replay
import Fleet.Proofs.Model.Runs

/-!
# `Fleet.Proofs.Model.Trail`: the trail of a run recounts what is stored

The events of an operation are told together with the change that it makes (`Scene.Change`).
Picked out for one deployment they tell what happened to its records (`Change.tells`), and
they are never for a deployment that is not stored. So the trail of a deployment begins with
its creation, and it goes on recounting over the whole run.

`trail_replays` is the main theorem.
-/

set_option autoImplicit false

namespace Fleet

open Fleet.Time

/-! ### The statuses of the devices of a deployment -/

namespace Partition

/-- The status of each device of a deployment. -/
def statusOf (p : Partition) (id : DeploymentId) (device : DeviceId) : Option DeviceStatus :=
  (p.records.get? (id, device)).map (·.status)

variable {p p' : Partition} {id : DeploymentId} {k : DeploymentId × DeviceId}
  {r r' : DeviceRecord}

/-- The statuses of a deployment depend on the records alone. -/
theorem statusOf_congr (h : p'.records = p.records) : p'.statusOf id = p.statusOf id := by
  funext device
  rw [statusOf, statusOf, h]

/-- A stored record gives its device its status, and the other devices keep theirs. -/
theorem statusOf_withRecord (p : Partition) (k : DeploymentId × DeviceId) (r : DeviceRecord)
    (id : DeploymentId) (device : DeviceId) :
    (p.withRecord k r).statusOf id device
      = if k = (id, device) then some r.status else p.statusOf id device := by
  rw [statusOf, get?_withRecord]
  split <;> rfl

/-- A record may change as long as its status stays. -/
theorem statusOf_exchange (hr : p.records.get? k = some r) (hstatus : r'.status = r.status) :
    (p.withRecord k r').statusOf id = p.statusOf id := by
  funext device
  rw [statusOf_withRecord]
  split
  · next hk =>
    subst hk
    rw [statusOf, hr, hstatus]
    rfl
  · rfl

/-- Records of other deployments do not matter. -/
theorem statusOf_withRecords {l : List DeviceRecord} (h : ∀ r ∈ l, r.deploymentId ≠ id) :
    (p.withRecords l).statusOf id = p.statusOf id := by
  induction l generalizing p with
  | nil => rfl
  | cons r rest ih =>
    have hfirst : (p.withRecord r.key r).statusOf id = p.statusOf id := by
      funext device
      rw [statusOf_withRecord, if_neg]
      intro hk
      exact h r List.mem_cons_self (Prod.mk.inj hk).1
    exact (ih fun s hs => h s (List.mem_cons_of_mem _ hs)).trans hfirst

/-- A stop changes the status of a device if it is meant for it and the device has work to do. -/
theorem statusOf_stopRecords (hkeyed : p.Keyed) {test : DeviceRecord → Bool} {meant : Bool}
    {s : DeviceStatus} {now : Instant} {device : DeviceId}
    (htest : ∀ r, r.deploymentId = id → r.deviceId = device → test r = meant) :
    (p.stopRecords test s now).statusOf id device = (p.statusOf id device).map fun status =>
      if meant && status.isActive then s else status := by
  rw [statusOf, get?_stopRecords, statusOf]
  cases hr : p.records.get? (id, device) with
  | none => rfl
  | some r =>
    obtain ⟨hid, hdevice⟩ := Prod.mk.inj (hkeyed.record hr)
    have hstatus := r.status_stopIf (test r) s now
    rw [htest r hid hdevice] at hstatus
    rw [Option.map_some, Option.map_some, Option.map_some, htest r hid hdevice]
    exact congrArg some hstatus

/-- Where all records are at rest, so are all statuses that are found. -/
theorem isTerminal_of_statusOf (hkeyed : p.Keyed)
    (h : ∀ r ∈ p.recordsOf id, r.status.isTerminal = true) {device : DeviceId}
    {status : DeviceStatus} (hs : p.statusOf id device = some status) :
    status.isTerminal = true := by
  obtain ⟨r, hr, rfl⟩ := Option.map_eq_some_iff.1 hs
  obtain ⟨-, hdevice⟩ := Prod.mk.inj (hkeyed.record hr)
  rw [← hdevice] at hr
  exact h r ((mem_recordsOf hkeyed).2 hr)

/-- The deployments that a device is in are listed once. -/
theorem nodup_affected (p : Partition) (device : DeviceId) : (p.affected device).Nodup :=
  Table.nodup_keys _

end Partition

/-! ### The events of one operation -/

namespace Scene

variable {scene : Scene} {p p' : Partition} {c : ModelCall} {events : List AuditEvent}
  {e : AuditEvent} {plan : Plan} {id : DeploymentId} {d d' : Deployment} {r : DeviceRecord}
  {status : DeviceStatus} {substate : Option String}

/-- All of some events of a scene are for a deployment if they name it. -/
theorem filter_isFor_eq_self (h : ∀ e ∈ events, e.tenant = scene.ctx.tenant ∧ e.deploymentId = id) :
    events.filter (·.isFor scene.ctx.partition id) = events := by
  refine List.filter_eq_self.2 fun e he => ?_
  obtain ⟨htenant, hid⟩ := h e he
  rw [AuditEvent.isFor, htenant, hid, Context.partition, decide_eq_true rfl, decide_eq_true rfl]
  rfl

/-- The events of a creation are for its own deployment. -/
theorem of_mem_openingEvents (he : e ∈ scene.openingEvents plan) :
    e.tenant = scene.ctx.tenant ∧ e.deploymentId = scene.newDeployment := by
  rcases List.mem_cons.1 he with rfl | he
  · exact ⟨rfl, rfl⟩
  · split at he
    · rw [List.mem_singleton.1 he]
      exact ⟨rfl, rfl⟩
    · cases he

/-- The events of a report are for the deployment of its record. -/
theorem of_mem_reportEvents (hid : d.id = r.deploymentId)
    (he : e ∈ scene.reportEvents p d r status substate) :
    e.tenant = scene.ctx.tenant ∧ e.deploymentId = r.deploymentId := by
  rcases List.mem_cons.1 he with rfl | he
  · exact ⟨rfl, rfl⟩
  · rw [finishEvents] at he
    split at he
    · rw [List.mem_singleton.1 he]
      exact ⟨rfl, hid⟩
    · cases he

/-- Taking a device out of service is told once for each deployment that it had work in, and not for
others. -/
theorem filter_lossEvents (scene : Scene) (device : DeviceId) {ids : List DeploymentId}
    (hids : ids.Nodup) (id : DeploymentId) :
    (ids.map (scene.lossEvent device)).filter (·.isFor scene.ctx.partition id)
      = if id ∈ ids then [scene.lossEvent device id] else [] := by
  have hfor : ∀ i ∈ ids, (scene.lossEvent device i).isFor scene.ctx.partition id = (i == id) := by
    intro i _
    rw [AuditEvent.isFor, show (scene.lossEvent device i).tenant = scene.ctx.tenant from rfl,
      Context.partition, decide_eq_true rfl, Bool.true_and]
    exact (beq_eq_decide i id).symm
  have hfilter : ids.filter ((·.isFor scene.ctx.partition id) ∘ scene.lossEvent device)
      = ids.filter (· == id) := List.filter_congr hfor
  rw [List.filter_map, hfilter, List.filter_beq]
  split
  · next hmem => rw [List.count_eq_one_of_mem hids hmem]; rfl
  · next hmem => rw [List.count_eq_zero_of_not_mem hmem]; rfl

/-- After a device moved on the statuses are those that the event for it leads to. -/
theorem statusOf_afterReport (scene : Scene) (p : Partition) (d : Deployment) (r : DeviceRecord)
    (status : DeviceStatus) (substate : Option String) :
    (p.afterReport d r status substate scene.now).statusOf r.deploymentId
      = (scene.moveEvent r.deploymentId r.deviceId r.status status).replay
        (p.statusOf r.deploymentId) := by
  funext device
  have hmoved : (p.afterReport d r status substate scene.now).statusOf r.deploymentId device = _ :=
    p.statusOf_withRecord r.key (r.movedTo status substate scene.now) r.deploymentId device
  rw [hmoved, AuditEvent.replay_of_changed rfl rfl, DeviceRecord.key]
  by_cases hdevice : r.deviceId = device
  · rw [if_pos (congrArg (Prod.mk _) hdevice), if_pos hdevice]
    rfl
  · rw [if_neg fun hk => hdevice (Prod.mk.inj hk).2, if_neg hdevice]

/-- A device that moves on is told of, and so is the end if it is the last one. -/
theorem tells_afterReport (h : p.Consistent) (hr : p.records.get? r.key = some r)
    (hd : p.deployments.get? r.deploymentId = some d) (active : r.status.isActive = true)
    (reportable : status.isReportable = true) (changed : r.status ≠ status)
    (hd' : (p.afterReport d r status substate scene.now).deployments.get? r.deploymentId
      = some d') :
    Tells (p.statusOf r.deploymentId) d.isFinished (scene.reportEvents p d r status substate)
      d'.isFinished ((p.afterReport d r status substate scene.now).statusOf r.deploymentId) := by
  have hid : d.id = r.deploymentId := h.keyed.deployment hd
  have hconsistent : (p.afterReport d r status substate scene.now).Consistent :=
    h.evolves (h.evolves_report hr hd substate active reportable changed)
  have hrest := (hconsistent.counts hd').allDevicesTerminal_iff
  have hheld : p.statusOf r.deploymentId r.deviceId = some r.status := by
    rw [Partition.statusOf, show (r.deploymentId, r.deviceId) = r.key from rfl, hr]
    rfl
  have hget := hd'
  rw [Partition.afterReport, Partition.get?_withDeployment, if_pos hid] at hget
  cases hget
  rw [Deployment.allDevicesTerminal_closeAt] at hrest
  rw [statusOf_afterReport, reportEvents, finishEvents, Deployment.isFinished_closeAt,
    Deployment.isFinished_withStats]
  -- A report ends the deployment if it is the last one due and the deployment is not over yet.
  cases hfinished : d.isFinished with
  | true => exact .moved rfl rfl rfl hheld active
  | false =>
    cases hlast : (d.withStats ((p.withRecord r.key
        (r.movedTo status substate scene.now)).tallyOf d.id)).allDevicesTerminal with
    | false => exact .moved rfl rfl rfl hheld active
    | true =>
      refine .closed rfl rfl rfl hheld active rfl fun device s hs => ?_
      rw [← statusOf_afterReport scene p d r status substate] at hs
      exact Partition.isTerminal_of_statusOf hconsistent.keyed (hrest.1 hlast) hs

/-- Other deployments hear nothing of a device that moves on. -/
theorem tells_afterReport_of_ne (hid : d.id = r.deploymentId) (hne : r.deploymentId ≠ id)
    {e e' : Deployment} (he : p.deployments.get? id = some e)
    (he' : (p.afterReport d r status substate scene.now).deployments.get? id = some e') :
    Tells (p.statusOf id) e.isFinished
      ((scene.reportEvents p d r status substate).filter (·.isFor scene.ctx.partition id))
      e'.isFinished ((p.afterReport d r status substate scene.now).statusOf id) := by
  have hevents : (scene.reportEvents p d r status substate).filter
      (·.isFor scene.ctx.partition id) = [] :=
    AuditEvent.filter_isFor_eq_nil fun e he => by
      rw [(of_mem_reportEvents hid he).2]
      exact hne
  have hstatus : (p.afterReport d r status substate scene.now).statusOf id = p.statusOf id := by
    funext device
    have hmoved : (p.afterReport d r status substate scene.now).statusOf id device = _ :=
      p.statusOf_withRecord r.key (r.movedTo status substate scene.now) id device
    rw [hmoved, DeviceRecord.key, if_neg fun hk => hne (Prod.mk.inj hk).1]
  rw [Partition.afterReport, Partition.get?_withDeployment, if_neg (by rw [hid]; exact hne)] at he'
  rw [hevents, hstatus, Option.some.inj (he.symm.trans he')]
  exact .nothing

/-- The events of a report tell, for every deployment, what has become of its statuses. Only the
deployment of the record has any. -/
theorem tells_report (h : p.Consistent) (hr : p.records.get? r.key = some r)
    (hd : p.deployments.get? r.deploymentId = some d) (active : r.status.isActive = true)
    (reportable : status.isReportable = true) (changed : r.status ≠ status)
    {e e' : Deployment} (he : p.deployments.get? id = some e)
    (he' : (p.afterReport d r status substate scene.now).deployments.get? id = some e') :
    Tells (p.statusOf id) e.isFinished
      ((scene.reportEvents p d r status substate).filter (·.isFor scene.ctx.partition id))
      e'.isFinished ((p.afterReport d r status substate scene.now).statusOf id) := by
  have hid : d.id = r.deploymentId := h.keyed.deployment hd
  by_cases hrid : r.deploymentId = id
  · subst hrid
    rw [filter_isFor_eq_self fun e he => of_mem_reportEvents hid he]
    cases hd.symm.trans he
    exact tells_afterReport h hr hd active reportable changed he'
  · exact tells_afterReport_of_ne hid hrid he he'

/-- What an abort does to the statuses of any deployment. -/
theorem statusOf_afterAbort (h : p.Consistent) (scene : Scene) (id' : DeploymentId)
    (device : DeviceId) : (p.afterAbort id' scene.now).statusOf id device
      = (p.statusOf id device).map fun status =>
        if decide (id = id') && status.isActive then .aborted else status := by
  rw [Partition.afterAbort, Partition.statusOf_congr (Partition.records_recounted _ _ _)]
  exact Partition.statusOf_stopRecords h.keyed fun r hid _ => by rw [hid]

/-- The event of an abort tells, for every deployment, what has become of its statuses. -/
theorem tells_abort (h : p.Consistent) {id' : DeploymentId} {d₀ : Deployment}
    (hd₀ : p.deployments.get? id' = some d₀) (unfinished : d₀.isFinished = false)
    (hd : p.deployments.get? id = some d)
    (hd' : (p.afterAbort id' scene.now).deployments.get? id = some d') :
    Tells (p.statusOf id) d.isFinished
      ([AuditEvent.of scene.ctx scene.now .deploymentAborted id'].filter
        (·.isFor scene.ctx.partition id))
      d'.isFinished ((p.afterAbort id' scene.now).statusOf id) := by
  rw [Partition.afterAbort, Partition.get?_recounted, Partition.deployments_stopRecords, hd] at hd'
  -- The event is about one deployment; a reader of another one does not see it.
  by_cases hid : id' = id
  · subst hid
    cases hd₀.symm.trans hd
    rw [if_pos rfl] at hd'
    cases hd'
    have hreplay : (p.afterAbort id' scene.now).statusOf id'
        = (AuditEvent.of scene.ctx scene.now .deploymentAborted id').replay (p.statusOf id') := by
      funext device
      rw [statusOf_afterAbort h, AuditEvent.replay_of_aborted rfl, decide_eq_true rfl]
      rfl
    rw [filter_isFor_eq_self fun e he => by rw [List.mem_singleton.1 he]; exact ⟨rfl, rfl⟩,
      unfinished, hreplay]
    exact .aborted rfl
  · rw [if_neg hid] at hd'
    cases hd'
    have hsame : (p.afterAbort id' scene.now).statusOf id = p.statusOf id := by
      funext device
      rw [statusOf_afterAbort h, decide_eq_false fun he => hid he.symm]
      exact Option.map_id' ..
    rw [AuditEvent.filter_isFor_eq_nil fun e he => by rw [List.mem_singleton.1 he]; exact hid,
      hsame]
    exact .nothing

/-- What it does to the statuses of any deployment that a device is taken out of service. -/
theorem statusOf_afterDecommission (h : p.Consistent) (scene : Scene) (device device' : DeviceId) :
    (p.afterDecommission device scene.now).statusOf id device'
      = (p.statusOf id device').map fun status =>
        if decide (device' = device) && status.isActive then .decommissioned else status := by
  rw [Partition.afterDecommission, Partition.statusOf_congr (Partition.foldl_recounted _ _ _).1]
  exact Partition.statusOf_stopRecords h.keyed fun r _ hdevice => by rw [hdevice]

/-- In a deployment that loses the device the event for that leads to the statuses. -/
theorem statusOf_afterDecommission_of_held (h : p.Consistent) (scene : Scene) {device : DeviceId}
    (hheld : p.statusOf id device = some status) (active : status.isActive = true) :
    (p.afterDecommission device scene.now).statusOf id
      = (scene.lossEvent device id).replay (p.statusOf id) := by
  funext device'
  rw [statusOf_afterDecommission h, AuditEvent.replay_of_decommissioned rfl rfl]
  by_cases hdevice : device = device'
  · subst hdevice
    rw [if_pos rfl, hheld, decide_eq_true rfl, Option.map_some, active]
    rfl
  · rw [if_neg hdevice, decide_eq_false fun he => hdevice he.symm]
    exact Option.map_id' ..

/-- In a deployment where the device has no work to do nothing changes. -/
theorem statusOf_afterDecommission_of_notMem (h : p.Consistent) (scene : Scene) {device : DeviceId}
    (hid : id ∉ p.affected device) :
    (p.afterDecommission device scene.now).statusOf id = p.statusOf id := by
  funext device'
  rw [statusOf_afterDecommission h]
  cases hs : p.statusOf id device' with
  | none => rfl
  | some status =>
    rw [Option.map_some, if_neg]
    rw [Bool.and_eq_true, decide_eq_true_eq]
    rintro ⟨rfl, active⟩
    -- Otherwise the deployment would be among those that are looked after.
    obtain ⟨r, hr, rfl⟩ := Option.map_eq_some_iff.1 hs
    obtain ⟨-, hown⟩ := Prod.mk.inj (h.keyed.record hr)
    rw [← hown] at hr
    exact hid (Partition.mem_affected.2 ⟨r, (Partition.mem_recordsOf h.keyed).2 hr, hown, active⟩)

/-- The events of a device that is taken out of service tell, for every deployment, what has become
of its statuses. -/
theorem tells_decommission (h : p.Consistent) (device : DeviceId)
    (hd : p.deployments.get? id = some d)
    (hd' : (p.afterDecommission device scene.now).deployments.get? id = some d') :
    Tells (p.statusOf id) d.isFinished
      (((p.affected device).map (scene.lossEvent device)).filter (·.isFor scene.ctx.partition id))
      d'.isFinished ((p.afterDecommission device scene.now).statusOf id) := by
  rw [Partition.get?_afterDecommission, hd] at hd'
  rw [filter_lossEvents scene device (p.nodup_affected device)]
  by_cases hid : id ∈ p.affected device
  · rw [if_pos hid] at hd' ⊢
    cases hd'
    obtain ⟨r, hr, hown, active⟩ := Partition.mem_affected.1 hid
    have hheld : p.statusOf id device = some r.status := by
      rw [Partition.statusOf, ← hown, (Partition.mem_recordsOf h.keyed).1 hr]
      rfl
    rw [statusOf_afterDecommission_of_held h scene hheld active]
    exact .lost rfl rfl hheld active
  · rw [if_neg hid] at hd' ⊢
    cases hd'
    rw [statusOf_afterDecommission_of_notMem h scene hid]
    exact .nothing

namespace Change

/-- What a change means for a stored deployment is told by its events. -/
theorem tells (h : p.Consistent) (change : scene.Change p c p' events)
    (hd : p.deployments.get? id = some d) (hd' : p'.deployments.get? id = some d') :
    Tells (p.statusOf id) d.isFinished (events.filter (·.isFor scene.ctx.partition id))
      d'.isFinished (p'.statusOf id) := by
  have hquiet (hdeployments : p'.deployments = p.deployments)
      (hstatus : p'.statusOf id = p.statusOf id) (hevents : events = []) :
      Tells (p.statusOf id) d.isFinished (events.filter (·.isFor scene.ctx.partition id))
        d'.isFinished (p'.statusOf id) := by
    rw [hdeployments, hd] at hd'
    rw [hstatus, hevents, Option.some.inj hd']
    exact .nothing
  cases change with
  | rest => exact hquiet rfl rfl rfl
  | @opened plan valid fresh inhabited bounded =>
    -- A deployment that is opened is another one, for its name was free.
    have hne : scene.newDeployment ≠ id := by
      rintro rfl
      rw [fresh] at hd
      cases hd
    have hstatus : (p.withOpened (scene.opened plan) (scene.records plan)).statusOf id
        = p.statusOf id := by
      rw [Partition.withOpened, Partition.statusOf_withRecords]
      · rfl
      · intro r hr
        rw [deploymentId_of_mem_records hr]
        exact hne
    rw [Partition.get?_withOpened, id_opened, if_neg hne, hd] at hd'
    rw [AuditEvent.filter_isFor_eq_nil fun e he => by rw [(of_mem_openingEvents he).2]; exact hne,
      hstatus, Option.some.inj hd']
    exact .nothing
  | moved hr hd₀ active reportable changed =>
    exact tells_report h hr hd₀ active reportable changed hd hd'
  | rested hr hd₀ active reason =>
    obtain ⟨reportable, changed⟩ := ModelM.reason_change active reason
    exact tells_report h hr hd₀ active reportable changed hd hd'
  | assigned hr hd₀ active found => exact hquiet rfl (Partition.statusOf_exchange hr rfl) rfl
  | aborted hd₀ unfinished => exact tells_abort h hd₀ unfinished hd hd'
  | decommissioned device => exact tells_decommission h device hd hd'
  | logged valid hr => exact hquiet rfl (Partition.statusOf_exchange hr rfl) rfl

/-- An event of a scene names its tenant and a deployment that is stored. -/
theorem of_mem (h : p.Consistent) (change : scene.Change p c p' events) (he : e ∈ events) :
    e.tenant = scene.ctx.tenant ∧ ∃ d, p'.deployments.get? e.deploymentId = some d := by
  have hkept {i : DeploymentId} {d : Deployment} (hd : p.deployments.get? i = some d) :=
    (change.evolves h).kept hd
  -- Every event names a deployment that the change wrote to or found.
  cases change with
  | @opened plan valid fresh inhabited bounded =>
    obtain ⟨htenant, hid⟩ := of_mem_openingEvents he
    refine ⟨htenant, scene.opened plan, ?_⟩
    rw [hid, Partition.get?_withOpened, id_opened, if_pos rfl]
  | moved hr hd active reportable changed =>
    obtain ⟨htenant, hid⟩ := of_mem_reportEvents (h.keyed.deployment hd) he
    rw [hid]
    exact ⟨htenant, hkept hd⟩
  | rested hr hd active reason =>
    obtain ⟨htenant, hid⟩ := of_mem_reportEvents (h.keyed.deployment hd) he
    rw [hid]
    exact ⟨htenant, hkept hd⟩
  | aborted hd unfinished =>
    rw [List.mem_singleton.1 he]
    exact ⟨rfl, hkept hd⟩
  | decommissioned device =>
    obtain ⟨i, hi, rfl⟩ := List.mem_map.1 he
    obtain ⟨r, hr, -⟩ := Partition.mem_affected.1 hi
    obtain ⟨d, hd⟩ := h.owned ((Partition.mem_recordsOf h.keyed).1 hr)
    exact ⟨rfl, hkept hd⟩
  | _ => cases he

end Change

/-- The events for a new deployment recount it. -/
theorem recounts_opened (h : p.Consistent)
    (fresh : p.deployments.get? scene.newDeployment = none) (inhabited : scene.targets plan ≠ [])
    (bounded : (scene.targets plan).length < 2 ^ 64) (valid : plan.validate = .ok ()) :
    Recounts ((p.withOpened (scene.opened plan) (scene.records plan)).statusOf scene.newDeployment)
      (scene.openingEvents plan) (scene.opened plan).isFinished
      ((p.withOpened (scene.opened plan) (scene.records plan)).statusOf
        scene.newDeployment) := by
  have hchange := Change.opened valid fresh inhabited bounded
  have hev := hchange.evolves h
  have hd : (p.withOpened (scene.opened plan) (scene.records plan)).deployments.get?
      scene.newDeployment = some (scene.opened plan) := by
    rw [Partition.get?_withOpened, id_opened, if_pos rfl]
  rw [openingEvents]
  cases hfinished : (scene.opened plan).isFinished with
  | false => exact .created rfl
  | true =>
    refine (Recounts.created rfl).ended rfl ?_ fun device status hs => ?_
    · rintro ⟨f, hf, hclosed⟩
      rw [List.mem_singleton.1 hf] at hclosed
      cases hclosed
    · rcases hev.deployment hd with ⟨d, hd', -⟩ | ⟨-, hopened⟩
      · rw [fresh] at hd'
        cases hd'
      · exact Partition.isTerminal_of_statusOf hev.keyed (hopened.isFinished_iff.1 hfinished) hs

end Scene

/-! ### The trail of a run -/

namespace World

variable {ω : Type} {w : World MemoryStore ω} {scene : Scene} {plan : Plan} {t : TenantId}
  {id : DeploymentId} {start : DeviceId → Option DeviceStatus}

/-- Every event of the trail is for a stored deployment. -/
def Grounded (w : World MemoryStore ω) : Prop :=
  ∀ e ∈ w.trail, ∃ d, (w.part (e.tenant.getD "")).deployments.get? e.deploymentId = some d

/-- The trail recounts a stored deployment, from some statuses on. -/
def Recounted (w : World MemoryStore ω) (t : TenantId) (id : DeploymentId)
    (start : DeviceId → Option DeviceStatus) : Prop :=
  ∃ d, (w.part t).deployments.get? id = some d ∧
    Recounts start (w.trail.filter (·.isFor t id)) d.isFinished ((w.part t).statusOf id)

/-- There are no events for a deployment that is not stored. -/
theorem Grounded.filter_eq_nil (h : w.Grounded) (hd : (w.part t).deployments.get? id = none) :
    w.trail.filter (·.isFor t id) = [] := by
  refine List.filter_eq_nil_iff.2 fun e he hfor => ?_
  rw [AuditEvent.isFor, Bool.and_eq_true, decide_eq_true_eq, decide_eq_true_eq] at hfor
  obtain ⟨d, hd'⟩ := h e he
  rw [hfor.1, hfor.2, hd] at hd'
  cases hd'

variable [LinkIssuer ω]

/-- An operation tells of stored deployments only. -/
theorem Grounded.perform (h : w.Grounded) (hsteady : w.Steady) {step : Step}
    (hbounded : step.2.Bounded step.1) : (w.perform step.1 step.2).2.Grounded := by
  have heffect := perform_effect hsteady.spares (hsteady.consistent _) step.2 hbounded
  obtain ⟨events, hchange, htrail⟩ := heffect.change
  intro e he
  rw [htrail] at he
  rcases List.mem_append.1 he with he | he
  · -- An old event: its deployment is still there.
    obtain ⟨d, hd⟩ := h e he
    by_cases ht : e.tenant.getD "" = step.1.ctx.partition
    · rw [ht] at hd ⊢
      exact (hchange.evolves (hsteady.consistent _)).kept hd
    · rw [heffect.others _ ht]
      exact ⟨d, hd⟩
  · obtain ⟨htenant, hd⟩ := hchange.of_mem (hsteady.consistent _) he
    rw [htenant]
    exact hd

/-- A run tells of stored deployments only, by induction on its steps. -/
theorem Grounded.run (h : w.Grounded) (hsteady : w.Steady) (steps : List Step)
    (hbounded : ∀ step ∈ steps, step.2.Bounded step.1) : (w.run steps).Grounded := by
  induction steps generalizing w with
  | nil => exact h
  | cons step rest ih =>
    have hstep := hbounded step List.mem_cons_self
    exact ih (h.perform hsteady hstep) (hsteady.perform hstep) fun s hs =>
      hbounded s (List.mem_cons_of_mem _ hs)

/-- A trail that recounts a deployment goes on recounting it. -/
theorem Recounted.perform (h : w.Recounted t id start) (hsteady : w.Steady) {step : Step}
    (hbounded : step.2.Bounded step.1) : (w.perform step.1 step.2).2.Recounted t id start := by
  have heffect := perform_effect hsteady.spares (hsteady.consistent _) step.2 hbounded
  obtain ⟨events, hchange, htrail⟩ := heffect.change
  obtain ⟨d, hd, hrecounts⟩ := h
  rw [Recounted, htrail, List.filter_append]
  by_cases ht : t = step.1.ctx.partition
  · subst ht
    obtain ⟨d', hd'⟩ := (hchange.evolves (hsteady.consistent _)).kept hd
    exact ⟨d', hd', hrecounts.tells (hchange.tells (hsteady.consistent _) hd hd')⟩
  · -- The operation is one of another tenant, and its events name that tenant.
    have hnone : events.filter (·.isFor t id) = [] := by
      refine List.filter_eq_nil_iff.2 fun e he hfor => ht ?_
      rw [AuditEvent.isFor, Bool.and_eq_true, decide_eq_true_eq,
        (hchange.of_mem (hsteady.consistent _) he).1] at hfor
      exact hfor.1.symm
    rw [heffect.others t ht, hnone, List.append_nil]
    exact ⟨d, hd, hrecounts⟩

/-- A trail that recounts a deployment goes on doing so over a run, by induction on its steps. -/
theorem Recounted.run (h : w.Recounted t id start) (hsteady : w.Steady) (steps : List Step)
    (hbounded : ∀ step ∈ steps, step.2.Bounded step.1) : (w.run steps).Recounted t id start := by
  induction steps generalizing w with
  | nil => exact h
  | cons step rest ih =>
    have hstep := hbounded step List.mem_cons_self
    exact ih (h.perform hsteady hstep) (hsteady.perform hstep) fun s hs =>
      hbounded s (List.mem_cons_of_mem _ hs)

/-- A new deployment is recounted from the statuses that it starts with. -/
theorem recounted_create (hsteady : w.Steady) (hgrounded : w.Grounded)
    (hbounded : (ModelCall.create plan).Bounded scene)
    (hcreated : (w.perform scene (.create plan)).1 = .ok id) :
    (w.perform scene (.create plan)).2.Recounted scene.ctx.partition id
      (((w.perform scene (.create plan)).2.part scene.ctx.partition).statusOf id) := by
  have houtcome := ModelM.create_outcome hsteady.spares rfl (hsteady.consistent _) plan hbounded
  have hrun : w.perform scene (.create plan)
      = (ModelM.create plan : ModelM MemoryStore ω _) scene w := rfl
  rw [hrun] at hcreated ⊢
  cases hx : (ModelM.create plan : ModelM MemoryStore ω _) scene w with
  | mk x w' =>
    rw [hx] at hcreated houtcome
    cases houtcome with
    | refused hspares he => cases hcreated
    | taken hspares hd => cases hcreated
    | opened hspares valid fresh inhabited =>
      cases hcreated
      refine ⟨scene.opened plan, ?_, ?_⟩
      · rw [part_turn, Partition.get?_withOpened, Scene.id_opened, if_pos rfl]
      -- The name was free, so nothing was told of it before.
      · have hbefore : w.trail.filter (·.isFor scene.ctx.partition scene.newDeployment) = [] :=
          hgrounded.filter_eq_nil fresh
        have hnew : (scene.openingEvents plan).filter
            (·.isFor scene.ctx.partition scene.newDeployment) = scene.openingEvents plan :=
          Scene.filter_isFor_eq_self fun e he => Scene.of_mem_openingEvents he
        rw [part_turn, turn]
        dsimp only [withFaults]
        rw [List.filter_append, hbefore, hnew, List.nil_append]
        exact Scene.recounts_opened (hsteady.consistent _) fresh inhabited hbounded valid

/-- The trail of a deployment replays to what is stored. Take the events for a deployment from its
creation on, in a run from an empty store, and the statuses of its devices when it was created.
The events lead from those to the statuses that are stored now. Every change of a status starts
from the status that the events before it lead to. The creation comes first, and once. At most
one event is the end of the deployment, and nothing comes after it. The deployment is finished
exactly if there is an event that finishes it. -/
theorem trail_replays (hstore : w.store = {}) (hfaults : w.faults.SparesStore)
    (htrail : w.trail = []) (before after : List Step) (scene : Scene) (plan : Plan)
    (id : DeploymentId)
    (hbounded : ∀ step ∈ before ++ (scene, .create plan) :: after, step.2.Bounded step.1)
    (hcreated : ((w.run before).perform scene (.create plan)).1 = .ok id) :
    let t := scene.ctx.partition
    let start := (((w.run before).perform scene (.create plan)).2.part t).statusOf id
    let now := w.run (before ++ (scene, .create plan) :: after)
    let events := now.trail.filter (·.isFor t id)
    replayAll start events = (now.part t).statusOf id ∧
    (∀ past e, past ++ [e] <+: events → e.kind = .deviceStatusChanged →
      ∃ device status, e.deviceId = some device ∧ e.oldStatus = some status ∧
        replayAll start past device = some status) ∧
    (∃ e rest, events = e :: rest ∧ e.kind = .deploymentCreated ∧
      ∀ f ∈ rest, f.kind ≠ .deploymentCreated) ∧
    events.countP (·.kind.closes) ≤ 1 ∧
    (∀ past e, past ++ [e] <+: events → e.kind.closes = true → past ++ [e] = events) ∧
    ∃ d, (now.part t).deployments.get? id = some d ∧
      (d.isFinished = true ↔ ∃ e ∈ events, e.kind.finishes = true) := by
  have hbounded₁ : ∀ step ∈ before, step.2.Bounded step.1 := fun step hstep =>
    hbounded step (List.mem_append_left _ hstep)
  have hbounded₂ : (ModelCall.create plan).Bounded scene :=
    hbounded (scene, .create plan) (List.mem_append_right _ List.mem_cons_self)
  have hbounded₃ : ∀ step ∈ after, step.2.Bounded step.1 := fun step hstep =>
    hbounded step (List.mem_append_right _ (List.mem_cons_of_mem _ hstep))
  have hempty : w.Steady := .of_empty hstore hfaults
  -- The world starts with no trail, so no event tells of a deployment that is not there.
  have hgrounded : w.Grounded := by
    intro e he
    rw [htrail] at he
    cases he
  have hsteady := hempty.run before hbounded₁
  have hsteady' := @Steady.perform _ _ (scene, .create plan) _ hsteady hbounded₂
  -- The events before the creation are of other deployments; from then on each step adds its own.
  have hrecounted := (recounted_create hsteady (hgrounded.run hempty before hbounded₁) hbounded₂
    hcreated).run hsteady' after hbounded₃
  have hrun : ((w.run before).perform scene (.create plan)).2.run after
      = w.run (before ++ (scene, .create plan) :: after) := by
    rw [run, run, run, List.foldl_append]
    rfl
  rw [hrun] at hrecounted
  obtain ⟨d, hd, hrecounts⟩ := hrecounted
  exact ⟨hrecounts.replayed, hrecounts.old, hrecounts.opening, hrecounts.countP_closes,
    hrecounts.last, d, hd, hrecounts.finishes⟩

/-- The trail of the sample run, from the creation to the loss of a device, replayed for both
devices. -/
theorem trail_replays_sample :
    let start := ((sampleWorld.run (sampleSteps.take 1)).part "").statusOf "update"
    let now := sampleWorld.run sampleSteps
    let events := now.trail.filter (·.isFor "" "update")
    events.map (·.kind) = [.deploymentCreated, .deviceStatusChanged, .deviceDecommissioned] ∧
    start "left" = some .pending ∧ replayAll start events "left" = some .success ∧
    start "right" = some .pending ∧ replayAll start events "right" = some .decommissioned := by
  obtain ⟨hreplay, -⟩ := trail_replays (w := sampleWorld) rfl FaultPlan.sparesStore_nil rfl []
    (sampleSteps.drop 1) sampleScene
    { name := "all", artifactName := "app", devices := ["left", "right"] } "update"
    admissible_sampleSteps.forall_bounded rfl
  exact ⟨by decide, rfl, congrFun hreplay "left", rfl, congrFun hreplay "right"⟩

end World

end Fleet
