import Fleet.Proofs.Model.Lifecycle
import Fleet.Proofs.Model.Verdict
import Fleet.Proofs.Store.Reached

/-!
# `Fleet.Proofs.Model.Device`: reports, polls and logs, run to the end

`ReportOutcome`, `PollOutcome` and `LogOutcome` list all that the three operations can come to
over a consistent part of a data store of tables, with what the device was told, what the part
became and why. A report that moves a record never fails half way: the record and its counter
are there, and the counters can follow (`moveRecord_run`).

A poll needs less than that: `PollCourse` lists what it can come to wherever deployments and
records stand under their own names, and `PollOutcome` what is left of that over a consistent part.
It looks up an artifact at most twice, first among those that the deployment froze at its
creation and then by name. `Scene.resolve` is what these look-ups come to.
-/

set_option autoImplicit false

namespace Fleet

open Fleet.Time

namespace Scene

variable (scene : Scene)

/-- The event for a device that moves on. -/
def moveEvent (id : DeploymentId) (device : DeviceId) (old new : DeviceStatus) : AuditEvent :=
  { AuditEvent.of scene.ctx scene.now .deviceStatusChanged id with
    deviceId := some device, oldStatus := some old, newStatus := some new }

/-- The event for a deployment that is about to be finished, if it is. -/
def finishEvents (d : Deployment) : List AuditEvent :=
  if !d.isFinished && d.allDevicesTerminal then
    [AuditEvent.of scene.ctx scene.now .deploymentFinished d.id]
  else []

/-- The artifact for a type of device: one that the deployment had at its creation, otherwise
one of its artifact name. -/
def resolve (d : Deployment) (deviceType : String) : Option Artifact :=
  (scene.catalog.findByIds d.artifacts deviceType).or
    (scene.catalog.findByName d.artifactName deviceType)

/-- The link to an artifact, and the object storage after it was asked for one. -/
def link {ω : Type} [LinkIssuer ω] (a : Artifact) (o : ω) : Except ObjectError Link × ω :=
  LinkIssuer.download scene.now scene.ctx a.id (a.name ++ scene.filenameSuffix.getD "")
    scene.linkLifetime o

end Scene

/-- The type of a device: what it says, otherwise what its record says. -/
def Installed.typeFor (installed : Installed) (r : DeviceRecord) : Option String :=
  if installed.deviceType.isEmpty then r.deviceType else some installed.deviceType

/-- Whether a device says that it runs the artifact of a deployment. -/
def Installed.runs (installed : Installed) (d : Deployment) : Bool :=
  !installed.artifactName.isEmpty && installed.artifactName == d.artifactName

/-- The oldest active record of a device is one of its records, and active. -/
theorem Partition.of_oldest {p : Partition} (h : p.Keyed) {device : DeviceId} {r : DeviceRecord}
    (hr : oldest (p.activeOf device) = some r) :
    p.records.get? r.key = some r ∧ r.deviceId = device ∧ r.status.isActive = true := by
  have hfirst := firstActive_of_oldest h hr
  refine ⟨?_, hfirst.own, hfirst.active⟩
  rw [DeviceRecord.key, hfirst.own]
  exact hfirst.stored

/-- The counters of a deployment can follow a record that has moved on, because they counted it
before. -/
theorem Partition.Consistent.transition_moved {p : Partition} (h : p.Consistent)
    {id : DeploymentId} {device : DeviceId} {r : DeviceRecord} {d : Deployment}
    (hr : p.records.get? (id, device) = some r) (hd : p.deployments.get? id = some d)
    (status : DeviceStatus) (substate : Option String) (now : Instant) :
    d.stats.transition r.status status
      = .ok ((p.withRecord (id, device) (r.movedTo status substate now)).tallyOf id) := by
  have hrid : r.deploymentId = id := (Prod.mk.inj (h.keyed.record hr)).1
  obtain ⟨others, before, after⟩ := Partition.recordsOf_withRecord hr
    (show (r.movedTo status substate now).deploymentId = r.deploymentId from rfl)
  rw [hrid] at before after
  have htally : (p.withRecord (id, device) (r.movedTo status substate now)).tallyOf id
      = .tally (status :: statuses others) :=
    Stats.tally_congr (statuses_perm after)
  rw [htally]
  exact (h.counts hd).transition before status

namespace ModelM

variable {ω : Type} {scene : Scene} {w : World MemoryStore ω} {p : Partition}
  {id : DeploymentId} {device : DeviceId} {d : Deployment} {r : DeviceRecord}

/-! ### Reports -/

/-- The end of a report closes the deployment if all devices are at rest, and tells of it if it was
open. -/
theorem finishIfDone_run {calls : List StoreCall} {events : List AuditEvent}
    (hfaults : w.faults.SparesStore) (hd : p.deployments.get? id = some d) (hid : d.id = id) :
    ∃ calls', (finishIfDone id : ModelM MemoryStore ω _) scene
        (w.turn scene.ctx.partition p calls events)
      = (.ok (), w.turn scene.ctx.partition (p.withDeployment id (d.closeAt scene.now)) calls'
          (events ++ scene.finishEvents d)) := by
  have hget : (getDeployment id : ModelM MemoryStore ω _) scene
      (w.turn scene.ctx.partition p calls events)
        = (.ok (some d), w.turn scene.ctx.partition p calls events) := by
    rw [← hd]
    exact getDeployment_run (w := w.turn scene.ctx.partition p calls events) hfaults
      (World.part_turn ..) id
  rw [finishIfDone, bind_ok hget, Scene.finishEvents, Deployment.closeAt]
  dsimp only
  cases hdone : !d.isFinished && d.allDevicesTerminal with
  | false =>
    refine ⟨calls, ?_⟩
    -- The deployment goes on. To write it where it stands is to leave it.
    rw [if_neg Bool.false_ne_true, if_neg Bool.false_ne_true, if_neg Bool.false_ne_true,
      List.append_nil, Partition.withDeployment_self hd]
    rfl
  | true =>
    refine ⟨calls ++ [.finishDeployment id scene.now], ?_⟩
    rw [if_pos rfl, if_pos rfl, if_pos rfl, hid, bind_ok read_run,
      bind_ok (askStore_ok _ hfaults (Partition.run_finishDeployment _ hd)), emit_run]

/-- A record moves on with its deployment if the counters can follow, whatever they count. -/
theorem moveRecord_counted (hfaults : w.faults.SparesStore)
    (hp : w.part scene.ctx.partition = p) (hr : p.records.get? (id, device) = some r)
    (hd : p.deployments.get? id = some d) (hid : d.id = id) (s : StatusReport) {st : Stats}
    (hst : d.stats.transition r.status s.status = .ok st) :
    ∃ calls, (moveRecord id device s : ModelM MemoryStore ω _) scene w
      = (.ok (), w.turn scene.ctx.partition
          ((p.withRecord (id, device) (r.movedTo s.status s.substate scene.now)).withDeployment id
            ((d.withStats st).closeAt scene.now)) calls
          (scene.moveEvent id device r.status s.status
            :: scene.finishEvents (d.withStats st))) := by
  let p₁ := p.withRecord (id, device) (r.movedTo s.status s.substate scene.now)
  have hupdate : p.run (.updateStatus id device s.status s.substate
      (if s.status.isTerminal then some scene.now else none)) = .ok (r.status, p₁) :=
    Partition.run_updateStatus _ _ _ hr
  have hmove : p₁.run (.moveDevice id r.status s.status)
      = .ok ((), p₁.withDeployment id (d.withStats st)) :=
    Partition.run_moveDevice (p := p₁) hd hst
  have hmoved : (p₁.withDeployment id (d.withStats st)).deployments.get? id
      = some (d.withStats st) := by
    rw [Partition.get?_withDeployment, if_pos rfl]
  -- The two writes to the deployment come to one, with the counters and perhaps a finish time.
  obtain ⟨calls, hfinish⟩ : ∃ calls, (finishIfDone id : ModelM MemoryStore ω Unit) scene
      (w.turn scene.ctx.partition (p₁.withDeployment id (d.withStats st))
        [.updateStatus id device s.status s.substate
          (if s.status.isTerminal then some scene.now else none),
          .moveDevice id r.status s.status]
        [scene.moveEvent id device r.status s.status]) = _ :=
    finishIfDone_run hfaults hmoved hid
  rw [Partition.withDeployment_withDeployment] at hfinish
  refine ⟨calls, of_turn hp ?_⟩
  rw [moveRecord, bind_ok read_run, bind_ok (askStore_ok _ hfaults hupdate),
    bind_ok (askStore_ok _ hfaults hmove), bind_ok (emit_run _ _ _)]
  exact hfinish

/-- If the counters cannot follow, that is an error. -/
theorem moveRecord_uncounted (hfaults : w.faults.SparesStore)
    (hp : w.part scene.ctx.partition = p) (hr : p.records.get? (id, device) = some r)
    (hd : p.deployments.get? id = some d) (s : StatusReport) {e : StatsError}
    (hst : d.stats.transition r.status s.status = .error e) :
    ∃ calls, (moveRecord id device s : ModelM MemoryStore ω _) scene w
      = (.error (.store "updating deployment stats" (.ofStats e)), w.turn scene.ctx.partition
          (p.withRecord (id, device) (r.movedTo s.status s.substate scene.now)) calls []) := by
  let p₁ := p.withRecord (id, device) (r.movedTo s.status s.substate scene.now)
  have hupdate : p.run (.updateStatus id device s.status s.substate
      (if s.status.isTerminal then some scene.now else none)) = .ok (r.status, p₁) :=
    Partition.run_updateStatus _ _ _ hr
  have hmove : p₁.run (.moveDevice id r.status s.status) = .error (.ofStats e) :=
    Partition.run_moveDevice_error (p := p₁) hd hst
  refine ⟨[.updateStatus id device s.status s.substate
    (if s.status.isTerminal then some scene.now else none), .moveDevice id r.status s.status],
    of_turn hp ?_⟩
  rw [moveRecord, bind_ok read_run, bind_ok (askStore_ok _ hfaults hupdate),
    bind_error (askStore_error _ hfaults hmove)]
  rfl

/-- A device that is found active moves on, and its counter with it. -/
theorem moveRecord_run (hfaults : w.faults.SparesStore) (hp : w.part scene.ctx.partition = p)
    (hconsistent : p.Consistent) (hr : p.records.get? (id, device) = some r)
    (hd : p.deployments.get? id = some d) (s : StatusReport) :
    ∃ calls, (moveRecord id device s : ModelM MemoryStore ω _) scene w
      = (.ok (), w.turn scene.ctx.partition
          (p.afterReport d r s.status s.substate scene.now) calls
          (scene.moveEvent id device r.status s.status :: scene.finishEvents
            (d.withStats ((p.withRecord r.key
              (r.movedTo s.status s.substate scene.now)).tallyOf d.id)))) := by
  have hid : d.id = id := hconsistent.keyed.deployment hd
  have hkey : r.key = (id, device) := hconsistent.keyed.record hr
  rw [Partition.afterReport, hkey, hid]
  exact moveRecord_counted hfaults hp hr hd hid s
    (hconsistent.transition_moved hr hd s.status s.substate scene.now)

/-- What is left to do with a report on the record that was found. -/
inductive Judged (id : DeploymentId) (device : DeviceId) (s : StatusReport)
    (found : Option DeviceRecord) : ModelM MemoryStore ω Unit → Prop where
  /-- It is refused. -/
  | refused {e : ModelError} (he : e.isBookkeeping = false) : Judged id device s found (throw e)
  /-- The record has the status already. -/
  | unchanged {r : DeviceRecord} (hr : found = some r) (same : r.status = s.status) :
      Judged id device s found (pure ())
  /-- The device moves on. -/
  | moved {r : DeviceRecord} (hr : found = some r) (active : r.status.isActive = true)
      (reportable : s.status.isReportable = true) (changed : r.status ≠ s.status) :
      Judged id device s found (moveRecord id device s)

/-- A report is judged by the record that is found. -/
theorem report_judged (id : DeploymentId) (device : DeviceId) (s : StatusReport)
    (found : Option DeviceRecord) :
    ∃ m : ModelM MemoryStore ω Unit, Judged id device s found m ∧
      ∀ (scene : Scene) (w : World MemoryStore ω), w.faults.SparesStore →
        (w.part scene.ctx.partition).records.get? (id, device) = found →
        report id device s scene w = m scene w := by
  rcases s.refused_or_accepted found with ⟨e, hrefused⟩ | ⟨r, rfl, haccepted⟩
  · exact ⟨throw e, .refused hrefused.isBookkeeping, fun scene w hfaults hfound =>
      report_refused hfaults hfound hrefused⟩
  · by_cases same : r.status = s.status
    · exact ⟨pure (), .unchanged rfl same, fun scene w hfaults hr =>
        report_repeated hfaults hr haccepted same⟩
    · have active : r.status.isActive = true := haccepted.movable.resolve_left same
      exact ⟨moveRecord id device s, .moved rfl active haccepted.reportable same,
        fun scene w hfaults hr => report_news hfaults hr haccepted same⟩

/-- What a report comes to. -/
inductive ReportOutcome (scene : Scene) (w : World MemoryStore ω) (p : Partition)
    (id : DeploymentId) (device : DeviceId) (s : StatusReport) :
    Except ModelError Unit × World MemoryStore ω → Prop where
  /-- It is refused. -/
  | refused {e : ModelError} (he : e.isBookkeeping = false) :
      ReportOutcome scene w p id device s (.error e, w)
  /-- The record has the status already. -/
  | unchanged {r : DeviceRecord} (hr : p.records.get? (id, device) = some r)
      (same : r.status = s.status) : ReportOutcome scene w p id device s (.ok (), w)
  /-- The device moves on. -/
  | moved {r : DeviceRecord} {d : Deployment} {calls : List StoreCall}
      (hr : p.records.get? (id, device) = some r) (hd : p.deployments.get? id = some d)
      (active : r.status.isActive = true) (reportable : s.status.isReportable = true)
      (changed : r.status ≠ s.status) :
      ReportOutcome scene w p id device s
        (.ok (), w.turn scene.ctx.partition
          (p.afterReport d r s.status s.substate scene.now) calls
          (scene.moveEvent id device r.status s.status :: scene.finishEvents
            (d.withStats ((p.withRecord r.key
              (r.movedTo s.status s.substate scene.now)).tallyOf d.id))))

/-- All that a report can come to over a consistent part: it is refused, it repeats what is there,
or it moves the record with its counter. -/
theorem report_outcome (hfaults : w.faults.SparesStore)
    (hp : w.part scene.ctx.partition = p) (hconsistent : p.Consistent) (id : DeploymentId)
    (device : DeviceId) (s : StatusReport) :
    ReportOutcome scene w p id device s
      ((report id device s : ModelM MemoryStore ω _) scene w) := by
  obtain ⟨m, hjudged, hrun⟩ := report_judged id device s (p.records.get? (id, device))
  rw [hrun scene w hfaults (by rw [hp])]
  cases hjudged with
  | refused he => exact .refused he
  | unchanged hr same => exact .unchanged hr same
  | moved hr active reportable changed =>
    -- The deployment of the record is there to be counted in.
    obtain ⟨d, hd⟩ := hconsistent.owned hr
    obtain ⟨calls, hmove⟩ := moveRecord_run hfaults hp hconsistent hr hd s
    rw [hmove]
    exact .moved hr hd active reportable changed

/-- A reportable status other than the present one is taken from an active device. -/
theorem report_moves (hfaults : w.faults.SparesStore) (hp : w.part scene.ctx.partition = p)
    (hconsistent : p.Consistent) {s : StatusReport} (hvalid : s.validate = .ok ())
    (hr : p.records.get? (id, device) = some r) (hd : p.deployments.get? id = some d)
    (active : r.status.isActive = true) (reportable : s.status.isReportable = true)
    (changed : r.status ≠ s.status) :
    ∃ calls, (report id device s : ModelM MemoryStore ω _) scene w
      = (.ok (), w.turn scene.ctx.partition
          (p.afterReport d r s.status s.substate scene.now) calls
          (scene.moveEvent id device r.status s.status :: scene.finishEvents
            (d.withStats ((p.withRecord r.key
              (r.movedTo s.status s.substate scene.now)).tallyOf d.id)))) := by
  have haccepted : s.Accepted r := ⟨StatusReport.fits_of_validate hvalid, reportable, .inr active⟩
  rw [report_news hfaults (by rw [hp]; exact hr) haccepted changed]
  exact moveRecord_run hfaults hp hconsistent hr hd s

/-! ### The artifact for a record -/

/-- How a record comes by an artifact, and the part after that. -/
inductive Gives (scene : Scene) (p : Partition) (d : Deployment) (r : DeviceRecord)
    (installed : Installed) (a : Artifact) : Partition → Prop where
  /-- It has the artifact, and the device has not changed its type. -/
  | kept (has : r.artifact = some a) (same : typeChanged r installed = false) :
      Gives scene p d r installed a p
  /-- The artifact is found for the present type of the device. -/
  | renewed {t : String} (lacks : r.artifact = none ∨ typeChanged r installed = true)
      (type : installed.typeFor r = some t) (found : scene.resolve d t = some a) :
      Gives scene p d r installed a (p.withRecord r.key (r.withArtifact t a))

/-- What the search for an artifact comes to. -/
inductive SearchOutcome (scene : Scene) (w : World MemoryStore ω) (p : Partition)
    (d : Deployment) (r : DeviceRecord) (installed : Installed) :
    Except ModelError (Option Artifact) × World MemoryStore ω → Prop where
  /-- The record has an artifact now. -/
  | found {plan : FaultPlan} (spares : plan.SparesStore) {a : Artifact} {p' : Partition}
      {calls : List StoreCall} (gives : Gives scene p d r installed a p') :
      SearchOutcome scene w p d r installed
        (.ok (some a), (w.withFaults plan).turn scene.ctx.partition p' calls [])
  /-- There is no artifact for the device. -/
  | none {plan : FaultPlan} (spares : plan.SparesStore)
      (lacks : r.artifact = none ∨ typeChanged r installed = true)
      (nothing : (installed.typeFor r).bind (scene.resolve d) = none) :
      SearchOutcome scene w p d r installed (.ok none, w.withFaults plan)
  /-- The catalog failed. -/
  | failed {plan : FaultPlan} (spares : plan.SparesStore) {e : ModelError}
      (he : IsCollaboratorError e) :
      SearchOutcome scene w p d r installed (.error e, w.withFaults plan)

/-- An artifact that was found is given to the record. -/
theorem give_outcome {plan : FaultPlan} (hplan : plan.SparesStore)
    (hp : w.part scene.ctx.partition = p) (hr : p.records.get? r.key = some r)
    (hid : d.id = r.deploymentId) {installed : Installed} {t : String} (activity : String)
    (lacks : r.artifact = none ∨ typeChanged r installed = true)
    (type : installed.typeFor r = some t) {found : Option Artifact}
    (hfound : scene.resolve d t = found) :
    SearchOutcome scene w p d r installed ((match found with
      | none => return none
      | some a => do
        askStore activity (.assignArtifact d.id r.deviceId t a)
        return some a : ModelM MemoryStore ω _) scene (w.withFaults plan)) := by
  cases found with
  | none => exact .none hplan lacks (by rw [type]; exact hfound)
  | some a =>
    have hassign : p.run (.assignArtifact d.id r.deviceId t a)
        = .ok ((), p.withRecord r.key (r.withArtifact t a)) := by
      rw [hid]
      exact Partition.run_assignArtifact t a hr
    have hask := of_turn (w := w.withFaults plan) hp (askStore_ok activity hplan hassign)
    dsimp only
    rw [bind_ok hask]
    exact .found hplan (.renewed lacks type hfound)

/-- A search by name stores the artifact that it finds in the record. Where it finds none, or the
catalog fails, nothing is stored. -/
theorem reassign_outcome (hfaults : w.faults.SparesStore)
    (hp : w.part scene.ctx.partition = p) (hr : p.records.get? r.key = some r)
    (hid : d.id = r.deploymentId) (installed : Installed)
    (lacks : r.artifact = none ∨ typeChanged r installed = true) :
    SearchOutcome scene w p d r installed
      ((reassign d r installed : ModelM MemoryStore ω _) scene w) := by
  cases htype : installed.typeFor r with
  | none =>
    rw [Installed.typeFor] at htype
    rw [reassign, htype]
    exact .none hfaults lacks (by rw [Installed.typeFor, htype]; rfl)
  | some t =>
    have htype' := htype
    rw [Installed.typeFor] at htype'
    rw [reassign, htype']
    dsimp only
    -- First come the artifacts that the deployment froze, then those of its artifact name.
    obtain ⟨plan, hplan, hids | ⟨e, he, hids⟩⟩ := (Consults.artifactByIds scene
      "searching for artifact by ids and device type" d.artifacts t).outcome hfaults
    · rw [bind_ok hids]
      cases hfrozen : scene.catalog.findByIds d.artifacts t with
      | some a =>
        have hfound : scene.resolve d t = some a := by rw [Scene.resolve, hfrozen, Option.some_or]
        exact give_outcome hplan hp hr hid _ lacks htype hfound
      | none =>
        have hfound : scene.resolve d t = scene.catalog.findByName d.artifactName t := by
          rw [Scene.resolve, hfrozen, Option.none_or]
        obtain ⟨plan', hplan', hname | ⟨e, he, hname⟩⟩ := (Consults.artifactByName scene
          "searching for artifact by name and device type" d.artifactName t).outcome
          (w := w.withFaults plan) hplan
        · dsimp only
          rw [bind_ok hname]
          exact give_outcome hplan' hp hr hid _ lacks htype hfound
        · dsimp only
          rw [bind_error hname]
          exact .failed hplan' he
    · rw [bind_error hids]
      exact .failed hplan he

/-- The artifact of a record is the one that it has, unless its device has become one of another
type, or the one that a search finds. -/
theorem artifactFor_outcome (hfaults : w.faults.SparesStore)
    (hp : w.part scene.ctx.partition = p) (hr : p.records.get? r.key = some r)
    (hid : d.id = r.deploymentId) (installed : Installed) :
    SearchOutcome scene w p d r installed
      ((artifactFor d r installed : ModelM MemoryStore ω _) scene w) := by
  rw [artifactFor]
  cases hhas : r.artifact with
  | none => exact reassign_outcome hfaults hp hr hid installed (.inl hhas)
  | some a =>
    dsimp only
    cases hchanged : typeChanged r installed with
    | true => exact reassign_outcome hfaults hp hr hid installed (.inr hchanged)
    | false =>
      have hturn : (pure (some a) : ModelM MemoryStore ω _) scene w
          = (.ok (some a), (w.withFaults w.faults).turn scene.ctx.partition p [] []) :=
        (pure_run _).trans (congrArg (Prod.mk _) (World.eq_turn hp))
      rw [if_neg Bool.false_ne_true, hturn]
      exact .found hfaults (.kept hhas hchanged)

/-! ### Polls -/

/-- Instructions are the artifact with a link to it, if one is issued. -/
theorem instruct_run [LinkIssuer ω] (scene : Scene) (w : World MemoryStore ω)
    (id : DeploymentId) (a : Artifact) :
    (instruct id a : ModelM MemoryStore ω _) scene w
      = (match (scene.link a w.objects).1 with
        | .ok l =>
          .ok
            { id
              artifact := { artifactName := a.name, source := l, deviceTypes := a.deviceTypes } }
        | .error e => .error (.storage "generating download link for the device" e),
        w.withObjects (scene.link a w.objects).2) := by
  have hlink : (downloadLink "generating download link for the device" a.id
      (a.name ++ scene.filenameSuffix.getD "") : ModelM MemoryStore ω _) scene w
        = (match (scene.link a w.objects).1 with
          | .ok l => .ok l
          | .error e => .error (.storage "generating download link for the device" e),
          w.withObjects (scene.link a w.objects).2) := rfl
  rw [instruct, bind_ok read_run]
  cases h : (scene.link a w.objects).1 with
  | ok l =>
    rw [h] at hlink
    rw [bind_ok hlink]
    rfl
  | error e =>
    rw [h] at hlink
    rw [bind_error hlink]

/-- A record that a poll is about, with the artifact for it and the part after that. -/
structure Serves (scene : Scene) (p : Partition) (device : DeviceId) (installed : Installed)
    (r : DeviceRecord) (d : Deployment) (a : Artifact) (p' : Partition) : Prop where
  /-- The record is the oldest active one of the device. -/
  oldest : oldest (p.activeOf device) = some r
  /-- It belongs to the deployment. -/
  stored : p.deployments.get? r.deploymentId = some d
  /-- The device does not run what it is to install. -/
  news : installed.runs d = false
  /-- The artifact is the one for the record. -/
  gives : Gives scene p d r installed a p'

/-- Why a poll puts a record to rest: the device runs what it is to install, or there is no artifact
for it. -/
def RestReason (scene : Scene) (d : Deployment) (r : DeviceRecord) (installed : Installed)
    (s : DeviceStatus) : Prop :=
  (s = .alreadyInstalled ∧ installed.runs d = true) ∨
    (s = .noArtifact ∧ installed.runs d = false ∧
      (installed.typeFor r).bind (scene.resolve d) = none)

/-- What a poll comes to over deployments and records that stand under their own names, whether
they fit together or not. -/
inductive PollCourse [LinkIssuer ω] (scene : Scene) (w : World MemoryStore ω) (p : Partition)
    (device : DeviceId) (installed : Installed) :
    Except ModelError (Option Instructions) × World MemoryStore ω → Prop where
  /-- The device has nothing to do. -/
  | idle (free : oldest (p.activeOf device) = none) :
      PollCourse scene w p device installed (.ok none, w)
  /-- There is no deployment for the record of the device. -/
  | orphaned {r : DeviceRecord} (hr : oldest (p.activeOf device) = some r)
      (gone : p.deployments.get? r.deploymentId = none) :
      PollCourse scene w p device installed (.ok none, w)
  /-- The record of the device is put to rest, and the counters follow. -/
  | rested {plan : FaultPlan} (spares : plan.SparesStore) {r : DeviceRecord} {d : Deployment}
      {s : DeviceStatus} {st : Stats} {calls : List StoreCall}
      (hr : oldest (p.activeOf device) = some r)
      (hd : p.deployments.get? r.deploymentId = some d)
      (reason : RestReason scene d r installed s)
      (counted : d.stats.transition r.status s = .ok st) :
      PollCourse scene w p device installed
        (.ok none, (w.withFaults plan).turn scene.ctx.partition
          ((p.withRecord r.key (r.movedTo s none scene.now)).withDeployment d.id
            ((d.withStats st).closeAt scene.now)) calls
          (scene.moveEvent d.id device r.status s :: scene.finishEvents (d.withStats st)))
  /-- The counters cannot follow. -/
  | uncounted {r : DeviceRecord} {d : Deployment} {s : DeviceStatus} {e : StatsError}
      {w' : World MemoryStore ω} (hr : oldest (p.activeOf device) = some r)
      (hd : p.deployments.get? r.deploymentId = some d)
      (reason : RestReason scene d r installed s)
      (counted : d.stats.transition r.status s = .error e) :
      PollCourse scene w p device installed
        (.error (.store "updating deployment stats" (.ofStats e)), w')
  /-- The catalog failed. -/
  | failed {plan : FaultPlan} (spares : plan.SparesStore) {e : ModelError}
      (he : IsCollaboratorError e) :
      PollCourse scene w p device installed (.error e, w.withFaults plan)
  /-- The device is to install an artifact. -/
  | served {plan : FaultPlan} (spares : plan.SparesStore) {r : DeviceRecord} {d : Deployment}
      {a : Artifact} {p' : Partition} {calls : List StoreCall} {l : Link}
      (serves : Serves scene p device installed r d a p')
      (link : (scene.link a w.objects).1 = .ok l) :
      PollCourse scene w p device installed
        (.ok (some { id := d.id, artifact :=
          { artifactName := a.name, source := l, deviceTypes := a.deviceTypes } }),
          ((w.withFaults plan).turn scene.ctx.partition p' calls []).withObjects
            (scene.link a w.objects).2)
  /-- There is an artifact, but no link to it. -/
  | unlinked {plan : FaultPlan} (spares : plan.SparesStore) {r : DeviceRecord} {d : Deployment}
      {a : Artifact} {p' : Partition} {calls : List StoreCall} {e : ObjectError}
      (serves : Serves scene p device installed r d a p')
      (link : (scene.link a w.objects).1 = .error e) :
      PollCourse scene w p device installed
        (.error (.storage "generating download link for the device" e),
          ((w.withFaults plan).turn scene.ctx.partition p' calls []).withObjects
            (scene.link a w.objects).2)

/-- Either of the two statuses that a poll may give to an active record is one that a device
could report. -/
theorem reason_change {installed : Installed} {s : DeviceStatus}
    (active : r.status.isActive = true) (reason : RestReason scene d r installed s) :
    s.isReportable = true ∧ r.status ≠ s := by
  rcases reason with ⟨rfl, -⟩ | ⟨rfl, -⟩ <;>
    exact ⟨rfl, fun he => by rw [he] at active; cases active⟩

/-- A poll may put an active record to rest. -/
theorem rest_course [LinkIssuer ω] {plan : FaultPlan} (hplan : plan.SparesStore)
    (hp : w.part scene.ctx.partition = p) (hkeyed : p.Keyed) {installed : Installed}
    {s : DeviceStatus} (holdest : oldest (p.activeOf device) = some r)
    (hd : p.deployments.get? r.deploymentId = some d)
    (reason : RestReason scene d r installed s) :
    PollCourse scene w p device installed
      ((do
        report d.id device { status := s }
        return none : ModelM MemoryStore ω _) scene (w.withFaults plan)) := by
  obtain ⟨hr, hown, hactive⟩ := Partition.of_oldest hkeyed holdest
  have hid : d.id = r.deploymentId := hkeyed.deployment hd
  have hkey : r.key = (d.id, device) := by rw [DeviceRecord.key, hid, hown]
  obtain ⟨hreportable, hchanged⟩ := reason_change hactive reason
  have hd' : p.deployments.get? d.id = some d := by
    rw [hid]
    exact hd
  have haccepted : ({ status := s } : StatusReport).Accepted r :=
    ⟨StatusReport.fits_of_validate rfl, hreportable, .inr hactive⟩
  have hreport : (report d.id device { status := s } : ModelM MemoryStore ω _) scene
      (w.withFaults plan) = moveRecord d.id device { status := s } scene (w.withFaults plan) :=
    report_news hplan (by rw [World.part_withFaults, hp, ← hkey]; exact hr) haccepted hchanged
  rw [hkey] at hr
  -- The record is written first, so counters at their end leave it written.
  cases hst : d.stats.transition r.status s with
  | ok st =>
    obtain ⟨calls, hmove⟩ := moveRecord_counted (w := w.withFaults plan) hplan hp hr hd' rfl
      { status := s } hst
    rw [bind_ok (hreport.trans hmove), ← hkey]
    exact .rested hplan holdest hd reason hst
  | error e =>
    obtain ⟨calls, hmove⟩ := moveRecord_uncounted (w := w.withFaults plan) hplan hp hr hd'
      { status := s } hst
    rw [bind_error (hreport.trans hmove)]
    exact .uncounted holdest hd reason hst

/-- A poll that has an artifact asks for a link to it. -/
theorem serve_course [LinkIssuer ω] {plan : FaultPlan} (hplan : plan.SparesStore)
    {installed : Installed} {a : Artifact} {p' : Partition} {calls : List StoreCall}
    (serves : Serves scene p device installed r d a p') :
    PollCourse scene w p device installed
      ((do return some (← instruct d.id a) : ModelM MemoryStore ω _) scene
        ((w.withFaults plan).turn scene.ctx.partition p' calls [])) := by
  have hrun := instruct_run scene ((w.withFaults plan).turn scene.ctx.partition p' calls []) d.id a
  cases hlink : (scene.link a w.objects).1 with
  | ok l =>
    rw [show (scene.link a ((w.withFaults plan).turn scene.ctx.partition p' calls []).objects).1
      = .ok l from hlink] at hrun
    rw [bind_ok hrun]
    exact .served hplan serves hlink
  | error e =>
    rw [show (scene.link a ((w.withFaults plan).turn scene.ctx.partition p' calls []).objects).1
      = .error e from hlink] at hrun
    rw [bind_error hrun]
    exact .unlinked hplan serves hlink

/-- All that a poll can come to wherever everything stands under its own name. Besides the cases of
a consistent part there are a deployment that is missing and counters that cannot follow. -/
theorem poll_course [LinkIssuer ω] (hfaults : w.faults.SparesStore)
    (hp : w.part scene.ctx.partition = p) (hkeyed : p.Keyed) (device : DeviceId)
    (installed : Installed) :
    PollCourse scene w p device installed
      ((poll device installed : ModelM MemoryStore ω _) scene w) := by
  rw [poll, bind_ok (askStore_read _ hfaults hp rfl rfl)]
  cases holdest : oldest (p.activeOf device) with
  | none => exact .idle holdest
  | some r =>
    obtain ⟨hr, -, -⟩ := Partition.of_oldest hkeyed holdest
    have hget := getDeployment_run hfaults hp r.deploymentId
    dsimp only
    cases hd : p.deployments.get? r.deploymentId with
    | none =>
      rw [hd] at hget
      rw [bind_ok hget]
      exact .orphaned holdest hd
    | some d =>
      have hid : d.id = r.deploymentId := hkeyed.deployment hd
      rw [hd] at hget
      rw [bind_ok hget]
      dsimp only
      cases hruns : !installed.artifactName.isEmpty
          && installed.artifactName == d.artifactName with
      | true =>
        rw [if_pos rfl]
        exact rest_course hfaults hp hkeyed holdest hd (.inl ⟨rfl, hruns⟩)
      | false =>
        rw [if_neg Bool.false_ne_true]
        -- What the search comes to decides, whatever it asked on the way.
        have hsearch := artifactFor_outcome hfaults hp hr hid installed
        cases hrun : (artifactFor d r installed : ModelM MemoryStore ω _) scene w with
        | mk x w' =>
          rw [hrun] at hsearch
          cases hsearch with
          | failed hplan he =>
            rw [bind_error hrun]
            exact .failed hplan he
          | none hplan lacks nothing =>
            rw [bind_ok hrun]
            exact rest_course hplan hp hkeyed holdest hd (.inr ⟨rfl, hruns, nothing⟩)
          | found hplan gives =>
            rw [bind_ok hrun]
            exact serve_course hplan ⟨holdest, hd, hruns, gives⟩

/-- What a poll comes to over a consistent part. -/
inductive PollOutcome [LinkIssuer ω] (scene : Scene) (w : World MemoryStore ω) (p : Partition)
    (device : DeviceId) (installed : Installed) :
    Except ModelError (Option Instructions) × World MemoryStore ω → Prop where
  /-- The device has nothing to do. -/
  | idle (free : oldest (p.activeOf device) = none) :
      PollOutcome scene w p device installed (.ok none, w)
  /-- The record of the device is put to rest. -/
  | rested {plan : FaultPlan} (spares : plan.SparesStore) {r : DeviceRecord} {d : Deployment}
      {s : DeviceStatus} {calls : List StoreCall} (hr : oldest (p.activeOf device) = some r)
      (hd : p.deployments.get? r.deploymentId = some d)
      (reason : RestReason scene d r installed s) :
      PollOutcome scene w p device installed
        (.ok none, (w.withFaults plan).turn scene.ctx.partition
          (p.afterReport d r s none scene.now) calls
          (scene.moveEvent d.id device r.status s :: scene.finishEvents
            (d.withStats ((p.withRecord r.key (r.movedTo s none scene.now)).tallyOf d.id))))
  /-- The catalog failed. -/
  | failed {plan : FaultPlan} (spares : plan.SparesStore) {e : ModelError}
      (he : IsCollaboratorError e) :
      PollOutcome scene w p device installed (.error e, w.withFaults plan)
  /-- The device is to install an artifact. -/
  | served {plan : FaultPlan} (spares : plan.SparesStore) {r : DeviceRecord} {d : Deployment}
      {a : Artifact} {p' : Partition} {calls : List StoreCall} {l : Link}
      (serves : Serves scene p device installed r d a p')
      (link : (scene.link a w.objects).1 = .ok l) :
      PollOutcome scene w p device installed
        (.ok (some { id := d.id, artifact :=
          { artifactName := a.name, source := l, deviceTypes := a.deviceTypes } }),
          ((w.withFaults plan).turn scene.ctx.partition p' calls []).withObjects
            (scene.link a w.objects).2)
  /-- There is an artifact, but no link to it. -/
  | unlinked {plan : FaultPlan} (spares : plan.SparesStore) {r : DeviceRecord} {d : Deployment}
      {a : Artifact} {p' : Partition} {calls : List StoreCall} {e : ObjectError}
      (serves : Serves scene p device installed r d a p')
      (link : (scene.link a w.objects).1 = .error e) :
      PollOutcome scene w p device installed
        (.error (.storage "generating download link for the device" e),
          ((w.withFaults plan).turn scene.ctx.partition p' calls []).withObjects
            (scene.link a w.objects).2)

/-- Where deployments and records fit together, every record has its deployment, and its counters
can follow. -/
theorem poll_outcome [LinkIssuer ω] (hfaults : w.faults.SparesStore)
    (hp : w.part scene.ctx.partition = p) (hconsistent : p.Consistent) (device : DeviceId)
    (installed : Installed) :
    PollOutcome scene w p device installed
      ((poll device installed : ModelM MemoryStore ω _) scene w) := by
  have htally {r : DeviceRecord} {d : Deployment} {s : DeviceStatus}
      (holdest : oldest (p.activeOf device) = some r)
      (hd : p.deployments.get? r.deploymentId = some d) :
      d.stats.transition r.status s
        = .ok ((p.withRecord r.key (r.movedTo s none scene.now)).tallyOf d.id) := by
    obtain ⟨hr, -, -⟩ := Partition.of_oldest hconsistent.keyed holdest
    rw [hconsistent.keyed.deployment hd]
    exact hconsistent.transition_moved hr hd s none scene.now
  have hcourse := poll_course hfaults hp hconsistent.keyed device installed
  generalize (poll device installed : ModelM MemoryStore ω _) scene w = x at hcourse
  -- In a consistent part no record lacks its deployment and no counter is at its end.
  cases hcourse with
  | idle free => exact .idle free
  | orphaned holdest gone =>
    obtain ⟨hr, -, -⟩ := Partition.of_oldest hconsistent.keyed holdest
    obtain ⟨d, hd⟩ := hconsistent.owned hr
    exact absurd (gone.symm.trans hd) nofun
  | rested hplan holdest hd reason counted =>
    rw [htally holdest hd] at counted
    cases counted
    exact .rested hplan holdest hd reason
  | uncounted holdest hd reason counted =>
    rw [htally holdest hd] at counted
    cases counted
  | failed hplan he => exact .failed hplan he
  | served hplan serves link => exact .served hplan serves link
  | unlinked hplan serves link => exact .unlinked hplan serves link

/-! ### Logs -/

/-- What storing a log comes to. -/
inductive LogOutcome (scene : Scene) (w : World MemoryStore ω) (p : Partition)
    (log : DeploymentLog) : Except ModelError Unit × World MemoryStore ω → Prop where
  /-- It is refused. -/
  | refused {e : ModelError} (he : e.isBookkeeping = false) :
      LogOutcome scene w p log (.error e, w)
  /-- The log is stored and the record marked. -/
  | stored {r : DeviceRecord} {calls : List StoreCall} (valid : log.validate = .ok ())
      (hr : p.records.get? log.key = some r) :
      LogOutcome scene w p log
        (.ok (), w.turn scene.ctx.partition
          ((p.withLog log).withRecord log.key (r.withLogMark true)) calls [])

/-- A log is refused if the device does not take part in the deployment. -/
theorem saveLog_refuses (hfaults : w.faults.SparesStore) (hp : w.part scene.ctx.partition = p)
    {log : DeploymentLog} (hvalid : log.validate = .ok ()) (hr : p.records.get? log.key = none) :
    (saveLog log : ModelM MemoryStore ω _) scene w = (.error .deploymentNotFound, w) := by
  have hhas : (hasRecord log.deploymentId log.deviceId : ModelM MemoryStore ω _) scene w
      = (.ok false, w) := by
    rw [← Table.contains_eq_false_iff.2 hr]
    exact askStore_read _ hfaults hp rfl rfl
  rw [saveLog, bind_ok (accept_ok hvalid), bind_ok hhas]
  rfl

/-- A log that keeps the rules is stored if the device takes part in the deployment. -/
theorem saveLog_stores (hfaults : w.faults.SparesStore) (hp : w.part scene.ctx.partition = p)
    {log : DeploymentLog} (hvalid : log.validate = .ok ()) (hr : p.records.get? log.key = some r) :
    (saveLog log : ModelM MemoryStore ω _) scene w
      = (.ok (), w.turn scene.ctx.partition
          ((p.withLog log).withRecord log.key (r.withLogMark true))
          [.saveLog log, .markLog log.deploymentId log.deviceId true] []) := by
  have hhas : (hasRecord log.deploymentId log.deviceId : ModelM MemoryStore ω _) scene w
      = (.ok true, w) := by
    rw [← Table.contains_iff.2 ⟨r, hr⟩]
    exact askStore_read _ hfaults hp rfl rfl
  -- The mark finds the record, since a log is no record.
  have hsave : p.run (.saveLog log) = .ok ((), p.withLog log) := rfl
  have hmark : (p.withLog log).run (.markLog log.deploymentId log.deviceId true)
      = .ok ((), (p.withLog log).withRecord log.key (r.withLogMark true)) :=
    Partition.run_markLog true hr
  rw [saveLog, bind_ok (accept_ok hvalid), bind_ok hhas]
  exact of_turn hp ((bind_ok (askStore_ok _ hfaults hsave)).trans (askStore_ok _ hfaults hmark))

/-- All that the saving of a log can come to: the log is refused, or it is stored and the record
marked. -/
theorem saveLog_outcome (hfaults : w.faults.SparesStore)
    (hp : w.part scene.ctx.partition = p) (log : DeploymentLog) :
    LogOutcome scene w p log ((saveLog log : ModelM MemoryStore ω _) scene w) := by
  cases hvalid : log.validate with
  | error e =>
    rw [saveLog, bind_error (accept_error hvalid)]
    exact .refused rfl
  | ok u =>
    cases hr : p.records.get? log.key with
    | none =>
      rw [saveLog_refuses hfaults hp hvalid hr]
      exact .refused rfl
    | some r =>
      rw [saveLog_stores hfaults hp hvalid hr]
      exact .stored hvalid hr

end ModelM

end Fleet
