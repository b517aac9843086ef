import Fleet.Proofs.Model.Isolation
import Fleet.Proofs.Store.Entries

/-!
# `Fleet.Proofs.Model.Commute`: calls of different devices commute

A call of a device is decided by what the device meets: its own records, the terms of its
deployments, the catalog, the object storage and the faults. How far deployments have come does
not enter into it. `ComesTo` says that a computation gives one answer and leaves one entry in
every world that shows the device the same. There is a rule for each way to chain computations,
so reports, polls and logs are `Decided` in this sense.

A call of another device before it, which leaves an entry of its own, then changes neither the
answer nor the entry. The two entries commute (`Partition.entered_comm`), and hence the calls
(`device_calls_commute`).
-/

set_option autoImplicit false

namespace Fleet

open Fleet.Time

/-- What a device meets when it calls. -/
structure Sight (ω : Type) where
  /-- A part with the same records of the device and the same terms of deployments. -/
  part : Partition
  faults : FaultPlan
  objects : ω

/-- A world shows a device what it meets. -/
structure World.Shows {ω : Type} (w : World MemoryStore ω) (tenant : TenantId) (device : DeviceId)
    (v : Sight ω) : Prop where
  consistent : (w.part tenant).Consistent
  same : v.part.SameFor device (w.part tenant)
  faults : w.faults = v.faults
  objects : w.objects = v.objects

/-- What a device meets includes the plan of faults, so it knows that the store is spared. -/
theorem World.Shows.spares {ω : Type} {w : World MemoryStore ω} {tenant : TenantId}
    {device : DeviceId} {v : Sight ω} (h : w.Shows tenant device v)
    (hspares : v.faults.SparesStore) : w.faults.SparesStore := by
  rw [h.faults]
  exact hspares

namespace ModelM

variable {ω α β : Type} {scene : Scene} {device : DeviceId} {v : Sight ω}
  {m : ModelM MemoryStore ω α} {f : α → ModelM MemoryStore ω β} {x : Except ModelError α}
  {y : Except ModelError β} {e : Option Entry} {plan plan' : FaultPlan} {o o' : ω} {a : α}
  {r : DeviceRecord} {d : Deployment}

/-- In every world that shows a device the same, a computation gives one answer, leaves one entry
of the device or none, and ends with the same faults and objects. -/
def ComesTo (scene : Scene) (device : DeviceId) (v : Sight ω) (m : ModelM MemoryStore ω α)
    (x : Except ModelError α) (e : Option Entry) (plan : FaultPlan) (o : ω) : Prop :=
  ∀ w : World MemoryStore ω, w.Shows scene.ctx.partition device v →
    (∀ i ∈ e, i.record.deviceId = device ∧ (w.part scene.ctx.partition).Takes scene.now i) ∧
    ∃ w', m scene w = (x, w') ∧ w'.faults = plan ∧ w'.objects = o ∧
      w'.store = w.store.withPartition scene.ctx.partition
        ((w.part scene.ctx.partition).after e scene.now)

namespace ComesTo

/-- A computation that changes nothing but the faults. -/
theorem of_faults (h : ∀ w : World MemoryStore ω, w.Shows scene.ctx.partition device v →
    m scene w = (x, w.withFaults plan)) : ComesTo scene device v m x none plan v.objects := by
  intro w hw
  exact ⟨by simp, w.withFaults plan, h w hw, rfl, hw.objects,
    (MemoryStore.withPartition_partition ..).symm⟩

/-- A computation that changes nothing. -/
theorem of_read (h : ∀ w : World MemoryStore ω, w.Shows scene.ctx.partition device v →
    m scene w = (x, w)) : ComesTo scene device v m x none v.faults v.objects :=
  .of_faults fun _ hw => by
    rw [← hw.faults]
    exact h _ hw

/-- An answer comes to itself and leaves no entry. -/
theorem of_pure (a : α) : ComesTo scene device v (pure a) (.ok a) none v.faults v.objects :=
  .of_read fun _ _ => rfl

/-- A question to the store that changes nothing. -/
theorem of_ask {c : StoreCall} {answer : c.Answer} (hspares : v.faults.SparesStore)
    (activity : String) (hc : c.isMutating = false)
    (h : ∀ p : Partition, v.part.SameFor device p → p.run c = .ok (answer, p)) :
    ComesTo scene device v (askStore activity c) (.ok answer) none v.faults v.objects :=
  .of_read fun _ hw => askStore_read activity (hw.spares hspares) rfl hc (h _ hw.same)

/-- A computation that leaves an entry. -/
theorem of_entry {i : Entry} (hdevice : i.record.deviceId = device)
    (h : ∀ w : World MemoryStore ω, w.Shows scene.ctx.partition device v →
      (w.part scene.ctx.partition).Takes scene.now i ∧
      ∃ calls events, m scene w = (x, w.turn scene.ctx.partition
        ((w.part scene.ctx.partition).entered i scene.now) calls events)) :
    ComesTo scene device v m x (some i) v.faults v.objects := by
  intro w hw
  obtain ⟨htakes, calls, events, hm⟩ := h w hw
  refine ⟨fun j hj => ?_, _, hm, hw.faults, hw.objects, rfl⟩
  cases hj
  exact ⟨hdevice, htakes⟩

/-- An error in front is what the whole computation comes to, with the entry that it leaves. -/
theorem bind_error {err : ModelError} (h : ComesTo scene device v m (.error err) e plan o) :
    ComesTo scene device v (m >>= f) (.error err) e plan o := by
  intro w hw
  obtain ⟨htakes, w', hm, hrest⟩ := h w hw
  exact ⟨htakes, w', ModelM.bind_error hm, hrest⟩

/-- What comes after a computation without an entry decides. -/
theorem bind_read (h : ComesTo scene device v m (.ok a) none plan o)
    (h' : ComesTo scene device ⟨v.part, plan, o⟩ (f a) y e plan' o') :
    ComesTo scene device v (m >>= f) y e plan' o' := by
  intro w hw
  obtain ⟨-, w', hm, hplan, ho, hstore⟩ := h w hw
  have hkept : w'.store = w.store := hstore.trans (MemoryStore.withPartition_partition ..)
  have hpart : w'.part = w.part := by
    funext t
    rw [World.part, World.part, hkept]
  obtain ⟨htakes, w'', hf, hrest⟩ := h' w' ⟨by rw [hpart]; exact hw.consistent,
    by rw [hpart]; exact hw.same, hplan, ho⟩
  rw [hpart] at htakes hrest
  rw [hkept] at hrest
  exact ⟨htakes, w'', (bind_ok hm).trans hf, hrest⟩

/-- An entry stays if nothing but the faults and the objects matters after it. -/
theorem bind_last (h : ComesTo scene device v m (.ok a) e plan o)
    (h' : ∀ p : Partition, ComesTo scene device ⟨p, plan, o⟩ (f a) y none plan' o') :
    ComesTo scene device v (m >>= f) y e plan' o' := by
  intro w hw
  obtain ⟨htakes, w', hm, hplan, ho, hstore⟩ := h w hw
  have hpart : w'.part scene.ctx.partition
      = (w.part scene.ctx.partition).after e scene.now := by
    rw [World.part, hstore, MemoryStore.partition_withPartition_self]
  have hconsistent : (w'.part scene.ctx.partition).Consistent := by
    rw [hpart]
    exact hw.consistent.after fun i hi => (htakes i hi).2
  obtain ⟨-, w'', hf, hplan', ho', hstore'⟩ := h' _ w' ⟨hconsistent, .refl .., hplan, ho⟩
  refine ⟨htakes, w'', (bind_ok hm).trans hf, hplan', ho', ?_⟩
  rw [hstore', ← hstore]
  exact MemoryStore.withPartition_partition ..

end ComesTo

/-- What a device meets decides what a computation comes to. -/
def Decided (scene : Scene) (device : DeviceId) (v : Sight ω) (m : ModelM MemoryStore ω α) : Prop :=
  ∃ x e plan o, ComesTo scene device v m x e plan o

namespace Decided

/-- A first computation that leaves no entry decides nothing but its answer, so what follows decides
the rest. -/
theorem bind_read (h : ComesTo scene device v m (.ok a) none plan o)
    (h' : Decided scene device ⟨v.part, plan, o⟩ (f a)) : Decided scene device v (m >>= f) := by
  obtain ⟨y, e, plan', o', hf⟩ := h'
  exact ⟨y, e, plan', o', h.bind_read hf⟩

/-- A computation may go on with a deployment if only the terms matter to it. -/
theorem bind_deployment {g : Option Deployment → ModelM MemoryStore ω β} {id : DeploymentId}
    (hspares : v.faults.SparesStore) (hd : v.part.deployments.get? id = some d)
    (hterms : ∀ d' : Deployment, d'.terms = d.terms → g (some d') = g (some d))
    (h : Decided scene device v (g (some d))) :
    Decided scene device v (getDeployment id >>= g) := by
  obtain ⟨y, e, plan, o, hg⟩ := h
  refine ⟨y, e, plan, o, fun w hw => ?_⟩
  obtain ⟨d', hd', hsame⟩ := hw.same.deployment hd
  have hget : (getDeployment id : ModelM MemoryStore ω _) scene w = (.ok (some d'), w) := by
    rw [getDeployment_run (hw.spares hspares) rfl id]
    exact congrArg (fun found => (Except.ok found, w)) hd'
  rw [bind_ok hget, hterms d' hsame]
  exact hg w hw

/-- What is made of an answer at the end changes neither the entry nor what the answer depends
on. -/
theorem map (h : Decided scene device v m) (g : α → β) :
    Decided scene device v (m >>= fun a => pure (g a)) := by
  obtain ⟨x, e, plan, o, hm⟩ := h
  cases x with
  | error err => exact ⟨_, _, _, _, hm.bind_error⟩
  | ok a => exact ⟨_, _, _, _, hm.bind_last fun p => .of_pure (g a)⟩

end Decided

/-! ### Reports -/

/-- A report is decided by what its device meets. It leaves the moved record or nothing. -/
theorem report_decided (hv : v.part.Consistent) (hspares : v.faults.SparesStore)
    (id : DeploymentId) (s : StatusReport) : Decided scene device v (report id device s) := by
  obtain ⟨m, hjudged, hrun⟩ :=
    report_judged (ω := ω) id device s (v.part.records.get? (id, device))
  have hreport (w : World MemoryStore ω) (hw : w.Shows scene.ctx.partition device v) :
      report id device s scene w = m scene w :=
    hrun scene w (hw.spares hspares) (hw.same.record id)
  cases hjudged with
  | refused he => exact ⟨_, _, _, _, .of_read hreport⟩
  | unchanged hr same => exact ⟨_, _, _, _, .of_read hreport⟩
  | @moved r hr active reportable changed =>
    have hkey : r.key = (id, device) := hv.keyed.record hr
    have hid : r.deploymentId = id := (Prod.mk.inj hkey).1
    refine ⟨.ok (), _, _, _, .of_entry (i := { record := r.movedTo s.status s.substate scene.now })
      (Prod.mk.inj hkey).2 fun w hw => ?_⟩
    -- The world has the same record, with a deployment that has perhaps come further.
    have hr' : (w.part scene.ctx.partition).records.get? (id, device) = some r :=
      (hw.same.record id).trans hr
    obtain ⟨d, hd⟩ := hw.consistent.owned hr'
    obtain ⟨calls, hmove⟩ := moveRecord_run (hw.spares hspares) rfl hw.consistent hr' hd s
    rw [← hkey] at hr'
    rw [← hid] at hd
    rw [hw.consistent.afterReport_eq hd] at hmove
    exact ⟨hw.consistent.takes_report hr' hd _ active reportable changed, calls, _,
      (hreport w hw).trans hmove⟩

/-! ### Logs -/

/-- Saving a log is decided by what its device meets. It leaves the log and the marked record or
nothing. -/
theorem saveLog_decided (hv : v.part.Consistent) (hspares : v.faults.SparesStore)
    (log : DeploymentLog) : Decided scene log.deviceId v (saveLog log) := by
  cases hvalid : log.validate with
  | error err =>
    refine ⟨.error (.validation err), _, _, _, .of_read fun w hw => ?_⟩
    rw [saveLog, ModelM.bind_error (accept_error hvalid)]
  | ok u =>
    cases hr : v.part.records.get? log.key with
    | none =>
      exact ⟨_, _, _, _, .of_read fun w hw =>
        saveLog_refuses (hw.spares hspares) rfl hvalid ((hw.same.record _).trans hr)⟩
    | some r =>
      have hkey : r.key = log.key := hv.keyed.record hr
      have hlogged : ∀ l ∈ some log, l.key = (r.withLogMark true).key := by
        intro l hl
        cases hl
        exact hkey.symm
      -- The log and its mark enter together, under the key of the record.
      refine ⟨.ok (), _, _, _, .of_entry (i := ⟨r.withLogMark true, some log, hlogged⟩)
        (Prod.mk.inj hkey).2 fun w hw => ?_⟩
      have hr' : (w.part scene.ctx.partition).records.get? log.key = some r :=
        (hw.same.record _).trans hr
      have hstore := saveLog_stores (hw.spares hspares) rfl hvalid hr'
      rw [← hkey] at hr' hstore
      have hmarked : Partition.Evolves scene.now _ _ := hw.consistent.evolves_log hr' log
      obtain ⟨htakes, hentered⟩ := Partition.Takes.of_status (e := ⟨_, some log, hlogged⟩)
        scene.now hr' rfl (hw.consistent.evolves hmarked)
      rw [hentered]
      exact ⟨htakes, _, _, hstore⟩

/-! ### The artifact for a record -/

/-- The record of a device with work to do. -/
structure HasWork (p : Partition) (device : DeviceId) (r : DeviceRecord) : Prop where
  own : r.deviceId = device
  stored : p.records.get? r.key = some r
  active : r.status.isActive = true

/-- The record is found in every world that shows the device the same. -/
theorem HasWork.get? (h : HasWork v.part device r) {w : World MemoryStore ω} {tenant : TenantId}
    (hw : w.Shows tenant device v) : (w.part tenant).records.get? r.key = some r := by
  rw [← h.stored, DeviceRecord.key, h.own]
  exact hw.same.record r.deploymentId

/-- A search for an artifact comes to something, and leaves no entry if it finds none. -/
def Searches (scene : Scene) (device : DeviceId) (v : Sight ω)
    (m : ModelM MemoryStore ω (Option Artifact)) : Prop :=
  ∃ x e plan, plan.SparesStore ∧ (x = .ok none → e = none) ∧
    ComesTo scene device v m x e plan v.objects

/-- A search that has its answer at once leaves no entry. -/
theorem Searches.of_pure (hspares : v.faults.SparesStore) (found : Option Artifact) :
    Searches scene device v (pure found) :=
  ⟨_, _, _, hspares, fun _ => rfl, .of_pure found⟩

/-- A question to the catalog first. -/
theorem Searches.of_consult {target : String} {failure : String → ModelError} {answer : α}
    {g : α → ModelM MemoryStore ω (Option Artifact)} (hspares : v.faults.SparesStore)
    (h : ∀ plan : FaultPlan, plan.SparesStore →
      Searches scene device ⟨v.part, plan, v.objects⟩ (g answer)) :
    Searches scene device v (consult target failure answer >>= g) := by
  cases hstruck : (FaultPlan.strike target v.faults).1 with
  | none =>
    obtain ⟨x, e, plan, hplan, hnone, hcomes⟩ := h _ (hspares.strike target)
    refine ⟨x, e, plan, hplan, hnone, .bind_read (.of_faults fun w hw => ?_) hcomes⟩
    rw [consult, hw.faults]
    dsimp only
    rw [hstruck]
    rfl
  | some fault =>
    refine ⟨.error (failure fault.detail), none, _, hspares.strike target, fun _ => rfl,
      .bind_error (.of_faults fun w hw => ?_)⟩
    rw [consult, hw.faults]
    dsimp only
    rw [hstruck]
    rfl

/-- An artifact that was found is given to the record. -/
theorem give_searches (h : HasWork v.part device r) (hspares : v.faults.SparesStore)
    (hid : d.id = r.deploymentId) (activity t : String) (found : Option Artifact) :
    Searches scene device v (match found with
      | none => return none
      | some a => do
        askStore activity (.assignArtifact d.id r.deviceId t a)
        return some a) := by
  cases found with
  | none => exact .of_pure hspares none
  | some a =>
    have hgive : ComesTo scene device v (askStore activity (.assignArtifact d.id r.deviceId t a))
        (.ok ()) (some { record := r.withArtifact t a }) v.faults v.objects := by
      refine .of_entry h.own fun w hw => ?_
      have hr := h.get? hw
      have hgiven : Partition.Evolves scene.now _ _ := hw.consistent.evolves_assign hr t a h.active
      obtain ⟨htakes, hentered⟩ := Partition.Takes.of_status
        (e := { record := r.withArtifact t a }) scene.now hr rfl (hw.consistent.evolves hgiven)
      rw [hentered, hid]
      exact ⟨htakes, _, _, of_turn rfl (askStore_ok activity (hw.spares hspares)
        (Partition.run_assignArtifact t a hr))⟩
    exact ⟨.ok (some a), _, _, hspares, fun hx => (by cases hx),
      hgive.bind_last fun p => .of_pure (some a)⟩

/-- A search by name comes to the same wherever the device meets the same, and leaves the record
with the artifact that was found. -/
theorem reassign_searches (h : HasWork v.part device r) (hspares : v.faults.SparesStore)
    (hid : d.id = r.deploymentId) (installed : Installed) :
    Searches scene device v (reassign d r installed) := by
  rw [reassign]
  cases (if installed.deviceType.isEmpty then r.deviceType else some installed.deviceType) with
  | none => exact .of_pure hspares none
  | some t =>
    -- First come the artifacts that the deployment froze, then those of its artifact name.
    refine .of_consult hspares fun plan hplan => ?_
    cases scene.catalog.findByIds d.artifacts t with
    | some a => exact give_searches (v := ⟨v.part, plan, v.objects⟩) h hplan hid _ t (some a)
    | none =>
      exact .of_consult hplan fun plan' hplan' =>
        give_searches (v := ⟨v.part, plan', v.objects⟩) h hplan' hid _ t _

/-- A search for the artifact of a record comes to the same wherever the device meets the same,
whichever of the two look-ups finds it. -/
theorem artifactFor_searches (h : HasWork v.part device r) (hspares : v.faults.SparesStore)
    (hid : d.id = r.deploymentId) (installed : Installed) :
    Searches scene device v (artifactFor d r installed) := by
  rw [artifactFor]
  cases r.artifact with
  | none => exact reassign_searches h hspares hid installed
  | some a =>
    dsimp only
    split
    · exact reassign_searches h hspares hid installed
    · exact .of_pure hspares (some a)

/-- Only the terms of a deployment matter for the search. -/
theorem artifactFor_congr {d' : Deployment} (h : d'.terms = d.terms) (installed : Installed) :
    (artifactFor d' r installed : ModelM MemoryStore ω _) = artifactFor d r installed := by
  obtain ⟨hid, hplan, -, -, -, -, -, hartifacts⟩ := Deployment.mk.inj h
  have hname : d'.artifactName = d.artifactName := congrArg Plan.artifactName hplan
  rw [artifactFor, artifactFor, reassign, reassign, hid, hname, hartifacts]

/-! ### Polls -/

variable [LinkIssuer ω]

/-- A device is told what to do, or that there is no link. -/
theorem instruct_comes (plan : FaultPlan) (o : ω) (id : DeploymentId) (a : Artifact) :
    ∃ x o', ∀ p : Partition, ComesTo scene device ⟨p, plan, o⟩
      (do return some (← instruct id a)) x none plan o' := by
  obtain ⟨x, hx⟩ : ∃ x, ∀ w : World MemoryStore ω, w.objects = o →
      (instruct id a : ModelM MemoryStore ω _) scene w
        = (x, w.withObjects (scene.link a o).2) :=
    ⟨_, fun w hw => by rw [instruct_run, hw]⟩
  have hinstruct (p : Partition) : ComesTo scene device ⟨p, plan, o⟩ (instruct id a) x none plan
      (scene.link a o).2 :=
    fun w hw => ⟨by simp, _, hx w hw.objects, hw.faults, rfl,
      (MemoryStore.withPartition_partition ..).symm⟩
  cases x with
  | error err => exact ⟨_, _, fun p => (hinstruct p).bind_error⟩
  | ok i => exact ⟨_, _, fun p => (hinstruct p).bind_read (.of_pure (some i))⟩

/-- A poll is decided by what its device meets: its oldest active record, the terms of that
deployment, the catalog and the object storage. -/
theorem poll_decided (hv : v.part.Consistent) (hspares : v.faults.SparesStore)
    (installed : Installed) : Decided scene device v (poll device installed) := by
  have hask : ComesTo scene device v (askStore
      "searching for oldest active deployment for the device" (.findOldestActive device))
      (.ok (oldest (v.part.activeOf device))) none v.faults v.objects :=
    .of_ask hspares _ rfl fun p hp => by rw [← hp.active]; rfl
  rw [poll]
  refine .bind_read hask ?_
  cases holdest : oldest (v.part.activeOf device) with
  | none => exact ⟨_, _, _, _, .of_pure none⟩
  | some r =>
    obtain ⟨hr, hown, hactive⟩ := Partition.of_oldest hv.keyed holdest
    obtain ⟨d, hd⟩ := hv.owned hr
    have hid : d.id = r.deploymentId := hv.keyed.deployment hd
    refine .bind_deployment hspares hd (fun d' hterms => ?_) ?_
    -- The poll reads of the deployment what the other device cannot change.
    · obtain ⟨hid', hplan, -⟩ := Deployment.mk.inj hterms
      have hname : d'.artifactName = d.artifactName := congrArg Plan.artifactName hplan
      dsimp only
      rw [hid', hname, artifactFor_congr hterms]
    dsimp only
    split
    · exact (report_decided hv hspares d.id _).map _
    · obtain ⟨x, e, plan, hplan, hnone, hsearch⟩ :=
        artifactFor_searches ⟨hown, hr, hactive⟩ hspares hid installed
      cases x with
      | error err => exact ⟨_, _, _, _, hsearch.bind_error⟩
      | ok found =>
        cases found with
        | none =>
          cases hnone rfl
          -- Without an artifact the poll goes on as a report, under what is left of the plan.
          have hreport : Decided scene device ⟨v.part, plan, v.objects⟩
              (report d.id device { status := .noArtifact }) :=
            report_decided (v := ⟨v.part, plan, v.objects⟩) hv hplan _ _
          exact .bind_read hsearch (hreport.map _)
        | some a =>
          obtain ⟨x, o, hinstruct⟩ := instruct_comes plan v.objects d.id a
          exact ⟨x, e, plan, o, hsearch.bind_last hinstruct⟩

end ModelM

/-! ### Two calls -/

/-- The device that makes a call, if devices make such calls. -/
def ModelCall.sender? : ModelCall → Option DeviceId
  | .report _ device _ => some device
  | .poll device _ => some device
  | .saveLog log => some log.deviceId
  | _ => none

/-- A call of a device, with all that it meets besides the store. -/
structure DeviceCall (ω : Type) where
  scene : Scene
  objects : ω
  faults : FaultPlan := []
  call : ModelCall
  device : DeviceId
  sent : call.sender? = some device
  /-- No fault is for the store. -/
  spares : faults.SparesStore := by exact FaultPlan.sparesStore_nil

namespace DeviceCall

variable {ω : Type}

/-- The device with its tenant. -/
def source (a : DeviceCall ω) : TenantId × DeviceId := (a.scene.ctx.partition, a.device)

def act (a : DeviceCall ω) : Act ω := .operation a.scene a.objects a.faults a.call

/-- After a call of another device, a device meets the same as before it. -/
theorem meets_same {s : MemoryStore} (hs : ∀ t, (s.partition t).Consistent) {a b : DeviceCall ω}
    (hapart : a.source ≠ b.source) {e : Option Entry}
    (he : ∀ i ∈ e, i.record.deviceId = a.device ∧
      (s.partition a.scene.ctx.partition).Takes a.scene.now i) :
    let s' := s.withPartition a.scene.ctx.partition
      ((s.partition a.scene.ctx.partition).after e a.scene.now)
    (s'.partition b.scene.ctx.partition).Consistent ∧
      (s.partition b.scene.ctx.partition).SameFor b.device
        (s'.partition b.scene.ctx.partition) := by
  intro s'
  by_cases htenant : b.scene.ctx.partition = a.scene.ctx.partition
  · rw [htenant, MemoryStore.partition_withPartition_self]
    refine ⟨(hs _).after fun i hi => (he i hi).2,
      .of_after (hs _).keyed fun i hi => ⟨?_, (he i hi).2⟩⟩
    intro hdevice
    exact hapart (Prod.ext htenant.symm ((he i hi).1.symm.trans hdevice))
  · rw [MemoryStore.partition_withPartition_of_ne _ _ htenant]
    exact ⟨hs _, .refl ..⟩

variable [LinkIssuer ω]

/-- A call gets one answer, and leaves one entry of its device or none, in all stores where the
device meets the same. -/
theorem decided (a : DeviceCall ω) {p : Partition} (hp : p.Consistent) :
    ∃ x e, ∀ s : MemoryStore, (s.partition a.scene.ctx.partition).Consistent →
      p.SameFor a.device (s.partition a.scene.ctx.partition) →
      (∀ i ∈ e, i.record.deviceId = a.device ∧
        (s.partition a.scene.ctx.partition).Takes a.scene.now i) ∧
      a.act.perform s = (x, s.withPartition a.scene.ctx.partition
        ((s.partition a.scene.ctx.partition).after e a.scene.now)) := by
  obtain ⟨scene, objects, faults, call, device, sent, spares⟩ := a
  have hrun : ModelM.Decided scene device ⟨p, faults, objects⟩
      (call.run : ModelM MemoryStore ω call.Answer) := by
    -- Only three calls have a device as their source.
    cases call with
    | report id sender r =>
      cases sent
      exact ModelM.report_decided (v := ⟨p, faults, objects⟩) hp spares id r
    | poll sender installed =>
      cases sent
      exact ModelM.poll_decided (v := ⟨p, faults, objects⟩) hp spares installed
    | saveLog log =>
      cases sent
      exact ModelM.saveLog_decided (v := ⟨p, faults, objects⟩) hp spares log
    | _ => cases sent
  obtain ⟨x, e, plan, o, hcomes⟩ := hrun
  refine ⟨x, e, fun s hs hsame => ?_⟩
  obtain ⟨htakes, w, hw, -, -, hstore⟩ :=
    hcomes { store := s, objects, faults } ⟨hs, hsame, rfl, rfl⟩
  refine ⟨htakes, ?_⟩
  show Act.perform s (.operation scene objects faults call) = _
  rw [Act.perform, World.perform, hw]
  dsimp only
  rw [hstore]
  rfl

/-- Calls of different devices commute in a store whose parts are consistent. -/
theorem commute {s : MemoryStore} (hs : ∀ t, (s.partition t).Consistent) (a b : DeviceCall ω)
    (hnow : a.scene.now = b.scene.now) (hapart : a.source ≠ b.source) :
    (b.act.perform (a.act.perform s).2).1 = (b.act.perform s).1 ∧
    (a.act.perform (b.act.perform s).2).1 = (a.act.perform s).1 ∧
    (b.act.perform (a.act.perform s).2).2 = (a.act.perform (b.act.perform s).2).2 := by
  obtain ⟨x, e, ha⟩ := a.decided (hs a.scene.ctx.partition)
  obtain ⟨y, f, hb⟩ := b.decided (hs b.scene.ctx.partition)
  obtain ⟨he, hfirst⟩ := ha s (hs _) (.refl ..)
  obtain ⟨hf, hfirst'⟩ := hb s (hs _) (.refl ..)
  -- After the call of one device the store is still the same for the other.
  obtain ⟨hconsistent, hsame⟩ := meets_same hs hapart he
  obtain ⟨hconsistent', hsame'⟩ := meets_same hs hapart.symm hf
  obtain ⟨hthen, hsecond⟩ := hb _ hconsistent hsame
  obtain ⟨hthen', hsecond'⟩ := ha _ hconsistent' hsame'
  rw [hfirst, hfirst']
  dsimp only
  rw [hsecond, hsecond']
  refine ⟨rfl, rfl, ?_⟩
  dsimp only
  by_cases htenant : a.scene.ctx.partition = b.scene.ctx.partition
  · -- Both devices write to one part, under different keys.
    have hkey : ∀ i ∈ e, ∀ j ∈ f, i.record.key ≠ j.record.key := by
      intro i hi j hj hkey
      have hdevice : i.record.deviceId = j.record.deviceId := (Prod.mk.inj hkey).2
      rw [(he i hi).1, (hf j hj).1] at hdevice
      exact hapart (Prod.ext htenant hdevice)
    rw [← htenant, ← hnow] at hthen hthen' hf ⊢
    rw [MemoryStore.partition_withPartition_self] at hthen hthen'
    rw [MemoryStore.partition_withPartition_self, MemoryStore.partition_withPartition_self,
      MemoryStore.withPartition_withPartition, MemoryStore.withPartition_withPartition]
    exact congrArg _ (Partition.after_comm hkey (fun i hi => (he i hi).2)
      (fun j hj => (hf j hj).2) (fun j hj => (hthen j hj).2) fun i hi => (hthen' i hi).2)
  · -- Each device writes to the part of its own tenant.
    rw [MemoryStore.partition_withPartition_of_ne _ _ htenant,
      MemoryStore.partition_withPartition_of_ne _ _ (Ne.symm htenant)]
    exact MemoryStore.withPartition_comm _ _ _ htenant

/-- Two calls of different devices, each a report, a poll or a log, may come in either order after
any run from an empty store. Each gets the same answer, and the deployments, records and logs are
the same in the end, with their counters, and with the finish time if the two calls together bring
all devices of a deployment to rest. The devices may take part in one deployment and have one
tenant or two. The two calls come at one time, each with the catalog, the object storage and the
failures of its own. -/
theorem device_calls_commute {w : World MemoryStore ω} (hstore : w.store = {})
    (hfaults : w.faults.SparesStore) (steps : List Step)
    (hbounded : ∀ step ∈ steps, step.2.Bounded step.1) (first second : DeviceCall ω)
    (hnow : first.scene.now = second.scene.now) (hapart : first.source ≠ second.source) :
    let s := (w.run steps).store
    (second.act.perform (first.act.perform s).2).1 = (second.act.perform s).1 ∧
    (first.act.perform (second.act.perform s).2).1 = (first.act.perform s).1 ∧
    (second.act.perform (first.act.perform s).2).2
      = (first.act.perform (second.act.perform s).2).2 := by
  intro s
  have hsteady : (w.run steps).Steady := (World.Steady.of_empty hstore hfaults).run steps hbounded
  exact commute hsteady.consistent first second hnow hapart

/-- One device reports success, and another one polls with the artifact installed. -/
theorem device_calls_commute_sample :
    let plan : Plan := { name := "all", artifactName := "app", devices := ["left", "right"] }
    let s := (World.sampleWorld.run [(World.sampleScene, .create plan)]).store
    let first : DeviceCall ObjectSite :=
      { scene := World.sampleScene, objects := World.sampleWorld.objects, device := "left"
        call := .report "update" "left" { status := .success }, sent := rfl }
    let second : DeviceCall ObjectSite :=
      { scene := World.sampleScene, objects := World.sampleWorld.objects, device := "right"
        call := .poll "right" { artifactName := "app", deviceType := "board" }, sent := rfl }
    (second.act.perform (first.act.perform s).2).2
        = (first.act.perform (second.act.perform s).2).2 ∧
      (((second.act.perform (first.act.perform s).2).2.partition "").deployments.get? "update").map
        (fun d => (d.finished, d.stats.terminalCount)) = some (some (.ofUnix 0), 2) := by
  intro plan s first second
  have hbounded : ∀ step ∈ [(World.sampleScene, ModelCall.create plan)],
      step.2.Bounded step.1 := by
    intro step hstep
    rw [List.mem_singleton.1 hstep]
    show (World.sampleScene.targets plan).length < 2 ^ 64
    decide
  obtain ⟨-, -, hsame⟩ := device_calls_commute (w := World.sampleWorld) rfl
    FaultPlan.sparesStore_nil _ hbounded first second rfl (by decide)
  exact ⟨hsame, by decide +kernel⟩

end DeviceCall

end Fleet
