import Fleet.Proofs.Model.Runs

/-!
# `Fleet.Proofs.Model.Report`: a report from its checks to its last write

`report_writes_iff` is the main theorem. In every state that a run reaches, the record that is
found for the pair of deployment and device decides what a report comes to:

* News from an active device moves the record, one device between two counters of the deployment
  and, if the last device came to rest, the finish time. Nothing else is written.
* A status that the record has already is taken without a write and without an event, whatever
  the remark says. So the same report again finds nothing to do.
* Any other report is refused by the first rule that it breaks and leaves the world as it is.
-/

set_option autoImplicit false

namespace Fleet

open Fleet.Time

/-- A deployment is given a finish time if it has none and all of its devices are at rest. -/
theorem Deployment.finished_closeAt (d : Deployment) (now : Instant) :
    (d.closeAt now).finished
      = if d.finished = none ∧ d.allDevicesTerminal = true then some now else d.finished := by
  rw [closeAt, isFinished]
  cases hfinished : d.finished with
  | none => cases d.allDevicesTerminal <;> simp [finishAt, hfinished]
  | some t => simp [hfinished]

namespace Partition

variable {p : Partition} {id : DeploymentId} {device : DeviceId} {r : DeviceRecord}
  {d : Deployment} {s : StatusReport} {now : Instant}

/-- The counters and the finish time after news from a device, and what is written. -/
theorem Consistent.exists_afterReport (h : p.Consistent) (now : Instant)
    (hr : p.records.get? (id, device) = some r) (hd : p.deployments.get? id = some d)
    (active : r.status.isActive = true) (reportable : s.status.isReportable = true)
    (changed : r.status ≠ s.status) :
    ∃ stats finished, Stats.Moved r.status s.status d.stats stats ∧
      finished = (if d.finished = none ∧
          ∀ r' ∈ (p.afterReport d r s.status s.substate now).recordsOf id,
            r'.status.isTerminal = true
        then some now else d.finished) ∧
      p.afterReport d r s.status s.substate now
        = (p.withRecord (id, device)
            { r with
              status := s.status
              substate := s.substate
              finished := if s.status.isTerminal then some now else none }).withDeployment id
            { d with stats, finished } := by
  have hkey : r.key = (id, device) := h.keyed.record hr
  have hrid : r.deploymentId = id := (Prod.mk.inj hkey).1
  have hid : d.id = id := h.keyed.deployment hd
  let st : Stats := (p.withRecord (id, device) (r.movedTo s.status s.substate now)).tallyOf id
  have hmoved : Stats.Moved r.status s.status d.stats st :=
    Stats.moved_of_transition changed (h.transition_moved hr hd s.status s.substate now)
  have hafter : p.afterReport d r s.status s.substate now
      = (p.withRecord (id, device) (r.movedTo s.status s.substate now)).withDeployment id
          ((d.withStats st).closeAt now) := by
    rw [afterReport, hkey, hid]
  -- The part stays consistent, so the counters tell whether all devices are at rest.
  have hall : (d.withStats st).allDevicesTerminal = true ↔
      ∀ r' ∈ (p.afterReport d r s.status s.substate now).recordsOf id,
        r'.status.isTerminal = true := by
    have hevolves : p.Evolves now (p.afterReport d r s.status s.substate now) :=
      h.evolves_report (by rw [hkey]; exact hr) (by rw [hrid]; exact hd) _ active reportable
        changed
    have hget : (p.afterReport d r s.status s.substate now).deployments.get? id
        = some ((d.withStats st).closeAt now) := by
      rw [hafter, get?_withDeployment, if_pos rfl]
    rw [← ((h.evolves hevolves).counts hget).allDevicesTerminal_iff,
      Deployment.allDevicesTerminal_closeAt]
  refine ⟨st, ((d.withStats st).closeAt now).finished, hmoved, ?_, ?_⟩
  · rw [Deployment.finished_closeAt]
    exact if_congr (and_congr_right fun _ => hall) rfl rfl
  · rw [hafter, Deployment.closeAt]
    split <;> rfl

/-- News from a device is what its record says afterwards. -/
theorem Consistent.record_afterReport (h : p.Consistent)
    (hr : p.records.get? (id, device) = some r) (d : Deployment) (s : StatusReport)
    (now : Instant) :
    (p.afterReport d r s.status s.substate now).records.get? (id, device)
      = some (r.movedTo s.status s.substate now) := by
  rw [afterReport, records_withDeployment, get?_withRecord, if_pos (h.keyed.record hr)]

/-- News changes the part. -/
theorem Consistent.afterReport_ne (h : p.Consistent)
    (hr : p.records.get? (id, device) = some r) (changed : r.status ≠ s.status) :
    p.afterReport d r s.status s.substate now ≠ p := by
  intro hsame
  have hmoved := h.record_afterReport hr d s now
  rw [hsame, hr] at hmoved
  exact changed (congrArg DeviceRecord.status (Option.some.inj hmoved))

end Partition

namespace ModelM

variable {ω : Type} {scene : Scene} {w : World MemoryStore ω} {id : DeploymentId}
  {device : DeviceId} {s : StatusReport} {r : DeviceRecord}

/-- A report of the status that the record has finds nothing to do. -/
theorem report_again (hfaults : w.faults.SparesStore)
    (hr : (w.part scene.ctx.partition).records.get? (id, device) = some r)
    (reportable : s.status.isReportable = true) (same : r.status = s.status) {s' : StatusReport}
    (hfits : s'.Fits) (hstatus : s'.status = s.status) :
    (report id device s' : ModelM MemoryStore ω _) scene w = (.ok (), w) := by
  have hsame : r.status = s'.status := by rw [hstatus, same]
  have haccepted : s'.Accepted r := by
    refine ⟨hfits, ?_, .inl hsame⟩
    rw [hstatus]
    exact reportable
  exact report_repeated hfaults hr haccepted hsame

end ModelM

namespace World

variable {ω : Type} {scene : Scene} {w : World MemoryStore ω} {id : DeploymentId}
  {device : DeviceId} {s : StatusReport}

/-- What comes of a report where nothing fails: it is refused, it finds nothing to do, or it is
written. -/
inductive Reported (scene : Scene) (w : World MemoryStore ω) (id : DeploymentId)
    (device : DeviceId) (s : StatusReport) :
    Except ModelError Unit × World MemoryStore ω → Prop where
  | refused {e : ModelError}
      (broken : s.Refused ((w.part scene.ctx.partition).records.get? (id, device)) e) :
      Reported scene w id device s (.error e, w)
  | repeated {r : DeviceRecord}
      (found : (w.part scene.ctx.partition).records.get? (id, device) = some r)
      (accepted : s.Accepted r) (same : r.status = s.status) :
      Reported scene w id device s (.ok (), w)
  | news {r : DeviceRecord} {d : Deployment} {calls : List StoreCall} {events : List AuditEvent}
      (found : (w.part scene.ctx.partition).records.get? (id, device) = some r)
      (owner : (w.part scene.ctx.partition).deployments.get? id = some d)
      (accepted : s.Accepted r) (changed : r.status ≠ s.status) :
      Reported scene w id device s (.ok (), w.turn scene.ctx.partition
        ((w.part scene.ctx.partition).afterReport d r s.status s.substate scene.now) calls events)

/-- Every report over a consistent part is news that is written, a repetition, or a refusal without
a trace. -/
theorem reported (hfaults : w.faults.SparesStore)
    (hconsistent : (w.part scene.ctx.partition).Consistent) :
    Reported scene w id device s
      ((ModelM.report id device s : ModelM MemoryStore ω _) scene w) := by
  rcases s.refused_or_accepted ((w.part scene.ctx.partition).records.get? (id, device)) with
    ⟨e, hrefused⟩ | ⟨r, hr, haccepted⟩
  · rw [ModelM.report_refused hfaults rfl hrefused]
    exact .refused hrefused
  · by_cases same : r.status = s.status
    · rw [ModelM.report_repeated hfaults hr haccepted same]
      exact .repeated hr haccepted same
    · obtain ⟨d, hd⟩ := hconsistent.owned hr
      obtain ⟨calls, hmove⟩ := ModelM.moveRecord_run hfaults rfl hconsistent hr hd s
      rw [ModelM.report_news hfaults hr haccepted same, hmove]
      exact .news hr hd haccepted same

namespace Reported

variable {x : Except ModelError Unit × World MemoryStore ω} (h : Reported scene w id device s x)
include h

/-- A report that fails was refused by the rule that it broke, and the world is as it was. -/
theorem of_error {e : ModelError} (he : x.1 = .error e) :
    s.Refused ((w.part scene.ctx.partition).records.get? (id, device)) e ∧ x.2 = w := by
  cases h with
  | refused broken =>
    cases he
    exact ⟨broken, rfl⟩
  | repeated => cases he
  | news => cases he

/-- News is written. -/
theorem of_news {r : DeviceRecord}
    (hr : (w.part scene.ctx.partition).records.get? (id, device) = some r) (accepted : s.Accepted r)
    (changed : r.status ≠ s.status) :
    ∃ d calls events, (w.part scene.ctx.partition).deployments.get? id = some d ∧
      x = (.ok (), w.turn scene.ctx.partition
        ((w.part scene.ctx.partition).afterReport d r s.status s.substate scene.now) calls
        events) := by
  cases h with
  | refused broken =>
    rw [hr] at broken
    exact absurd accepted broken.not_accepted
  | repeated found accepted same =>
    rw [hr] at found
    cases found
    exact absurd same changed
  | news found owner =>
    rw [hr] at found
    cases found
    exact ⟨_, _, _, owner, rfl⟩

/-- Only news is written. -/
theorem store_ne_iff (hconsistent : (w.part scene.ctx.partition).Consistent) :
    x.2.store ≠ w.store ↔
      ∃ r, (w.part scene.ctx.partition).records.get? (id, device) = some r ∧ s.Accepted r ∧
        r.status ≠ s.status := by
  constructor
  · intro hne
    cases h with
    | refused => exact absurd rfl hne
    | repeated => exact absurd rfl hne
    | news found owner accepted changed => exact ⟨_, found, accepted, changed⟩
  · rintro ⟨r, hr, accepted, changed⟩ hsame
    obtain ⟨d, calls, events, -, rfl⟩ := h.of_news hr accepted changed
    exact hconsistent.afterReport_ne hr changed ((part_turn ..).symm.trans
      (congrArg (fun m : MemoryStore => m.partition scene.ctx.partition) hsame))

/-- Nothing happens exactly if the record has the status already. -/
theorem eq_ok_iff (hconsistent : (w.part scene.ctx.partition).Consistent) :
    x = (.ok (), w) ↔
      ∃ r, (w.part scene.ctx.partition).records.get? (id, device) = some r ∧ s.Accepted r ∧
        r.status = s.status := by
  constructor
  · intro hx
    have hsame : ¬x.2.store ≠ w.store := fun hne => hne (by rw [hx])
    rw [h.store_ne_iff hconsistent] at hsame
    cases h with
    | refused => cases hx
    | repeated found accepted same => exact ⟨_, found, accepted, same⟩
    | news found owner accepted changed => exact absurd ⟨_, found, accepted, changed⟩ hsame
  · rintro ⟨r, hr, accepted, same⟩
    cases h with
    | refused broken =>
      rw [hr] at broken
      exact absurd accepted broken.not_accepted
    | repeated => rfl
    | news found owner accepted changed =>
      rw [hr] at found
      cases found
      exact absurd same changed

/-- After a report that was taken the record has the status. -/
theorem record (hconsistent : (w.part scene.ctx.partition).Consistent) (hok : x.1 = .ok ()) :
    s.status.isReportable = true ∧
      ∃ r, (x.2.part scene.ctx.partition).records.get? (id, device) = some r ∧
        r.status = s.status := by
  cases h with
  | refused => cases hok
  | repeated found accepted same => exact ⟨accepted.reportable, _, found, same⟩
  | @news r d calls events found owner accepted changed =>
    have hmoved := hconsistent.record_afterReport found d s scene.now
    rw [part_turn]
    exact ⟨accepted.reportable, _, hmoved, rfl⟩

end Reported

variable [LinkIssuer ω]

/-- In every state that a run reaches, a report changes the store exactly if it is news. Then it
writes the record, moves one device between two counters and sets the finish time if that is due. A
report of the status that the record has is taken without a trace, and so is every accepted report
when it is repeated. All other reports are refused without a trace. -/
theorem report_writes_iff (hstore : w.store = {}) (hfaults : w.faults.SparesStore)
    (steps : List Step) (hbounded : ∀ step ∈ steps, step.2.Bounded step.1) (scene : Scene)
    (id : DeploymentId) (device : DeviceId) (s : StatusReport) :
    let start := w.run steps
    let tenant := scene.ctx.partition
    let p := start.part tenant
    let found := p.records.get? (id, device)
    let x := start.perform scene (.report id device s)
    (x.2.store ≠ start.store ↔
      s.Fits ∧ s.status ≠ .aborted ∧ s.status ≠ .decommissioned ∧
        ∃ r, found = some r ∧ r.status.isActive = true ∧ r.status ≠ s.status) ∧
    (x.2.store ≠ start.store → x.1 = .ok () ∧ ∃ r d stats finished,
      found = some r ∧ p.deployments.get? id = some d ∧
      Stats.Moved r.status s.status d.stats stats ∧
      finished = (if d.finished = none ∧
          ∀ r' ∈ (x.2.part tenant).recordsOf id, r'.status.isTerminal = true
        then some scene.now else d.finished) ∧
      x.2.store = start.store.withPartition tenant
        ((p.withRecord (id, device)
          { r with
            status := s.status
            substate := s.substate
            finished := if s.status.isTerminal then some scene.now else none }).withDeployment id
          { d with stats, finished })) ∧
    (x = (.ok (), start) ↔
      s.Fits ∧ s.status ≠ .aborted ∧ s.status ≠ .decommissioned ∧
        ∃ r, found = some r ∧ r.status = s.status) ∧
    (x.1 = .ok () → ∀ (scene' : Scene) (s' : StatusReport), scene'.ctx.partition = tenant →
      s'.Fits → s'.status = s.status →
      x.2.perform scene' (.report id device s') = (.ok (), x.2)) ∧
    (∀ e, x.1 = .error e ↔ s.Refused found e) ∧
    (∀ e, x.1 = .error e → x.2 = start) := by
  intro start tenant p found x
  have hsteady : start.Steady := (Steady.of_empty hstore hfaults).run steps hbounded
  have hconsistent : p.Consistent := hsteady.consistent tenant
  have hreported : Reported scene start id device s x := reported hsteady.spares hconsistent
  have hnews := hreported.store_ne_iff hconsistent
  -- The conditions of the text are those of news and of a repeated report.
  rw [← StatusReport.exists_news_iff, ← StatusReport.exists_repeated_iff]
  refine ⟨hnews, fun hne => ?_, hreported.eq_ok_iff hconsistent,
    fun hok scene' s' hscene hfits hstatus => ?_, fun e => ⟨fun he => (hreported.of_error he).1,
    fun he => ?_⟩, fun e he => (hreported.of_error he).2⟩
  · obtain ⟨r, hr, haccepted, changed⟩ := hnews.1 hne
    obtain ⟨d, calls, events, hd, hx⟩ := hreported.of_news hr haccepted changed
    obtain ⟨stats, finished, hmoved, hfinished, hafter⟩ := hconsistent.exists_afterReport scene.now
      hr hd (haccepted.movable.resolve_left changed) haccepted.reportable changed
    rw [hx, part_turn]
    refine ⟨rfl, r, d, stats, finished, hr, hd, hmoved, hfinished, ?_⟩
    rw [← hafter]
    rfl
  · obtain ⟨hreportable, r, hr, hsame⟩ := hreported.record hconsistent hok
    -- A repeated report asks the store, so what is left of the plan must spare it too.
    have hspares : x.2.faults.SparesStore :=
      (perform_effect hsteady.spares hconsistent (.report id device s) trivial).spares
    have hr' : (x.2.part scene'.ctx.partition).records.get? (id, device) = some r := by
      rw [hscene]
      exact hr
    exact ModelM.report_again hspares hr' hreportable hsame hfits hstatus
  · exact congrArg Prod.fst (ModelM.report_refused hsteady.spares rfl he)

/-- The last report of a deployment finishes it, and a second one like it finds nothing to do. -/
theorem report_writes_iff_sample :
    let start := sampleWorld.run (sampleSteps.take 2)
    let x := start.perform sampleScene (.report "update" "left" { status := .success })
    x.2.store ≠ start.store ∧ x.1 = .ok () ∧
      x.2.perform sampleScene (.report "update" "left" { status := .success, substate := some "x" })
        = (.ok (), x.2) := by
  have hbounded : ∀ step ∈ sampleSteps.take 2, step.2.Bounded step.1 := fun step hstep =>
    admissible_sampleSteps.forall_bounded step (List.mem_of_mem_take hstep)
  obtain ⟨hiff, hwrites, -, hagain, -⟩ := report_writes_iff (w := sampleWorld) rfl
    FaultPlan.sparesStore_nil (sampleSteps.take 2) hbounded sampleScene "update" "left"
    { status := .success }
  have hwritten := hiff.2 ⟨by rintro _ ⟨⟩, by decide, by decide, _, rfl, rfl, by decide⟩
  obtain ⟨hok, -⟩ := hwrites hwritten
  exact ⟨hwritten, hok, hagain hok _ _ rfl (by rintro _ ⟨⟩; decide) rfl⟩

end World

end Fleet
