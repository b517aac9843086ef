import Fleet.Proofs.Model.Attempt
import Fleet.Proofs.Model.Trail

/-!
# `Fleet.Proofs.Model.Retry`: what a repetition repairs

A report and a removal of a device write several times, and a failure of the data store can fall
between two writes. A caller that is told of the failure may repeat the operation until it is
answered. Whether that brings the store in order depends on how far the failed attempts came:

* An attempt that wrote nothing leaves everything to the repetition, which then does all of it.
* Any write of an attempt puts the records where the operation wants them. The repetition finds
  nothing to do, answers, and changes nothing (`Settled`). So what the failed attempt had not
  written stays unwritten: the counters are not those of the records, or a deployment whose
  devices are all at rest has no finish time.

`Prospect` holds what can be said of one attempt, in the same words for both operations, and
`Prospect.run` follows any number of attempts. `retry_repairs_iff` is the main theorem: the store
is in order after the repetition exactly if the attempts before it wrote nothing or everything.
`retry_leaves_damage` shows both operations miss it.
-/

set_option autoImplicit false

namespace Fleet

open Fleet.Time

/-- A counter that gave one of its devices to another has changed. -/
theorem Stats.ne_of_transition {st st' : Stats} {old new : DeviceStatus} (hne : old ≠ new)
    (h : st.transition old new = .ok st') : st' ≠ st := by
  have hlost := (moved_of_transition hne h).lost
  rintro rfl
  omega

namespace Partition

/-! ### Parts in order -/

/-- A part is in order beside the part that an operation was meant to leave. -/
structure Repaired (p goal : Partition) : Prop where
  /-- The counters of every deployment are those of its records. -/
  counted : ∀ {id d}, p.deployments.get? id = some d →
    Stats.ofStatuses (statuses (p.recordsOf id)) = .ok d.stats
  /-- A deployment that was meant to be finished is finished. -/
  finished : ∀ {id d}, goal.deployments.get? id = some d → d.isFinished = true →
    ∃ d', p.deployments.get? id = some d' ∧ d'.isFinished = true

variable {p q goal : Partition} {id : DeploymentId} {device : DeviceId} {d : Deployment}
  {r : DeviceRecord} {s : StatusReport} {now now' : Instant}

/-- A consistent part is in order: counters and finish times fit the records. -/
theorem Consistent.repaired (h : p.Consistent) : p.Repaired p where
  counted hd := (h.counts hd).ofStatuses
  finished hd hfinished := ⟨_, hd, hfinished⟩

/-- Counters that are right are the tally of the records. -/
theorem Repaired.stats (h : q.Repaired goal) (hd : q.deployments.get? id = some d)
    (hbounded : (q.recordsOf id).length < 2 ^ 64) : d.stats = q.tallyOf id := by
  have hcounted := h.counted hd
  rw [Stats.ofStatuses_eq_tally (by rw [length_statuses]; exact hbounded)] at hcounted
  exact (Except.ok.inj hcounted).symm

/-! ### Reports -/

/-- Moving a record leaves as many records, so they can still be counted. -/
theorem length_recordsOf_withMoved (h : p.Consistent) (hr : p.records.get? (id, device) = some r) :
    ((p.withMoved r s now).recordsOf id).length < 2 ^ 64 := by
  have hkey : r.key = (id, device) := h.keyed.record hr
  have hrid : r.deploymentId = id := (Prod.mk.inj hkey).1
  rw [← hkey] at hr
  obtain ⟨others, before, after⟩ := recordsOf_withRecord hr
    (show (r.movedTo s.status s.substate now).deploymentId = r.deploymentId from rfl)
  rw [hrid] at before after
  have hbounded := h.bounded id
  rw [before.length_eq] at hbounded
  rw [withMoved, after.length_eq]
  exact hbounded

/-- The counters can follow a record that has moved, since its old status was counted. -/
theorem transition_withMoved (h : p.Consistent) (hr : p.records.get? (id, device) = some r)
    (hd : p.deployments.get? id = some d) :
    d.stats.transition r.status s.status = .ok ((p.withMoved r s now).tallyOf id) := by
  rw [withMoved, h.keyed.record hr]
  exact h.transition_moved hr hd s.status s.substate now

/-- When a report is taken does not matter for the counters. -/
theorem tallyOf_withMoved (now now' : Instant) (h : p.Consistent)
    (hr : p.records.get? (id, device) = some r) (hd : p.deployments.get? id = some d) :
    (p.withMoved r s now').tallyOf id = (p.withMoved r s now).tallyOf id :=
  Except.ok.inj ((transition_withMoved h hr hd).symm.trans (transition_withMoved h hr hd))

/-- A record that has moved has nothing to move any more. -/
theorem not_moves (h : p.Consistent) (hr : p.records.get? (id, device) = some r)
    (hq : q.records = (p.withMoved r s now).records) (r' : DeviceRecord) :
    ¬q.Moves id device s r' := by
  intro hmoves
  have hfound := hmoves.record
  rw [hq, withMoved, h.keyed.record hr, get?_withRecord, if_pos rfl] at hfound
  cases hfound
  exact hmoves.changed rfl

/-- A record without its count is not in order. -/
theorem not_repaired_withMoved (h : p.Consistent) (hmoves : p.Moves id device s r)
    (hd : p.deployments.get? id = some d) : ¬(p.withMoved r s now).Repaired goal := by
  intro hrepaired
  have hstats := hrepaired.stats (d := d) hd (length_recordsOf_withMoved h hmoves.record)
  exact Stats.ne_of_transition hmoves.changed (transition_withMoved h hmoves.record hd) hstats.symm

/-- After a report its deployment has the counters of the records and is closed if all are at rest.
The other ones stay. -/
theorem get?_afterReport (h : p.Consistent) (hd : p.deployments.get? id = some d)
    (id' : DeploymentId) : (p.afterReport d r s.status s.substate now).deployments.get? id'
      = if id = id' then some ((d.withStats ((p.withMoved r s now).tallyOf id)).closeAt now)
        else p.deployments.get? id' := by
  rw [afterReport, get?_withDeployment, h.keyed.deployment hd]
  rfl

/-- When a report is taken does not matter for what it finishes. -/
theorem repaired_afterReport (h : p.Consistent) (hmoves : p.Moves id device s r)
    (hd : p.deployments.get? id = some d) :
    (p.afterReport d r s.status s.substate now).Repaired
      (p.afterReport d r s.status s.substate now') := by
  have hkey : r.key = (id, device) := h.keyed.record hmoves.record
  have hrid : r.deploymentId = id := (Prod.mk.inj hkey).1
  have hafter : (p.afterReport d r s.status s.substate now).Consistent :=
    h.evolves (h.evolves_report (by rw [hkey]; exact hmoves.record) (by rw [hrid]; exact hd)
      s.substate hmoves.active hmoves.reportable hmoves.changed)
  refine ⟨fun hd' => hafter.repaired.counted hd', fun {id' d'} hd' hfinished => ?_⟩
  rw [get?_afterReport h hd] at hd' ⊢
  by_cases hid : id = id'
  · rw [if_pos hid] at hd' ⊢
    cases hd'
    refine ⟨_, rfl, ?_⟩
    rw [Deployment.isFinished_closeAt, tallyOf_withMoved now _ h hmoves.record hd]
      at hfinished
    rw [Deployment.isFinished_closeAt]
    exact hfinished
  · rw [if_neg hid] at hd' ⊢
    exact ⟨d', hd', hfinished⟩

/-- Record and counters without a finish time that is due are not in order, and are all there
is to write if none is due. -/
theorem withMovedCount_cases (now : Instant) (h : p.Consistent) (hmoves : p.Moves id device s r)
    (hd : p.deployments.get? id = some d) :
    p.withMovedCount d r s now = p.afterReport d r s.status s.substate now ∨
    ∀ now', ¬(p.withMovedCount d r s now).Repaired
      (p.afterReport d r s.status s.substate now') := by
  have hid : d.id = id := h.keyed.deployment hd
  have hcounted : (p.withMovedCount d r s now).deployments.get? id
      = some (d.withStats ((p.withMoved r s now).tallyOf id)) := by
    rw [withMovedCount, get?_withDeployment, if_pos hid, hid]
  -- What is left to do is the finish time, if one is due.
  cases hdue : !(d.withStats ((p.withMoved r s now).tallyOf id)).isFinished &&
      (d.withStats ((p.withMoved r s now).tallyOf id)).allDevicesTerminal with
  | false =>
    refine .inl ?_
    rw [withMovedCount, afterReport, hid, Deployment.closeAt]
    show _ = (p.withMoved r s now).withDeployment id (if _ then _ else _)
    rw [← withMoved, hdue, if_neg Bool.false_ne_true]
  | true =>
    refine .inr fun now' hrepaired => ?_
    obtain ⟨hopen, hdone⟩ := Bool.and_eq_true_iff.1 hdue
    have hgoal : (p.afterReport d r s.status s.substate now').deployments.get? id = _ :=
      get?_afterReport h hd id
    rw [if_pos rfl, tallyOf_withMoved now _ h hmoves.record hd] at hgoal
    obtain ⟨d', hd', hfinished⟩ := hrepaired.finished hgoal (by
      rw [Deployment.isFinished_closeAt, hdone, Bool.or_true])
    rw [hcounted] at hd'
    cases hd'
    simp [hfinished] at hopen

/-! ### Taking a device out of service -/

/-- Once the records of a device are at rest it has no work to do. -/
theorem affected_eq_nil
    (hq : q.records = (p.stopRecords (·.deviceId = device) .decommissioned now).records) :
    q.affected device = [] := by
  refine List.eq_nil_iff_forall_not_mem.2 fun id hid => ?_
  obtain ⟨r, hr, hdevice, hactive⟩ := mem_affected.1 hid
  rw [recordsOf, hq, ← recordsOf, recordsOf_stopRecords] at hr
  obtain ⟨r₀, -, rfl⟩ := List.mem_map.1 hr
  have hown : r₀.deviceId = device := by
    rw [← hdevice]
    exact (congrArg Prod.snd (DeviceRecord.key_stopIf ..)).symm
  rw [DeviceRecord.status_stopIf] at hactive
  cases hbefore : r₀.status.isActive <;> simp [hown, hbefore] at hactive
  cases hactive

/-- A stop leaves fewer records active. -/
theorem countP_isActive_stop {l : List DeviceRecord} (hr : r ∈ l) (hdevice : r.deviceId = device)
    (hactive : r.status.isActive = true) :
    (statuses (l.map fun r => r.stopIf (r.deviceId = device) .decommissioned now)).countP
      (·.isActive) < (statuses l).countP (·.isActive) := by
  -- No record becomes active, and the one of the device does not stay so.
  have hrest (r : DeviceRecord) : (r.stopIf (r.deviceId = device) .decommissioned
      now).status.isActive = true → r.status.isActive = true := by
    intro hstopped
    rw [DeviceRecord.status_stopIf] at hstopped
    split at hstopped
    · cases hstopped
    · exact hstopped
  have hstop : (r.stopIf (r.deviceId = device) .decommissioned now).status.isActive = false := by
    rw [DeviceRecord.status_stopIf, hdevice, hactive]
    simp [DeviceStatus.isActive]
  obtain ⟨before, after, rfl⟩ := List.append_of_mem hr
  have hbefore := List.countP_mono_left (l := before) fun r _ => hrest r
  have hafter := List.countP_mono_left (l := after) fun r _ => hrest r
  simp only [statuses, List.map_map, List.countP_map, List.countP_append, List.countP_cons,
    Function.comp_def, hactive, hstop, if_true, Bool.false_eq_true, if_false]
  omega

/-- A deployment that was missed after a stop is not in order. -/
theorem not_repaired_stop (h : p.Consistent) {before after : List DeploymentId}
    (split : p.affected device = before ++ after) (missed : after ≠ []) :
    ¬(before.foldl (fun p id => p.recounted id now)
      (p.stopRecords (·.deviceId = device) .decommissioned now)).Repaired goal := by
  intro hrepaired
  obtain ⟨id, hid⟩ := List.exists_mem_of_ne_nil after missed
  have haffected : id ∈ p.affected device := by
    rw [split]
    exact List.mem_append_right _ hid
  have hfresh : id ∉ before := by
    have hnodup := p.nodup_affected device
    rw [split] at hnodup
    intro hmem
    exact List.disjoint_of_nodup_append hnodup hmem hid
  obtain ⟨r, hr, hdevice, hactive⟩ := mem_affected.1 haffected
  obtain ⟨d, hd⟩ := h.owned ((mem_recordsOf h.keyed).1 hr)
  obtain ⟨hrecords, hget⟩ := foldl_recounted
    (p.stopRecords (·.deviceId = device) .decommissioned now) before now
  have hmissed := hget id
  rw [if_neg hfresh, deployments_stopRecords] at hmissed
  have hrecordsOf := recordsOf_stopRecords p (·.deviceId = device) .decommissioned now id
  rw [recordsOf, ← hrecords, ← recordsOf] at hrecordsOf
  have hbounded := (h.counts hd).bounded
  -- The counters still count the record of the device among the active ones.
  have hstats := hrepaired.stats (hmissed.trans hd) (by
    rw [hrecordsOf, List.length_map]
    exact hbounded)
  rw [tallyOf, hrecordsOf, (h.counts hd).stats] at hstats
  have hactives := congrArg (fun st => st.activeCount.toNat) hstats
  dsimp only [Stats.activeCount] at hactives
  rw [Stats.toNat_sum_tally (by rw [length_statuses]; exact hbounded),
    Stats.toNat_sum_tally (by rw [length_statuses, List.length_map]; exact hbounded)] at hactives
  exact absurd hactives.symm (Nat.ne_of_lt (countP_isActive_stop hr hdevice hactive))

/-- When a device is taken out of service does not matter for what that finishes. -/
theorem repaired_afterDecommission (h : p.Consistent) :
    (p.afterDecommission device now).Repaired (p.afterDecommission device now') := by
  have hafter : (p.afterDecommission device now).Consistent :=
    h.evolves (h.evolves_decommission device)
  refine ⟨fun hd' => hafter.repaired.counted hd', fun {id d'} hd' hfinished => ?_⟩
  rw [get?_afterDecommission] at hd' ⊢
  by_cases hid : id ∈ p.affected device
  · rw [if_pos hid] at hd' ⊢
    obtain ⟨d, hd, -⟩ := Option.map_eq_some_iff.1 hd'
    rw [hd]
    exact ⟨_, rfl, rfl⟩
  · rw [if_neg hid] at hd' ⊢
    exact ⟨d', hd', hfinished⟩

end Partition

/-! ### One attempt -/

section

variable (ω : Type) [LinkIssuer ω]

/-- Attempts at an operation change nothing any more. -/
def Settled (c : ModelCall) (p : Partition) : Prop :=
  ∀ scene, ModelM.Ends (ω := ω) scene p c.run fun _ p' => p' = p

/-- What an attempt at an operation leaves of a part, where the operation is meant to leave
`goal`. -/
inductive AttemptLeaves (c : ModelCall) (p : Partition) (goal : Scene → Partition)
    (scene : Scene) : Except ModelError c.Answer → Partition → Prop where
  /-- Nothing was written. If the attempt is answered, nothing had to be. -/
  | nothing {x : Except ModelError c.Answer}
      (idle : ∀ a, x = .ok a → ∀ s, p.Repaired (goal s)) : AttemptLeaves c p goal scene x p
  /-- Everything was written. -/
  | everything {x : Except ModelError c.Answer} (settled : Settled ω c (goal scene)) :
      AttemptLeaves c p goal scene x (goal scene)
  /-- Some of it was written, and what is missing will not be. -/
  | something {e : ModelError} {q : Partition} (settled : Settled ω c q)
      (broken : ∀ s, ¬q.Repaired (goal s)) : AttemptLeaves c p goal scene (.error e) q

/-- What is known of attempts at an operation that is meant to leave `goal` of a part `p`. -/
structure Prospect (c : ModelCall) (p : Partition) (goal : Scene → Partition) : Prop where
  /-- Where no call of the store fails the operation leaves what it is meant to leave. -/
  flawless : ∀ scene (w : World MemoryStore ω), w.faults.SparesStore →
    w.part scene.ctx.partition = p →
    (w.perform scene c).2.store = w.store.withPartition scene.ctx.partition (goal scene)
  /-- That is in order, whenever it is done. -/
  inOrder : ∀ scene scene', (goal scene).Repaired (goal scene')
  /-- An attempt writes nothing, everything, or too little for good. -/
  attempt : ∀ scene, ModelM.Ends (ω := ω) scene p c.run (AttemptLeaves ω c p goal scene)

variable {ω} {p q : Partition} {id : DeploymentId} {device : DeviceId} {s : StatusReport}

/-- A report that has nothing to move answers and changes nothing, or is refused. -/
theorem settled_report (h : ∀ r, ¬p.Moves id device s r) : Settled ω (.report id device s) p :=
  fun _ => ModelM.report_idle h

/-- A device without work can be taken out of service again, and nothing changes. -/
theorem settled_decommission (h : p.affected device = []) : Settled ω (.decommission device) p :=
  fun _ => ModelM.decommission_idle h

/-- Reports of a device without a record to move. -/
theorem prospect_idle_report (h : p.Consistent) (hidle : ∀ r, ¬p.Moves id device s r) :
    Prospect ω (.report id device s) p fun _ => p where
  flawless scene w _ hw := by
    obtain ⟨p', hstore, rfl⟩ := settled_report (ω := ω) hidle scene w hw
    exact hstore
  inOrder _ _ := h.repaired
  attempt scene := (settled_report hidle scene).mono fun x p' same => by
    subst same
    exact .nothing fun _ _ _ => h.repaired

/-- Reports of a device with a record to move. -/
theorem prospect_report (h : p.Consistent) {r : DeviceRecord} {d : Deployment}
    (hmoves : p.Moves id device s r) (hd : p.deployments.get? id = some d) :
    Prospect ω (.report id device s) p fun scene =>
      p.afterReport d r s.status s.substate scene.now where
  flawless scene w hfaults hw := by
    obtain ⟨calls, hrun⟩ := ModelM.report_moves hfaults hw h hmoves.valid hmoves.record hd
      hmoves.active hmoves.reportable hmoves.changed
    exact congrArg (fun x => x.2.store) hrun
  inOrder _ _ := Partition.repaired_afterReport h hmoves hd
  attempt scene := by
    refine (ModelM.report_ends h hmoves hd).mono fun x p' hleaves => ?_
    -- The record has moved with the first write, whatever comes after it.
    have hsettled {q : Partition} (hq : q.records = (p.withMoved r s scene.now).records) :
        Settled ω (.report id device s) q :=
      settled_report (Partition.not_moves h hmoves.record hq)
    cases hleaves with
    | nothing => exact .nothing fun _ hok => nomatch hok
    | recorded =>
      exact .something (hsettled rfl) fun _ => Partition.not_repaired_withMoved h hmoves hd
    | counted =>
      rcases Partition.withMovedCount_cases scene.now h hmoves hd with hall | hbroken
      · rw [hall]
        exact .everything (hsettled rfl)
      · exact .something (hsettled rfl) fun s => hbroken s.now
    | everything => exact .everything (hsettled rfl)

/-- What can be said of one attempt to take a device out of service. -/
theorem prospect_decommission (h : p.Consistent) (device : DeviceId) :
    Prospect ω (.decommission device) p fun scene => p.afterDecommission device scene.now where
  flawless scene w hfaults hw := by
    obtain ⟨calls, hrun⟩ := ModelM.decommission_run hfaults hw h device
    exact congrArg (fun x => x.2.store) hrun
  inOrder _ _ := Partition.repaired_afterDecommission h
  attempt scene := by
    refine (ModelM.decommission_ends h device).mono fun x p' hleaves => ?_
    -- The records are at rest with the first write.
    have hsettled (ids : List DeploymentId) : Settled ω (.decommission device)
        (ids.foldl (fun p id => p.recounted id scene.now)
          (p.stopRecords (·.deviceId = device) .decommissioned scene.now)) :=
      settled_decommission (Partition.affected_eq_nil (Partition.foldl_recounted _ _ _).1)
    cases hleaves with
    | nothing => exact .nothing fun _ hok => nomatch hok
    | counted split missed =>
      exact .something (hsettled _) fun _ => Partition.not_repaired_stop h split missed
    | everything => exact .everything (hsettled _)

end

/-! ### Repeated attempts -/

/-- What attempts in some scenes leave, one after the other. -/
inductive AttemptsLeave (ω : Type) [LinkIssuer ω] (c : ModelCall) (p : Partition)
    (goal : Scene → Partition) (scenes : List Scene) : Partition → Prop where
  | nothing : AttemptsLeave ω c p goal scenes p
  | everything {scene : Scene} (mem : scene ∈ scenes) (settled : Settled ω c (goal scene)) :
      AttemptsLeave ω c p goal scenes (goal scene)
  | something {q : Partition} (settled : Settled ω c q) (broken : ∀ s, ¬q.Repaired (goal s)) :
      AttemptsLeave ω c p goal scenes q

section

variable {ω : Type} [LinkIssuer ω] {c : ModelCall} {p q : Partition} {goal : Scene → Partition}
  {tenant : TenantId}

/-- A settled operation leaves the store as it is, whoever performs it. -/
theorem Settled.store_perform (h : Settled ω c q) {scene : Scene} {w : World MemoryStore ω}
    (hw : w.part scene.ctx.partition = q) : (w.perform scene c).2.store = w.store := by
  obtain ⟨q', hstore, rfl⟩ := h scene w hw
  rwa [← hw, World.part, MemoryStore.withPartition_partition] at hstore

/-- Further attempts leave a settled part. -/
theorem Settled.run (h : Settled ω c q) (scenes : List Scene)
    (hscenes : ∀ s ∈ scenes, s.ctx.partition = tenant) {w : World MemoryStore ω}
    (hw : w.part tenant = q) : (w.run (scenes.map (·, c))).store = w.store := by
  induction scenes generalizing w with
  | nil => rfl
  | cons scene rest ih =>
    obtain rfl := hscenes scene List.mem_cons_self
    have hstore := h.store_perform hw
    have hpart : (w.perform scene c).2.part scene.ctx.partition = q := by
      rw [← hw, World.part, World.part, hstore]
    exact (ih (fun s hs => hscenes s (List.mem_cons_of_mem _ hs)) hpart).trans hstore

/-- Attempts leave nothing but what one of them leaves, as long as it is the first that
writes. -/
theorem Prospect.run (h : Prospect ω c p goal) (scenes : List Scene)
    (hscenes : ∀ s ∈ scenes, s.ctx.partition = tenant) {w : World MemoryStore ω}
    (hw : w.part tenant = p) :
    ∃ q, (w.run (scenes.map (·, c))).store = w.store.withPartition tenant q ∧
      AttemptsLeave ω c p goal scenes q := by
  induction scenes generalizing w with
  | nil =>
    refine ⟨p, ?_, .nothing⟩
    simp [World.run, ← hw, World.part]
  | cons scene rest ih =>
    obtain rfl := hscenes scene List.mem_cons_self
    have hrest : ∀ s ∈ rest, s.ctx.partition = scene.ctx.partition := fun s hs =>
      hscenes s (List.mem_cons_of_mem _ hs)
    obtain ⟨q, hstore, hleaves⟩ := h.attempt scene w hw
    generalize (c.run scene w).1 = x at hleaves
    have hpart : (w.perform scene c).2.part scene.ctx.partition = q := by
      rw [World.part]
      exact (congrArg (fun s : MemoryStore => s.partition _) hstore).trans
        (MemoryStore.partition_withPartition_self ..)
    have hrun : w.run ((scene :: rest).map (·, c))
        = (w.perform scene c).2.run (rest.map (·, c)) := rfl
    rw [hrun]
    cases hleaves with
    | nothing idle =>
      -- The next attempt starts where this one did.
      obtain ⟨q, hstore', hleaves⟩ := ih hrest hpart
      refine ⟨q, ?_, ?_⟩
      · rw [hstore', show (w.perform scene c).2.store = _ from hstore]
        exact MemoryStore.withPartition_withPartition ..
      · cases hleaves with
        | nothing => exact .nothing
        | everything mem settled => exact .everything (List.mem_cons_of_mem _ mem) settled
        | something settled broken => exact .something settled broken
    | everything settled =>
      exact ⟨_, (settled.run rest hrest hpart).trans hstore,
        .everything List.mem_cons_self settled⟩
    | something settled broken =>
      exact ⟨_, (settled.run rest hrest hpart).trans hstore, .something settled broken⟩

/-- After an attempt at a part that was left alone the part is in order, if the attempt is
answered. -/
theorem Prospect.repaired_of_ok (h : Prospect ω c p goal) {scene : Scene} {a : c.Answer}
    (hleaves : AttemptLeaves ω c p goal scene (.ok a) q) (ideal : Scene) :
    q.Repaired (goal ideal) := by
  cases hleaves with
  | nothing idle => exact idle a rfl ideal
  | everything settled => exact h.inOrder scene ideal

/-- What is broken differs from what was there before and from what was meant. -/
theorem Prospect.ne_of_broken (h : Prospect ω c p goal) (settled : Settled ω c q)
    (broken : ∀ s, ¬q.Repaired (goal s)) {w : World MemoryStore ω} (hfaults : w.faults.SparesStore)
    (ideal : Scene) (hw : w.part ideal.ctx.partition = p) : q ≠ p ∧ ∀ s, q ≠ goal s := by
  have hgoal : ∀ s, q ≠ goal s := by
    intro s hsame
    exact broken s (hsame ▸ h.inOrder s s)
  refine ⟨fun hsame => ?_, hgoal⟩
  -- Where nothing changes any more, nothing is what was meant.
  have hmeant := h.flawless ideal w hfaults hw
  rw [settled.store_perform (hw.trans hsame.symm)] at hmeant
  have hpart := congrArg (fun s : MemoryStore => s.partition ideal.ctx.partition) hmeant
  simp only [MemoryStore.partition_withPartition_self] at hpart
  exact hgoal ideal ((hsame.trans hw.symm).trans hpart)

/-- Decommissions and reports have prospects at a consistent part. -/
theorem exists_prospect (h : p.Consistent)
    (hc : (∃ device, c = .decommission device) ∨ ∃ id device s, c = .report id device s) :
    ∃ goal, Prospect ω c p goal := by
  rcases hc with ⟨device, rfl⟩ | ⟨id, device, s, rfl⟩
  · exact ⟨_, prospect_decommission h device⟩
  · by_cases hmoves : ∃ r, p.Moves id device s r
    · obtain ⟨r, hmoves⟩ := hmoves
      obtain ⟨d, hd⟩ := h.owned hmoves.record
      exact ⟨_, prospect_report h hmoves hd⟩
    · exact ⟨_, prospect_idle_report h fun r hr => hmoves ⟨r, hr⟩⟩

end

namespace World

variable {ω : Type}

/-- The parts of all tenants are in order beside those that an operation was meant to leave. -/
def Repaired (w goal : World MemoryStore ω) : Prop :=
  ∀ t, (w.part t).Repaired (goal.part t)

/-- Where two worlds differ from a third in the part of one tenant, that part decides. -/
theorem repaired_iff {start w goal : World MemoryStore ω} {tenant : TenantId} {p q : Partition}
    (hconsistent : ∀ t, (start.part t).Consistent)
    (hw : w.store = start.store.withPartition tenant p)
    (hgoal : goal.store = start.store.withPartition tenant q) :
    w.Repaired goal ↔ p.Repaired q := by
  constructor
  · intro h
    simpa [part, hw, hgoal] using h tenant
  · intro h t
    by_cases ht : t = tenant
    · subst ht
      simpa [part, hw, hgoal] using h
    · rw [part, part, hw, hgoal, MemoryStore.partition_withPartition_of_ne _ _ ht,
        MemoryStore.partition_withPartition_of_ne _ _ ht]
      exact (hconsistent t).repaired

variable [LinkIssuer ω] {w : World MemoryStore ω}

/-- From a state that a run reaches, with any plan of faults, an operation that takes a device out
of service or takes a report is attempted in some scenes and then answered. The store is in order
after that exactly if the attempts before wrote nothing, or all that one of them would have
written without a failure. If they wrote anything the last attempt changes nothing. -/
theorem retry_repairs_iff (hstore : w.store = {}) (hfaults : w.faults.SparesStore)
    (steps : List Step) (hadmissible : Admissible steps) {c : ModelCall}
    (hc : (∃ device, c = .decommission device) ∨ ∃ id device s, c = .report id device s)
    (plan : FaultPlan) (attempts : List Scene) (last ideal : Scene) {tenant : TenantId}
    (htenant : ∀ s ∈ last :: ideal :: attempts, s.ctx.partition = tenant) {a : c.Answer} :
    let start := w.run steps
    let half := (start.withFaults plan).run (attempts.map (·, c))
    let after := (half.perform last c).2
    (half.perform last c).1 = .ok a →
    (after.Repaired (start.perform ideal c).2 ↔
      half.store = start.store ∨ ∃ s ∈ attempts, half.store = (start.perform s c).2.store) ∧
    (half.store ≠ start.store → after.store = half.store) := by
  intro start half after hok
  have hsound := sound_run hstore hfaults steps hadmissible
  obtain ⟨goal, hprospect⟩ : ∃ goal, Prospect ω c (start.part tenant) goal :=
    exists_prospect (hsound.consistent tenant) hc
  obtain ⟨rfl, hrest⟩ := List.forall_mem_cons.1 htenant
  obtain ⟨hideal, hattempts⟩ := List.forall_mem_cons.1 hrest
  obtain ⟨q, hhalf, hleave⟩ : ∃ q, half.store
      = start.store.withPartition last.ctx.partition q ∧ _ :=
    hprospect.run (w := start.withFaults plan) attempts hattempts rfl
  have hpart : half.part last.ctx.partition = q := by simp [part, hhalf]
  have hgoal (s : Scene) (hs : s.ctx.partition = last.ctx.partition) :
      (start.perform s c).2.store = start.store.withPartition last.ctx.partition (goal s) := by
    rw [← hs]
    exact hprospect.flawless s start hsound.spares (by rw [hs])
  -- What the failed attempts left decides: nothing, everything, or something in between.
  cases hleave with
  | nothing =>
    have hsame : half.store = start.store := by
      rw [hhalf, part, MemoryStore.withPartition_partition]
    obtain ⟨q', hafter, hleaves⟩ := hprospect.attempt last half hpart
    rw [show (c.run last half).1 = .ok a from hok] at hleaves
    rw [hsame] at hafter
    have hrepaired : after.Repaired (start.perform ideal c).2 :=
      (repaired_iff hsound.consistent hafter (hgoal ideal hideal)).2
        (hprospect.repaired_of_ok hleaves ideal)
    exact ⟨⟨fun _ => .inl hsame, fun _ => hrepaired⟩, fun hne => absurd hsame hne⟩
  | @everything s mem settled =>
    have hkept : after.store = half.store := settled.store_perform hpart
    have hrepaired : after.Repaired (start.perform ideal c).2 :=
      (repaired_iff hsound.consistent (hkept.trans hhalf) (hgoal ideal hideal)).2
        (hprospect.inOrder s ideal)
    refine ⟨⟨fun _ => .inr ⟨s, mem, ?_⟩, fun _ => hrepaired⟩, fun _ => hkept⟩
    exact hhalf.trans (hgoal s (hattempts s mem)).symm
  | something settled broken =>
    have hkept : after.store = half.store := settled.store_perform hpart
    have hiff := repaired_iff hsound.consistent (hkept.trans hhalf) (hgoal ideal hideal)
    obtain ⟨hbefore, hmeant⟩ :=
      hprospect.ne_of_broken settled broken hsound.spares last rfl
    refine ⟨⟨fun h => absurd (hiff.1 h) (broken ideal), ?_⟩, fun _ => hkept⟩
    -- A store that is broken is neither the one before nor the one that was meant.
    rintro (hsame | ⟨s, mem, hsame⟩)
    · refine absurd ?_ hbefore
      rw [← hpart, part, hsame, part]
    · refine absurd ?_ (hmeant s)
      rw [← hpart, part, hsame, hgoal s (hattempts s mem),
        MemoryStore.partition_withPartition_self]

/-- A failure of the first write leaves everything to the repetition. -/
theorem retry_repairs_iff_sample :
    let start := sampleWorld.run (sampleSteps.take 1)
    let c : ModelCall := .report "update" "left" { status := .success }
    let plan : FaultPlan := [{ target := "update_device_deployment_status", detail := "full" }]
    let failed := (start.withFaults plan).perform sampleScene c
    failed.1 = .error (.store "updating device deployment status" ⟨.io, "full"⟩) ∧
      (failed.2.perform sampleScene c).2.Repaired (start.perform sampleScene c).2 := by
  have hadmissible : Admissible (sampleSteps.take 1) :=
    (show Admissible (sampleSteps.take 1 ++ sampleSteps.drop 1) from
      admissible_sampleSteps).of_append
  have htenant : ∀ s ∈ [sampleScene, sampleScene, sampleScene], s.ctx.partition = "" := by
    decide
  obtain ⟨hiff, -⟩ := retry_repairs_iff (w := sampleWorld) rfl
    FaultPlan.sparesStore_nil (sampleSteps.take 1) hadmissible
    (.inr ⟨"update", "left", { status := .success }, rfl⟩)
    [{ target := "update_device_deployment_status", detail := "full" }] [sampleScene] sampleScene
    sampleScene htenant (a := ()) rfl
  exact ⟨rfl, hiff.2 (.inl (MemoryStore.withPartition_partition _ ""))⟩

/-- A failure between two writes is not repaired by a repetition: the counters miss the device
that has moved, and the deployment that lost a device stays unfinished. -/
theorem retry_leaves_damage :
    let start := sampleWorld.run (sampleSteps.take 1)
    (let c : ModelCall := .report "update" "left" { status := .success }
      let plan : FaultPlan := [{ target := "update_stats", detail := "full" }]
      let failed := (start.withFaults plan).perform sampleScene c
      failed.1 = .error (.store "updating deployment stats" ⟨.io, "full"⟩) ∧
        (failed.2.perform sampleScene c).1 = .ok () ∧
        ¬(failed.2.perform sampleScene c).2.Repaired (start.perform sampleScene c).2) ∧
    (let c : ModelCall := .decommission "left"
      let plan : FaultPlan :=
        [{ target := "update_stats_and_finish_deployment", detail := "full" }]
      let failed := (start.withFaults plan).perform sampleScene c
      failed.1 = .error (.store "updating deployment stats and finish time" ⟨.io, "full"⟩) ∧
        (failed.2.perform sampleScene c).1 = .ok () ∧
        ¬(failed.2.perform sampleScene c).2.Repaired (start.perform sampleScene c).2) := by
  refine ⟨⟨rfl, rfl, fun h => ?_⟩, rfl, rfl, fun h => ?_⟩
  -- The record says that the device is done, the counters do not.
  · have hcounted := @Partition.Repaired.counted _ _ (h "") "update" _ rfl
    exact absurd hcounted (by decide)
  -- No record is active any more, and the deployment is not finished.
  · obtain ⟨d, hd, hfinished⟩ := @Partition.Repaired.finished _ _ (h "") "update" _ rfl rfl
    cases hd
    cases hfinished

end World

end Fleet
