import Fleet.Proofs.Deployment.Progress
import Fleet.Proofs.Table.Lookup
import Fleet.Store.Memory

/-!
# `Fleet.Proofs.Store.Partition`: what store calls do to the part of a tenant

Every write to a part is one of a few table writes, and a call that finds what it changes
runs to such a write (`run_updateStatus`, `run_moveDevice` and so on).

The records of a deployment are what the counters count. Three facts say how they change, each
up to order: replacing a record exchanges one element (`recordsOf_withRecord`), stopping
records maps over them (`recordsOf_stopRecords`), new records join them
(`recordsOf_withRecords`).

`Partition.Keyed` says that deployments and records stand under their own names. Under it the
records of a deployment are the ones that are found under its name (`mem_recordsOf`).
-/

set_option autoImplicit false

namespace Fleet

open Fleet.Time

namespace Partition

/-- The part with a record under a key. -/
def withRecord (p : Partition) (k : DeploymentId × DeviceId) (r : DeviceRecord) : Partition :=
  { p with records := p.records.insert k r }

/-- The part with a deployment under a name. -/
def withDeployment (p : Partition) (id : DeploymentId) (d : Deployment) : Partition :=
  { p with deployments := p.deployments.insert id d }

/-- The part with further records, each under its own key. -/
def withRecords (p : Partition) (l : List DeviceRecord) : Partition :=
  l.foldl (fun p r => p.withRecord r.key r) p

/-- The part with a log. -/
def withLog (p : Partition) (log : DeploymentLog) : Partition :=
  { p with logs := p.logs.insert log.key log }

section

variable (p : Partition) (k : DeploymentId × DeviceId) (id : DeploymentId) (r : DeviceRecord)
  (d : Deployment) (log : DeploymentLog) (l : List DeviceRecord)

/-- Storing a record leaves the deployments alone. -/
@[simp] theorem deployments_withRecord : (p.withRecord k r).deployments = p.deployments := rfl

/-- Storing a deployment leaves the records alone. -/
@[simp] theorem records_withDeployment : (p.withDeployment id d).records = p.records := rfl

/-- Storing a deployment leaves the records of every deployment alone. -/
@[simp] theorem recordsOf_withDeployment (id' : DeploymentId) :
    (p.withDeployment id d).recordsOf id' = p.recordsOf id' :=
  rfl

/-- Storing a batch of records leaves the deployments alone. -/
@[simp] theorem deployments_withRecords : (p.withRecords l).deployments = p.deployments := by
  induction l generalizing p with
  | nil => rfl
  | cons r rest ih =>
    show ((p.withRecord r.key r).withRecords rest).deployments = _
    rw [ih, deployments_withRecord]

/-- Stopping records leaves the deployments alone, until they are counted anew. -/
@[simp] theorem deployments_stopRecords (test : DeviceRecord → Bool) (s : DeviceStatus)
    (now : Instant) : (p.stopRecords test s now).deployments = p.deployments :=
  rfl

end

/-- A stored record is found under its names, and the other ones stay. -/
theorem get?_withRecord (p : Partition) (k k' : DeploymentId × DeviceId) (r : DeviceRecord) :
    (p.withRecord k r).records.get? k' = if k = k' then some r else p.records.get? k' :=
  Table.get?_insert p.records k k' r

/-- A stored deployment is found under its name, and the other ones stay. -/
theorem get?_withDeployment (p : Partition) (id id' : DeploymentId) (d : Deployment) :
    (p.withDeployment id d).deployments.get? id'
      = if id = id' then some d else p.deployments.get? id' :=
  Table.get?_insert p.deployments id id' d

/-- Every record that is meant and active is found stopped, and the other ones stay. -/
theorem get?_stopRecords (p : Partition) (test : DeviceRecord → Bool) (s : DeviceStatus)
    (now : Instant) (k : DeploymentId × DeviceId) :
    (p.stopRecords test s now).records.get? k
      = (p.records.get? k).map fun r => r.stopIf (test r) s now :=
  Table.get?_mapValues ..

/-- A record is one of those that were stored last or was there before. -/
theorem get?_withRecords {p : Partition} {l : List DeviceRecord}
    {k : DeploymentId × DeviceId} {r : DeviceRecord}
    (h : (p.withRecords l).records.get? k = some r) : r ∈ l ∨ p.records.get? k = some r := by
  induction l generalizing p with
  | nil => exact .inr h
  | cons first rest ih =>
    rcases ih h with hmem | hget
    · exact .inl (List.mem_cons_of_mem _ hmem)
    · rw [get?_withRecord] at hget
      split at hget
      · cases hget
        exact .inl List.mem_cons_self
      · exact .inr hget

/-! ### Calls that find what they change -/

section

variable {p : Partition} {id : DeploymentId} {device : DeviceId} {r : DeviceRecord}
  {d : Deployment}

/-- The change of a status answers the status before, if the record is there. -/
theorem run_updateStatus (status : DeviceStatus) (substate : Option String)
    (finished : Option Instant) (h : p.records.get? (id, device) = some r) :
    p.run (.updateStatus id device status substate finished)
      = .ok (r.status,
          p.withRecord (id, device) (r.withStatus status substate finished)) := by
  rw [run, updateRecord, h]
  rfl

/-- An artifact is given to a record that is there. -/
theorem run_assignArtifact (deviceType : String) (a : Artifact)
    (h : p.records.get? (id, device) = some r) :
    p.run (.assignArtifact id device deviceType a)
      = .ok ((), p.withRecord (id, device) (r.withArtifact deviceType a)) := by
  rw [run, updateRecord, h]
  rfl

/-- The mark of a log is set in a record that is there. -/
theorem run_markLog (available : Bool) (h : p.records.get? (id, device) = some r) :
    p.run (.markLog id device available)
      = .ok ((), p.withRecord (id, device) (r.withLogMark available)) := by
  rw [run, updateRecord, h]
  rfl

/-- A device is moved between the counters of a deployment that is there, if they allow it. -/
theorem run_moveDevice {old new : DeviceStatus} {st : Stats}
    (h : p.deployments.get? id = some d) (hst : d.stats.transition old new = .ok st) :
    p.run (.moveDevice id old new) = .ok ((), p.withDeployment id (d.withStats st)) := by
  rw [run, updateDeployment, h]
  dsimp only
  rw [hst]
  rfl

/-- A move that the counters do not allow is refused with their reason. -/
theorem run_moveDevice_error {old new : DeviceStatus} {e : StatsError}
    (h : p.deployments.get? id = some d) (hst : d.stats.transition old new = .error e) :
    p.run (.moveDevice id old new) = .error (.ofStats e) := by
  rw [run, updateDeployment, h]
  dsimp only
  rw [hst]
  rfl

/-- A deployment that is there gets new counters and is finished, unless it was finished before. -/
theorem run_finishWithStats (stats : Stats) (now : Instant)
    (h : p.deployments.get? id = some d) :
    p.run (.finishWithStats id stats now)
      = .ok ((), p.withDeployment id ((d.withStats stats).finishAt now)) := by
  rw [run, updateDeployment, h]
  rfl

/-- A deployment that is there is finished, unless it was finished before. -/
theorem run_finishDeployment (now : Instant) (h : p.deployments.get? id = some d) :
    p.run (.finishDeployment id now) = .ok ((), p.withDeployment id (d.finishAt now)) := by
  rw [run, updateDeployment, h]
  rfl

/-- The count by status is that of the records, if a word can hold their number. -/
theorem run_countByStatus (h : (p.recordsOf id).length < 2 ^ 64) :
    p.run (.countByStatus id) = .ok (.tally (statuses (p.recordsOf id)), p) := by
  have hstats : Stats.ofStatuses ((p.recordsOf id).map (·.status))
      = .ok (.tally (statuses (p.recordsOf id))) :=
    Stats.ofStatuses_eq_tally (by rw [List.length_map]; exact h)
  simp only [run, hstats]

/-- A deployment is inserted under a free name. -/
theorem run_insertDeployment (h : p.deployments.get? d.id = none) :
    p.run (.insertDeployment d) = .ok ((), p.withDeployment d.id d) := by
  rw [run, Table.contains_eq_false_iff.2 h]
  rfl

/-- The keys of further records stay free when a record is stored under another key. -/
theorem free_withRecord {rest : List DeviceRecord}
    (hfree : ∀ s ∈ r :: rest, p.records.get? s.key = none)
    (hnodup : ((r :: rest).map (·.key)).Nodup) :
    ∀ s ∈ rest, (p.withRecord r.key r).records.get? s.key = none := by
  intro s hs
  rw [List.map_cons, List.nodup_cons] at hnodup
  have hne : r.key ≠ s.key := by
    intro he
    have hmem : s.key ∈ rest.map (·.key) := List.mem_map_of_mem hs
    rw [← he] at hmem
    exact hnodup.1 hmem
  rw [get?_withRecord, if_neg hne]
  exact hfree s (List.mem_cons_of_mem _ hs)

/-- Records are stored if their keys are free and all different. -/
theorem foldlM_addRecord {l : List DeviceRecord} (hfree : ∀ r ∈ l, p.records.get? r.key = none)
    (hnodup : (l.map (·.key)).Nodup) : l.foldlM addRecord p = .ok (p.withRecords l) := by
  induction l generalizing p with
  | nil => rfl
  | cons r rest ih =>
    have hadd : p.addRecord r = .ok (p.withRecord r.key r) := by
      rw [addRecord, Table.contains_eq_false_iff.2 (hfree r List.mem_cons_self)]
      rfl
    rw [List.foldlM_cons, hadd]
    exact ih (free_withRecord hfree hnodup) hnodup.of_cons

/-- A batch of records is inserted if all names are free and no two of the batch are equal. -/
theorem run_insertRecords {l : List DeviceRecord}
    (hfree : ∀ r ∈ l, p.records.get? r.key = none) (hnodup : (l.map (·.key)).Nodup) :
    p.run (.insertRecords l) = .ok ((), p.withRecords l) := by
  rw [run, foldlM_addRecord hfree hnodup]
  rfl

end

/-! ### The records of a deployment -/

/-- Replacing a record exchanges it among the records of its deployment. -/
theorem recordsOf_withRecord {p : Partition} {k : DeploymentId × DeviceId} {r r' : DeviceRecord}
    (h : p.records.get? k = some r) (hid : r'.deploymentId = r.deploymentId) :
    ∃ rest, (p.recordsOf r.deploymentId).Perm (r :: rest) ∧
      ((p.withRecord k r').recordsOf r.deploymentId).Perm (r' :: rest) := by
  obtain ⟨before, after, hvalues, hinsert⟩ := Table.values_insert_of_get? h
  refine ⟨(before ++ after).filter (·.deploymentId = r.deploymentId), ?_, ?_⟩
  · rw [recordsOf, hvalues]
    refine (List.Perm.filter _ List.perm_middle).trans ?_
    rw [List.filter_cons_of_pos (by simp)]
  · rw [recordsOf, withRecord, hinsert]
    refine (List.Perm.filter _ List.perm_middle).trans ?_
    rw [List.filter_cons_of_pos (by simpa using hid)]

/-- Replacing a record leaves those of other deployments alone. -/
theorem recordsOf_withRecord_of_ne {p : Partition} {k : DeploymentId × DeviceId}
    {r r' : DeviceRecord} {id : DeploymentId} (h : p.records.get? k = some r)
    (hr : r.deploymentId ≠ id) (hid : r'.deploymentId = r.deploymentId) :
    (p.withRecord k r').recordsOf id = p.recordsOf id := by
  obtain ⟨before, after, hvalues, hinsert⟩ := Table.values_insert_of_get? h
  have hr' : r'.deploymentId ≠ id := by
    rw [hid]
    exact hr
  rw [recordsOf, recordsOf, withRecord, hvalues, hinsert, List.filter_append, List.filter_append,
    List.filter_cons_of_neg (by simpa using hr'), List.filter_cons_of_neg (by simpa using hr)]

/-- The records of a deployment after a stop are those from before, each stopped if it is meant. -/
theorem recordsOf_stopRecords (p : Partition) (test : DeviceRecord → Bool) (s : DeviceStatus)
    (now : Instant) (id : DeploymentId) :
    (p.stopRecords test s now).recordsOf id
      = (p.recordsOf id).map fun r => r.stopIf (test r) s now := by
  rw [recordsOf, recordsOf, stopRecords, Table.values_mapValues, List.filter_map]
  refine congrArg _ (List.filter_congr fun r _ => ?_)
  exact congrArg (fun k => decide (k.1 = id)) (r.key_stopIf (test r) s now)

/-- Records under free keys join those of their deployments. -/
theorem recordsOf_withRecords {p : Partition} {l : List DeviceRecord}
    (hfree : ∀ r ∈ l, p.records.get? r.key = none) (hnodup : (l.map (·.key)).Nodup)
    (id : DeploymentId) :
    ((p.withRecords l).recordsOf id).Perm
      (l.filter (·.deploymentId = id) ++ p.recordsOf id) := by
  -- It is enough to look at all records at once, and to filter afterwards.
  suffices h : (p.withRecords l).records.values.Perm (l ++ p.records.values) by
    rw [recordsOf, recordsOf, ← List.filter_append]
    exact h.filter _
  induction l generalizing p with
  | nil => exact .refl _
  | cons r rest ih =>
    have hone : (p.withRecord r.key r).records.values.Perm (r :: p.records.values) :=
      Table.perm_values_insert_of_get?_eq_none r (hfree r List.mem_cons_self)
    -- Records stored later come before those stored earlier, which order does not show.
    exact (ih (free_withRecord hfree hnodup) hnodup.of_cons).trans
      ((hone.append_left rest).trans List.perm_middle)

/-! ### Deployments and records under their own names -/

/-- Deployments and records stand under their own names. -/
structure Keyed (p : Partition) : Prop where
  /-- A deployment is found under its name. -/
  deployment : ∀ {id d}, p.deployments.get? id = some d → d.id = id
  /-- A record is found under its deployment and device. -/
  record : ∀ {k r}, p.records.get? k = some r → r.key = k

/-- The records of a deployment are those found under its name. -/
theorem mem_recordsOf {p : Partition} (h : p.Keyed) {id : DeploymentId} {r : DeviceRecord} :
    r ∈ p.recordsOf id ↔ p.records.get? (id, r.deviceId) = some r := by
  rw [recordsOf, List.mem_filter, decide_eq_true_eq, Table.mem_values_iff]
  constructor
  · rintro ⟨⟨k, hk⟩, rfl⟩
    have hkey := h.record hk
    rw [DeviceRecord.key] at hkey
    rw [hkey]
    exact hk
  · intro hget
    exact ⟨⟨_, hget⟩, (Prod.mk.inj (h.record hget)).1⟩

namespace Keyed

variable {p : Partition}

/-- In an empty part everything stands under its own name. -/
theorem empty : Keyed {} where
  deployment h := by cases h
  record h := by cases h

/-- A record that is stored under its own names leaves everything under its own name. -/
theorem withRecord (h : p.Keyed) {k : DeploymentId × DeviceId} {r : DeviceRecord}
    (hr : r.key = k) : (p.withRecord k r).Keyed where
  deployment hget := h.deployment hget
  record hget := by
    rw [get?_withRecord] at hget
    split at hget
    · next hk =>
      cases hget
      exact hr.trans hk
    · exact h.record hget

/-- A deployment that is stored under its own name leaves everything under its own name. -/
theorem withDeployment (h : p.Keyed) {id : DeploymentId} {d : Deployment} (hd : d.id = id) :
    (p.withDeployment id d).Keyed where
  deployment hget := by
    rw [get?_withDeployment] at hget
    split at hget
    · next hid =>
      cases hget
      exact hd.trans hid
    · exact h.deployment hget
  record hget := h.record hget

/-- A log leaves deployments and records under their own names. -/
theorem withLog (h : p.Keyed) (log : DeploymentLog) : (p.withLog log).Keyed where
  deployment hget := h.deployment hget
  record hget := h.record hget

/-- A batch of records is stored under their own names. -/
theorem withRecords (h : p.Keyed) (l : List DeviceRecord) : (p.withRecords l).Keyed := by
  induction l generalizing p with
  | nil => exact h
  | cons r rest ih => exact ih (h.withRecord rfl)

/-- Stopping records does not change whose they are, so they stay under their own names. -/
theorem stopRecords (h : p.Keyed) (test : DeviceRecord → Bool) (s : DeviceStatus)
    (now : Instant) : (p.stopRecords test s now).Keyed where
  deployment hget := h.deployment hget
  record hget := by
    rw [get?_stopRecords] at hget
    obtain ⟨r, hr, rfl⟩ := Option.map_eq_some_iff.1 hget
    exact (r.key_stopIf (test r) s now).trans (h.record hr)

end Keyed

end Partition

end Fleet
