import Fleet.Proofs.Deployment.Phase
import Fleet.Proofs.Store.Partition

/-!
# `Fleet.Proofs.Store.Consistency`: the part of a tenant as a whole goes on

The operations of the model write to several tables, and each has one net effect on the part
of a tenant: `afterReport`, `afterAbort`, `afterDecommission`, `withOpened`, and the exchange
of a single record. `Partition.Evolves` says what all of these have in common: every
deployment makes one step of `Deployment.Progress` with its records or is opened, none gets
lost, and every record belongs to a deployment.

`Partition.Consistent` is the invariant of a part, with `Deployment.Counts` and
`Deployment.InPhase` for every deployment. A part that evolves stays consistent
(`Consistent.evolves`).
-/

set_option autoImplicit false

namespace Fleet

open Fleet.Time

/-! ### Names in ascending order -/

/-- Sorting names loses none and adds none. -/
theorem mem_sortedNames {l : List String} {x : String} : x ∈ sortedNames l ↔ x ∈ l := by
  have hget : (l.foldl (fun t n => t.insert n ()) ∅ : Table String Unit).get? x
      = if x ∈ l.map id then some () else none :=
    Table.get?_foldl_insert (f := fun _ => some ()) (fun _ _ => rfl) ∅ x
  rw [List.map_id] at hget
  rw [sortedNames, List.mem_map]
  constructor
  · rintro ⟨⟨y, u⟩, he, rfl⟩
    rw [Table.get?_of_mem_entries he] at hget
    by_contra hx
    rw [if_neg hx] at hget
    cases hget
  · intro hx
    rw [if_pos hx] at hget
    exact ⟨(x, ()), Table.mem_entries_of_get? hget, rfl⟩

namespace Partition

/-! ### Net effects of operations -/

/-- The counters of the records of a deployment. -/
def tallyOf (p : Partition) (id : DeploymentId) : Stats := .tally (statuses (p.recordsOf id))

/-- The part after the records of a deployment were counted anew and the deployment was
finished. -/
def recounted (p : Partition) (id : DeploymentId) (now : Instant) : Partition :=
  match p.deployments.get? id with
  | some d => p.withDeployment id ((d.withStats (p.tallyOf id)).finishAt now)
  | none => p

/-- The part after a device moved on from the record `r` in the deployment `d`. -/
def afterReport (p : Partition) (d : Deployment) (r : DeviceRecord) (status : DeviceStatus)
    (substate : Option String) (now : Instant) : Partition :=
  let p := p.withRecord r.key (r.movedTo status substate now)
  p.withDeployment d.id ((d.withStats (p.tallyOf d.id)).closeAt now)

/-- The part after a deployment was aborted. -/
def afterAbort (p : Partition) (id : DeploymentId) (now : Instant) : Partition :=
  (p.stopRecords (·.deploymentId = id) .aborted now).recounted id now

/-- The deployments in which a device has work to do. -/
def affected (p : Partition) (device : DeviceId) : List DeploymentId :=
  sortedNames ((p.activeOf device).map (·.deploymentId))

/-- The part after a device was taken out of service. -/
def afterDecommission (p : Partition) (device : DeviceId) (now : Instant) : Partition :=
  (p.affected device).foldl (fun p id => p.recounted id now)
    (p.stopRecords (·.deviceId = device) .decommissioned now)

/-- The part with a new deployment and its records. -/
def withOpened (p : Partition) (d : Deployment) (l : List DeviceRecord) : Partition :=
  (p.withDeployment d.id d).withRecords l

/-- Counting a deployment anew leaves the records alone. -/
@[simp] theorem records_recounted (p : Partition) (id : DeploymentId) (now : Instant) :
    (p.recounted id now).records = p.records := by
  rw [recounted]
  split <;> rfl

/-- The counters of a deployment depend on the records alone. -/
theorem tallyOf_congr {p p' : Partition} (h : p'.records = p.records) (id : DeploymentId) :
    p'.tallyOf id = p.tallyOf id := by
  rw [tallyOf, tallyOf, recordsOf, recordsOf, h]

/-- Counting a deployment anew gives it the counters of its records and a finish time. The other
ones stay. -/
theorem get?_recounted (p : Partition) (id id' : DeploymentId) (now : Instant) :
    (p.recounted id now).deployments.get? id'
      = if id = id' then
          (p.deployments.get? id').map fun d => (d.withStats (p.tallyOf id')).finishAt now
        else p.deployments.get? id' := by
  rw [recounted]
  by_cases hid : id = id'
  · subst hid
    rw [if_pos rfl]
    cases h : p.deployments.get? id with
    | none => exact h
    | some d =>
      show (p.withDeployment id _).deployments.get? id = _
      rw [get?_withDeployment, if_pos rfl, Option.map_some]
  · rw [if_neg hid]
    split
    · rw [get?_withDeployment, if_neg hid]
    · rfl

/-- Storing the counters of the records with a finish time. -/
theorem run_finishWithTally {p : Partition} {id : DeploymentId} {d : Deployment} (now : Instant)
    (hd : p.deployments.get? id = some d) :
    p.run (.finishWithStats id (p.tallyOf id) now) = .ok ((), p.recounted id now) := by
  rw [run_finishWithStats _ _ hd, recounted, hd]

/-- Counting the deployments of a list anew, one after the other. -/
theorem foldl_recounted (p : Partition) (ids : List DeploymentId) (now : Instant) :
    (ids.foldl (fun p id => p.recounted id now) p).records = p.records ∧
    ∀ id, (ids.foldl (fun p id => p.recounted id now) p).deployments.get? id
      = if id ∈ ids then
          (p.deployments.get? id).map fun d => (d.withStats (p.tallyOf id)).finishAt now
        else p.deployments.get? id := by
  induction ids generalizing p with
  | nil => exact ⟨rfl, fun id => by rw [if_neg List.not_mem_nil]; rfl⟩
  | cons first rest ih =>
    obtain ⟨hrecords, hget⟩ := ih (p.recounted first now)
    refine ⟨hrecords.trans (records_recounted p first now), fun id => ?_⟩
    rw [List.foldl_cons, hget, get?_recounted, tallyOf_congr (records_recounted p first now)]
    by_cases hfirst : first = id
    · subst hfirst
      rw [if_pos rfl, if_pos List.mem_cons_self]
      split
      · -- Counting twice is counting once: the first finish time stays.
        cases p.deployments.get? first <;> rfl
      · rfl
    · have hmem : id ∈ first :: rest ↔ id ∈ rest := by
        rw [List.mem_cons]
        exact ⟨fun h => h.resolve_left fun he => hfirst he.symm, .inr⟩
      rw [if_neg hfirst]
      simp only [hmem]

/-- The deployments that a device is taken out of are those where it has work to do. -/
theorem mem_affected {p : Partition} {device : DeviceId} {id : DeploymentId} :
    id ∈ p.affected device ↔
      ∃ r ∈ p.recordsOf id, r.deviceId = device ∧ r.status.isActive = true := by
  rw [affected, mem_sortedNames, List.mem_map]
  constructor
  · rintro ⟨r, hr, rfl⟩
    obtain ⟨hmem, htest⟩ := List.mem_filter.1 hr
    rw [Bool.and_eq_true, decide_eq_true_eq] at htest
    exact ⟨r, List.mem_filter.2 ⟨hmem, decide_eq_true rfl⟩, htest⟩
  · rintro ⟨r, hr, hdevice, hactive⟩
    obtain ⟨hmem, hid⟩ := List.mem_filter.1 hr
    refine ⟨r, List.mem_filter.2 ⟨hmem, ?_⟩, of_decide_eq_true hid⟩
    rw [decide_eq_true hdevice, hactive]
    rfl

/-- An opened deployment is found under its name, and the other ones stay. -/
theorem get?_withOpened (p : Partition) (d : Deployment) (l : List DeviceRecord)
    (id : DeploymentId) : (p.withOpened d l).deployments.get? id
      = if d.id = id then some d else p.deployments.get? id := by
  rw [withOpened, deployments_withRecords, get?_withDeployment]

/-- Taking a device out of service counts each deployment anew that it had work in, and finishes it.
The other ones stay. -/
theorem get?_afterDecommission (p : Partition) (device : DeviceId) (now : Instant)
    (id : DeploymentId) : (p.afterDecommission device now).deployments.get? id
      = if id ∈ p.affected device then
          (p.deployments.get? id).map fun d => (d.withStats
            ((p.stopRecords (·.deviceId = device) .decommissioned now).tallyOf id)).finishAt now
        else p.deployments.get? id :=
  (foldl_recounted (p.stopRecords (·.deviceId = device) .decommissioned now) (p.affected device)
    now).2 id

/-- Storing a deployment as it is changes nothing. -/
theorem withDeployment_self {p : Partition} {id : DeploymentId} {d : Deployment}
    (h : p.deployments.get? id = some d) : p.withDeployment id d = p := by
  have htable : p.deployments.insert id d = p.deployments := by
    refine Table.ext_get? fun k => ?_
    rw [Table.get?_insert]
    split
    · next hk => rw [← hk, h]
    · rfl
  rw [withDeployment, htable]

/-- Of two values stored for a deployment, the later one counts. -/
theorem withDeployment_withDeployment (p : Partition) (id : DeploymentId) (d d' : Deployment) :
    (p.withDeployment id d).withDeployment id d' = p.withDeployment id d' := by
  have htable : (p.deployments.insert id d).insert id d' = p.deployments.insert id d' := by
    refine Table.ext_get? fun k => ?_
    rw [Table.get?_insert, Table.get?_insert, Table.get?_insert]
    split <;> rfl
  rw [withDeployment, withDeployment, withDeployment]
  exact congrArg (fun t => ({ p with deployments := t } : Partition)) htable

/-! ### The part of a tenant goes on -/

/-- One part follows another at a time: each deployment goes on with its records or is opened,
none gets lost, and records belong to deployments. -/
structure Evolves (now : Instant) (p p' : Partition) : Prop where
  /-- Deployments and records stand under their own names. -/
  keyed : p'.Keyed
  /-- A record belongs to a deployment. -/
  owned : ∀ {k r}, p'.records.get? k = some r → ∃ d, p'.deployments.get? k.1 = some d
  /-- A deployment was there before and makes one step, or it is opened. -/
  deployment : ∀ {id d'}, p'.deployments.get? id = some d' →
    (∃ d, p.deployments.get? id = some d ∧
      d.Progress now (p.recordsOf id) d' (p'.recordsOf id)) ∨
    (p.deployments.get? id = none ∧ Deployment.Opened now d' (p'.recordsOf id))
  /-- No deployment gets lost. -/
  kept : ∀ {id d}, p.deployments.get? id = some d → ∃ d', p'.deployments.get? id = some d'

/-- What holds of the part of a tenant between operations. -/
structure Consistent (p : Partition) : Prop where
  /-- Deployments and records stand under their own names. -/
  keyed : p.Keyed
  /-- A record belongs to a deployment. -/
  owned : ∀ {k r}, p.records.get? k = some r → ∃ d, p.deployments.get? k.1 = some d
  /-- The counters are those of the records. -/
  counts : ∀ {id d}, p.deployments.get? id = some d → d.Counts (p.recordsOf id)
  /-- Finish times fit the statuses of the records. -/
  inPhase : ∀ {id d}, p.deployments.get? id = some d → d.InPhase (p.recordsOf id)

namespace Consistent

variable {p p' : Partition} {now : Instant} {id : DeploymentId} {device : DeviceId}
  {d d' : Deployment} {r r' : DeviceRecord}

/-- An empty part is consistent. -/
theorem empty : Consistent {} where
  keyed := .empty
  owned h := by cases h
  counts h := by cases h
  inPhase h := by cases h

/-- A part that evolves stays consistent. -/
theorem evolves (h : p.Consistent) (hev : p.Evolves now p') : p'.Consistent where
  keyed := hev.keyed
  owned := hev.owned
  counts hd' := by
    rcases hev.deployment hd' with ⟨d, hd, step⟩ | ⟨-, hopened⟩
    · exact (h.counts hd).progress step
    · exact .opened hopened
  inPhase hd' := by
    rcases hev.deployment hd' with ⟨d, hd, step⟩ | ⟨-, hopened⟩
    · exact (h.inPhase hd).progress (h.counts hd) step
    · exact .opened hopened

/-- A part that stays as it is has evolved. -/
theorem evolves_refl (h : p.Consistent) : p.Evolves now p where
  keyed := h.keyed
  owned := h.owned
  deployment hd := .inl ⟨_, hd, .rest (.refl _)⟩
  kept hd := ⟨_, hd⟩

/-- The exchange of one record, and of the deployment it belongs to. -/
theorem evolves_withRecord (h : p.Consistent) (hr : p.records.get? r.key = some r)
    (hd : p.deployments.get? r.deploymentId = some d) (hkey : r'.key = r.key)
    (hid : d'.id = d.id)
    (step : ∀ others, (p.recordsOf r.deploymentId).Perm (r :: others) →
      ((p.withRecord r.key r').recordsOf r.deploymentId).Perm (r' :: others) →
      d.Progress now (p.recordsOf r.deploymentId) d'
        ((p.withRecord r.key r').recordsOf r.deploymentId)) :
    p.Evolves now ((p.withRecord r.key r').withDeployment r.deploymentId d') where
  keyed := (h.keyed.withRecord hkey).withDeployment (hid.trans (h.keyed.deployment hd))
  owned {k s} hs := by
    rw [get?_withDeployment, deployments_withRecord]
    split
    · exact ⟨d', rfl⟩
    · rw [records_withDeployment, get?_withRecord] at hs
      split at hs
      · next hk =>
        rw [← hk]
        exact ⟨d, hd⟩
      · exact h.owned hs
  deployment {id e'} he' := by
    -- No deployment is new here.
    refine .inl ?_
    rw [get?_withDeployment, deployments_withRecord] at he'
    rw [recordsOf_withDeployment]
    have hid' : r'.deploymentId = r.deploymentId := (Prod.mk.inj hkey).1
    split at he'
    · next hk =>
      cases he'
      subst hk
      obtain ⟨others, before, after⟩ := recordsOf_withRecord hr hid'
      exact ⟨d, hd, step others before after⟩
    · next hk =>
      rw [recordsOf_withRecord_of_ne hr hk hid']
      exact ⟨e', he', .rest (.refl _)⟩
  kept {id e} he := by
    rw [get?_withDeployment, deployments_withRecord]
    split
    · exact ⟨d', rfl⟩
    · exact ⟨e, he⟩

/-- The exchange of one record alone. -/
theorem evolves_exchange (h : p.Consistent) (hr : p.records.get? r.key = some r)
    (hd : p.deployments.get? r.deploymentId = some d) (hkey : r'.key = r.key)
    (step : ∀ others l', (p.recordsOf r.deploymentId).Perm (r :: others) →
      l'.Perm (r' :: others) → d.Progress now (p.recordsOf r.deploymentId) d l') :
    p.Evolves now (p.withRecord r.key r') := by
  have hself : (p.withRecord r.key r').withDeployment r.deploymentId d = p.withRecord r.key r' :=
    withDeployment_self hd
  rw [← hself]
  exact h.evolves_withRecord hr hd hkey rfl fun others before after =>
    step others _ before after

/-- A report of a device that has work to do makes its deployment one step, the move of a device. -/
theorem evolves_report (h : p.Consistent) (hr : p.records.get? r.key = some r)
    (hd : p.deployments.get? r.deploymentId = some d) {status : DeviceStatus}
    (substate : Option String) (active : r.status.isActive = true)
    (reportable : status.isReportable = true) (changed : r.status ≠ status) :
    p.Evolves now (p.afterReport d r status substate now) := by
  have hid : d.id = r.deploymentId := h.keyed.deployment hd
  rw [afterReport, hid]
  exact h.evolves_withRecord hr hd rfl (Deployment.id_closeAt _ _) fun others before after =>
    .moved before after active reportable changed

/-- Giving an artifact to a record makes its deployment one step, which leaves the status alone. -/
theorem evolves_assign (h : p.Consistent) (hr : p.records.get? r.key = some r)
    (deviceType : String) (a : Artifact) (active : r.status.isActive = true) :
    p.Evolves now (p.withRecord r.key (r.withArtifact deviceType a)) := by
  obtain ⟨d, hd⟩ := h.owned hr
  exact h.evolves_exchange hr hd rfl fun others l' before after => .assigned before after active

/-- Saving a log makes its deployment one step, which sets the mark of the log. -/
theorem evolves_log (h : p.Consistent) (hr : p.records.get? r.key = some r)
    (log : DeploymentLog) :
    p.Evolves now ((p.withLog log).withRecord r.key (r.withLogMark true)) := by
  obtain ⟨d, hd⟩ := h.owned hr
  -- The log stands beside what evolves.
  have hev : p.Evolves now (p.withRecord r.key (r.withLogMark true)) :=
    h.evolves_exchange hr hd rfl fun others l' before after => .logged before after
  exact ⟨hev.keyed.withLog log, hev.owned, hev.deployment, hev.kept⟩

/-- A stop that is meant for records at rest only changes nothing. -/
theorem map_stopIf_eq_self {test : DeviceRecord → Bool} {s : DeviceStatus} {l : List DeviceRecord}
    (h : ∀ r ∈ l, test r = true → r.status.isActive = false) :
    (l.map fun r => r.stopIf (test r) s now) = l := by
  refine (List.map_congr_left fun r hr => ?_).trans (List.map_id _)
  rw [DeviceRecord.stopIf]
  split
  · next hstop =>
    rw [Bool.and_eq_true] at hstop
    rw [h r hr hstop.1] at hstop
    cases hstop.2
  · rfl

/-- A stop of some records, with the deployments of a list finished and counted anew, where a
deployment that is not in the list has no record to stop. -/
theorem evolves_stop (h : p.Consistent) (test : DeviceRecord → Bool) (s : DeviceStatus)
    (ids : List DeploymentId)
    (hothers : ∀ {id}, id ∉ ids → ∀ r ∈ p.recordsOf id, test r = true → r.status.isActive = false)
    (step : ∀ {id d}, id ∈ ids → p.deployments.get? id = some d →
      d.Progress now (p.recordsOf id)
        ((d.withStats ((p.stopRecords test s now).tallyOf id)).finishAt now)
        ((p.recordsOf id).map fun r => r.stopIf (test r) s now)) :
    p.Evolves now (ids.foldl (fun p id => p.recounted id now) (p.stopRecords test s now)) := by
  obtain ⟨hrecords, hget⟩ := foldl_recounted (p.stopRecords test s now) ids now
  have hkeyed := h.keyed.stopRecords test s now
  -- Counting anew writes to deployments only, so the records are those after the stop.
  have hrecordsOf (id : DeploymentId) :
      (ids.foldl (fun p id => p.recounted id now) (p.stopRecords test s now)).recordsOf id
        = (p.recordsOf id).map fun r => r.stopIf (test r) s now := by
    rw [recordsOf, hrecords]
    exact recordsOf_stopRecords p test s now id
  simp only [deployments_stopRecords] at hget
  have hkept {id : DeploymentId} {d : Deployment} (hd : p.deployments.get? id = some d) :
      ∃ d', (ids.foldl (fun p id => p.recounted id now)
        (p.stopRecords test s now)).deployments.get? id = some d' := by
    rw [hget, hd]
    split <;> exact ⟨_, rfl⟩
  refine ⟨⟨fun {id d'} hd' => ?_, fun hr => ?_⟩, fun {k r} hr => ?_, fun {id d'} hd' => .inl ?_,
    hkept⟩
  · rw [hget] at hd'
    split at hd'
    · obtain ⟨d, hd, rfl⟩ := Option.map_eq_some_iff.1 hd'
      exact (h.keyed.deployment hd : d.id = id)
    · exact h.keyed.deployment hd'
  · rw [hrecords] at hr
    exact hkeyed.record hr
  · rw [hrecords, get?_stopRecords] at hr
    obtain ⟨r, hr, -⟩ := Option.map_eq_some_iff.1 hr
    obtain ⟨d, hd⟩ := h.owned hr
    exact hkept hd
  · rw [hget] at hd'
    rw [hrecordsOf]
    split at hd'
    · next hmem =>
      obtain ⟨d, hd, rfl⟩ := Option.map_eq_some_iff.1 hd'
      exact ⟨d, hd, step hmem hd⟩
    · next hmem =>
      rw [map_stopIf_eq_self (hothers hmem)]
      exact ⟨d', hd', .rest (.refl _)⟩

/-- An abort makes the deployment one step, in which all of its active records are stopped. -/
theorem evolves_abort (h : p.Consistent) (hd : p.deployments.get? id = some d)
    (unfinished : d.isFinished = false) : p.Evolves now (p.afterAbort id now) := by
  have hmeant : ((p.recordsOf id).map fun r => r.stopIf (r.deploymentId = id) .aborted now)
      = (p.recordsOf id).map (·.stopIf true .aborted now) :=
    List.map_congr_left fun r hr => by rw [(List.mem_filter.1 hr).2]
  refine h.evolves_stop _ _ [id] (fun hid r hr hmeant => ?_) fun {id' d'} hid hd' => ?_
  · have hrid : r.deploymentId = _ := of_decide_eq_true (List.mem_filter.1 hr).2
    rw [← hrid, List.mem_singleton] at hid
    exact absurd (of_decide_eq_true hmeant) hid
  · obtain rfl := List.mem_singleton.1 hid
    rw [hd] at hd'
    cases hd'
    rw [tallyOf, recordsOf_stopRecords, hmeant]
    exact .aborted unfinished rfl

/-- Taking a device out of service makes each deployment one step where it had work to do. The other
ones stay. -/
theorem evolves_decommission (h : p.Consistent) (device : DeviceId) :
    p.Evolves now (p.afterDecommission device now) := by
  refine h.evolves_stop _ _ _ (fun hid r hr hown => ?_) fun {id d} hid hd => ?_
  · by_contra hactive
    exact hid (mem_affected.2 ⟨r, hr, of_decide_eq_true hown, by simpa using hactive⟩)
  · obtain ⟨r, hr, hown, hactive⟩ := mem_affected.1 hid
    rw [tallyOf, recordsOf_stopRecords]
    exact .decommissioned hr hown hactive rfl

/-- A deployment that is not there has no records. -/
theorem recordsOf_eq_nil (h : p.Consistent) (hfresh : p.deployments.get? id = none) :
    p.recordsOf id = [] := by
  refine List.eq_nil_iff_forall_not_mem.2 fun r hr => ?_
  obtain ⟨e, he⟩ := h.owned ((mem_recordsOf h.keyed).1 hr)
  rw [hfresh] at he
  cases he

/-- Counting never overflows. -/
theorem bounded (h : p.Consistent) (id : DeploymentId) : (p.recordsOf id).length < 2 ^ 64 := by
  cases hd : p.deployments.get? id with
  | none =>
    rw [h.recordsOf_eq_nil hd, List.length_nil]
    exact Nat.two_pow_pos 64
  | some d => exact (h.counts hd).bounded

/-- Under a free name there is no record of any device. -/
theorem free (h : p.Consistent) (hfresh : p.deployments.get? id = none) (device : DeviceId) :
    p.records.get? (id, device) = none := by
  cases hget : p.records.get? (id, device) with
  | none => rfl
  | some r =>
    obtain ⟨e, he⟩ := h.owned hget
    rw [hfresh] at he
    cases he

/-- A new deployment under a free name, with a record for each of some devices. -/
theorem evolves_opened (h : p.Consistent) {l : List DeviceRecord}
    (hopened : Deployment.Opened now d l) (hfresh : p.deployments.get? d.id = none)
    (hown : ∀ r ∈ l, r.deploymentId = d.id) (hnodup : (l.map (·.key)).Nodup) :
    p.Evolves now (p.withOpened d l) := by
  have hfree : ∀ r ∈ l, (p.withDeployment d.id d).records.get? r.key = none := by
    intro r hr
    rw [DeviceRecord.key, hown r hr]
    exact h.free hfresh r.deviceId
  have hrecordsOf := recordsOf_withRecords hfree hnodup
  have hget := get?_withOpened p d l
  have hkeyed : (p.withOpened d l).Keyed := (h.keyed.withDeployment rfl).withRecords l
  refine ⟨hkeyed, fun {k r} hr => ?_, fun {id d'} hd' => ?_, fun {id e} he => ?_⟩
  · -- A record is one of the new ones or an old one.
    have hkey := hkeyed.record hr
    have hmem : r ∈ (p.withOpened d l).recordsOf r.deploymentId :=
      (mem_recordsOf hkeyed).2 (by rw [← hkey] at hr; exact hr)
    rw [← hkey, show r.key.1 = r.deploymentId from rfl, hget]
    rcases List.mem_append.1 ((hrecordsOf r.deploymentId).mem_iff.1 hmem) with hnew | hold
    · rw [hown r (List.mem_filter.1 hnew).1, if_pos rfl]
      exact ⟨d, rfl⟩
    · split
      · exact ⟨d, rfl⟩
      · exact h.owned ((mem_recordsOf h.keyed).1 hold)
  -- The records of the new deployment are the new ones; every other keeps its own.
  · have hperm := hrecordsOf id
    rw [recordsOf_withDeployment] at hperm
    rw [hget] at hd'
    split at hd'
    · next hid =>
      cases hd'
      subst hid
      have hall : ∀ r ∈ l, decide (r.deploymentId = d.id) = true := fun r hr =>
        decide_eq_true (hown r hr)
      rw [h.recordsOf_eq_nil hfresh, List.append_nil, List.filter_eq_self.2 hall] at hperm
      exact .inr ⟨hfresh, hopened.perm hperm.symm⟩
    · next hid =>
      refine .inl ⟨d', hd', ?_⟩
      have hnone : l.filter (·.deploymentId = id) = [] :=
        List.filter_eq_nil_iff.2 fun r hr => by rw [hown r hr]; simpa using hid
      rw [hnone, List.nil_append] at hperm
      exact .rest hperm
  · rw [hget]
    split
    · exact ⟨d, rfl⟩
    · exact ⟨e, he⟩

end Consistent

end Partition

end Fleet
