import Fleet.Proofs.Store.Consistency

/-!
# `Fleet.Proofs.Store.Entries`: what two devices write commutes

A device that calls leaves an `Entry`: its record in one deployment, perhaps with a log. The
deployment follows. Its counters become those of its records, and it is closed if all of its
devices are at rest (`settled`).

Entries of two devices commute although they may share a deployment (`entered_comm`). The
counters after both are those of the records after both, in either order. The finish time is the
same because an entry wakes no device: a deployment that the first entry closes, the second one
would have closed too, at the same time. So it makes no difference to settle a deployment once
more in between (`entered_entered`).

An entry of one device leaves another with all that it can meet in its calls
(`SameFor.of_entered`).
-/

set_option autoImplicit false

namespace Fleet

open Fleet.Time

/-- What a device leaves when it calls. -/
structure Entry where
  /-- Its record in a deployment. -/
  record : DeviceRecord
  /-- Its log of the deployment. -/
  log : Option DeploymentLog := none
  /-- The log is for the deployment of the record. -/
  logged : ∀ l ∈ log, l.key = record.key := by simp

/-- The deployment at its creation, apart from the devices that were at rest already. -/
def Deployment.terms (d : Deployment) : Deployment := { d with stats := .zero, finished := none }

namespace Deployment

variable (d : Deployment) (now : Instant) (st st' : Stats)

/-- What was settled at creation does not depend on the counters. -/
@[simp] theorem terms_withStats : (d.withStats st).terms = d.terms := rfl

/-- What was settled at creation stays when a deployment is closed. -/
@[simp] theorem terms_closeAt : (d.closeAt now).terms = d.terms := by
  rw [closeAt]
  split <;> rfl

/-- Whether all devices are at rest by some counters does not depend on the finish time. -/
theorem allDevicesTerminal_withStats_closeAt :
    ((d.closeAt now).withStats st).allDevicesTerminal = (d.withStats st).allDevicesTerminal := by
  rw [closeAt]
  split <;> rfl

/-- To close a deployment also at an earlier count, at the same time, makes no difference if it
is closed at the later one then. -/
theorem closeAt_withStats_closeAt
    (h : (d.withStats st).allDevicesTerminal = true → (d.withStats st').allDevicesTerminal = true) :
    (((d.withStats st).closeAt now).withStats st').closeAt now = (d.withStats st').closeAt now := by
  cases hdone : !d.isFinished && (d.withStats st).allDevicesTerminal with
  | false =>
    have hopen : (d.withStats st).closeAt now = d.withStats st := by
      rw [closeAt, isFinished_withStats, hdone, if_neg Bool.false_ne_true]
    rw [hopen]
    rfl
  | true =>
    -- A deployment that is closed already keeps its finish time.
    have hclosed : (d.withStats st).closeAt now = (d.withStats st).finishAt now := by
      rw [closeAt, isFinished_withStats, hdone, if_pos rfl]
    rw [Bool.and_eq_true] at hdone
    rw [hclosed, closeAt, closeAt, isFinished_withStats, isFinished_withStats, isFinished_finishAt,
      hdone.1, h hdone.2]
    rfl

end Deployment

namespace Partition

/-- The part after a deployment was counted and, if all of its devices are at rest, closed. -/
def settled (p : Partition) (id : DeploymentId) (now : Instant) : Partition :=
  { p with
    deployments := p.deployments.modify id fun d => (d.withStats (p.tallyOf id)).closeAt now }

/-- The part with the log and the record of an entry. -/
def written (p : Partition) (e : Entry) : Partition :=
  (e.log.elim p p.withLog).withRecord e.record.key e.record

/-- The part after an entry. -/
def entered (p : Partition) (e : Entry) (now : Instant) : Partition :=
  (p.written e).settled e.record.deploymentId now

/-- The part after an entry, if there is one. -/
def after (p : Partition) (e : Option Entry) (now : Instant) : Partition :=
  e.elim p (p.entered · now)

variable {p p' : Partition} {e e' : Entry} {now : Instant} {id id' : DeploymentId}
  {r : DeviceRecord} {d : Deployment}

section

variable (p e e' now id id')

/-- Settling a deployment leaves the records alone. -/
@[simp] theorem records_settled : (p.settled id now).records = p.records := rfl

/-- Settling a deployment leaves the logs alone. -/
@[simp] theorem logs_settled : (p.settled id now).logs = p.logs := rfl

/-- A settled deployment has the counters of its records, and is closed if all devices are at rest
by them. The other ones stay. -/
theorem get?_settled : (p.settled id now).deployments.get? id'
    = if id = id' then
        (p.deployments.get? id').map fun d => (d.withStats (p.tallyOf id)).closeAt now
      else p.deployments.get? id' :=
  Table.get?_modify ..

/-- Writing an entry leaves the deployments alone, until they are settled. -/
@[simp] theorem deployments_written : (p.written e).deployments = p.deployments := by
  rw [written, deployments_withRecord]
  cases e.log <;> rfl

/-- Writing an entry stores its record under its own names. -/
@[simp] theorem records_written :
    (p.written e).records = p.records.insert e.record.key e.record := by
  rw [written, withRecord]
  cases e.log <;> rfl

/-- After an entry, the deployment of its record is settled and the other ones stay. -/
theorem get?_entered : (p.entered e now).deployments.get? id
    = if e.record.deploymentId = id then
        (p.deployments.get? id).map fun d =>
          (d.withStats ((p.written e).tallyOf e.record.deploymentId)).closeAt now
      else p.deployments.get? id := by
  rw [entered, get?_settled, deployments_written]

/-- The counters after an entry are those of the records with that of the entry. -/
theorem tallyOf_entered : (p.entered e now).tallyOf id = (p.written e).tallyOf id :=
  tallyOf_congr (records_settled ..) id

/-- For the counters after a second entry it does not matter whether the first one was settled. -/
theorem tallyOf_written_entered :
    ((p.entered e now).written e').tallyOf = ((p.written e).written e').tallyOf :=
  funext fun k => tallyOf_congr (by simp [entered]) k

/-- The logs of a part with an entry. -/
theorem logs_written : (p.written e).logs = e.log.elim p.logs fun l => p.logs.insert l.key l := by
  rw [written, withRecord]
  cases e.log <;> rfl

end

/-- Two parts with the same tables are the same. -/
theorem ext_tables (hdeployments : p.deployments = p'.deployments)
    (hrecords : p.records = p'.records) (hlogs : p.logs = p'.logs) : p = p' := by
  cases p
  cases p'
  simp_all

/-! ### A settled part -/

/-- In a consistent part every deployment is settled. -/
theorem Consistent.settled_eq (h : p.Consistent) (id : DeploymentId) (now : Instant) :
    p.settled id now = p := by
  refine ext_tables (Table.ext_get? fun k => ?_) rfl rfl
  rw [get?_settled]
  split
  · next hk =>
    subst hk
    cases hd : p.deployments.get? id with
    | none => rfl
    | some d =>
      have hstats : d.withStats (p.tallyOf id) = d := by
        rw [tallyOf, ← (h.counts hd).stats]
        rfl
      rw [Option.map_some, hstats, Deployment.closeAt]
      -- An unfinished deployment has a device with work to do.
      split
      · next hdone =>
        rw [Bool.and_eq_true, Bool.not_eq_true'] at hdone
        obtain ⟨⟨r, hr, hactive⟩, -⟩ := (h.inPhase hd).unfinished hdone.1
        have hterminal := (h.counts hd).allDevicesTerminal_iff.1 hdone.2 r hr
        rw [DeviceStatus.isTerminal_eq, hactive] at hterminal
        cases hterminal
      · rfl
  · rfl

/-- Two deployments can be settled in either order, as settling reads the records alone. -/
theorem settled_comm (p : Partition) (id id' : DeploymentId) (now : Instant) :
    (p.settled id now).settled id' now = (p.settled id' now).settled id now := by
  refine ext_tables (Table.ext_get? fun k => ?_) rfl rfl
  have htally (i j : DeploymentId) : (p.settled i now).tallyOf j = p.tallyOf j :=
    tallyOf_congr (records_settled ..) j
  simp only [get?_settled, htally]
  by_cases hk : id = k <;> by_cases hk' : id' = k <;> simp [hk, hk']

/-! ### Entries -/

/-- A part that an entry is made in: it has a record to be replaced, and it is consistent
afterwards. -/
structure Takes (p : Partition) (now : Instant) (e : Entry) : Prop where
  /-- The record was there before, and a device at rest stays at rest. -/
  stored : ∃ r, p.records.get? e.record.key = some r ∧
    (r.status.isTerminal = true → e.record.status.isTerminal = true)
  /-- The part stays consistent. -/
  consistent : (p.entered e now).Consistent

/-- A part that takes an entry stays consistent, and it does without one. -/
theorem Consistent.after (h : p.Consistent) {e : Option Entry} (he : ∀ i ∈ e, p.Takes now i) :
    (p.after e now).Consistent := by
  cases e with
  | none => exact h
  | some i => exact (he i rfl).consistent

/-- Entries with different names can be written in either order. -/
theorem written_comm (h : e.record.key ≠ e'.record.key) :
    (p.written e).written e' = (p.written e').written e := by
  refine ext_tables ?_ ?_ ?_
  · simp only [deployments_written]
  · simp only [records_written]
    exact Table.insert_comm h _ _
  · simp only [logs_written]
    cases hlog : e.log with
    | none => rfl
    | some l =>
      cases hlog' : e'.log with
      | none => rfl
      | some l' =>
        have hkeys : l.key ≠ l'.key := by
          rw [e.logged l hlog, e'.logged l' hlog']
          exact h
        exact Table.insert_comm hkeys _ _

/-- A device at rest is at rest after an entry, too. -/
theorem Takes.terminal (hkeyed : p.Keyed) (h : p.Takes now e)
    (hall : ∀ r ∈ p.recordsOf id, r.status.isTerminal = true) :
    ∀ r ∈ (p.entered e now).recordsOf id, r.status.isTerminal = true := by
  intro r hr
  rw [mem_recordsOf h.consistent.keyed, entered, records_settled, records_written,
    Table.get?_insert] at hr
  split at hr
  · next hkey =>
    cases hr
    obtain ⟨s, hs, hrest⟩ := h.stored
    have hid : e.record.deploymentId = id := (Prod.mk.inj hkey).1
    refine hrest (hall s ((mem_recordsOf hkeyed).2 ?_))
    rw [← hid, (Prod.mk.inj (hkeyed.record hs)).2]
    exact hs
  · exact hall r ((mem_recordsOf hkeyed).2 hr)

/-- An entry does not count in the deployments of others. -/
theorem tallyOf_written_of_ne (hkeyed : p.Keyed) (h : p.Takes now e)
    (hid : e.record.deploymentId ≠ id) : (p.written e).tallyOf id = p.tallyOf id := by
  obtain ⟨r, hr, -⟩ := h.stored
  have hrid : r.deploymentId = e.record.deploymentId := (Prod.mk.inj (hkeyed.record hr)).1
  have hrecords : (p.written e).records = (p.withRecord e.record.key e.record).records :=
    records_written p e
  rw [tallyOf_congr hrecords, tallyOf, tallyOf,
    recordsOf_withRecord_of_ne hr (by rw [hrid]; exact hid) hrid.symm]

/-- Where an entry has brought all devices of a deployment to rest, they are at rest after
another one, too. -/
theorem Takes.keeps_done (he : p.Takes now e) (he' : (p.entered e now).Takes now e')
    (hid : e'.record.deploymentId = e.record.deploymentId)
    (hd : p.deployments.get? e.record.deploymentId = some d) :
    (d.withStats ((p.written e).tallyOf e.record.deploymentId)).allDevicesTerminal = true →
      (d.withStats (((p.written e).written e').tallyOf
        e.record.deploymentId)).allDevicesTerminal = true := by
  have hfirst := get?_entered p e now e.record.deploymentId
  rw [if_pos rfl, hd, Option.map_some] at hfirst
  have hsecond := get?_entered (p.entered e now) e' now e.record.deploymentId
  rw [if_pos hid, hfirst, Option.map_some, hid, tallyOf_written_entered] at hsecond
  intro hdone
  -- Both counts are those of consistent parts, so they can be read off the records.
  have hall := (he.consistent.counts hfirst).allDevicesTerminal_iff.1
    ((Deployment.allDevicesTerminal_closeAt _ _).trans hdone)
  have hdone' := (he'.consistent.counts hsecond).allDevicesTerminal_iff.2
    (he'.terminal he.consistent.keyed hall)
  rw [Deployment.allDevicesTerminal_closeAt, Deployment.allDevicesTerminal_withStats_closeAt]
    at hdone'
  exact hdone'

/-- To settle a deployment between two entries makes no difference. -/
theorem entered_entered (he : p.Takes now e) (he' : (p.entered e now).Takes now e') :
    (p.entered e now).entered e' now
      = (((p.written e).written e').settled e.record.deploymentId now).settled
          e'.record.deploymentId now := by
  refine ext_tables (Table.ext_get? fun k => ?_) (by simp [entered])
    (by simp [entered, logs_written])
  have hsettled : (((p.written e).written e').settled e.record.deploymentId now).tallyOf
      = ((p.written e).written e').tallyOf :=
    funext fun k => tallyOf_congr (records_settled ..) k
  rw [get?_entered, get?_entered, get?_settled, get?_settled, hsettled, tallyOf_written_entered,
    deployments_written, deployments_written]
  by_cases hk : e.record.deploymentId = k
  · subst hk
    cases hd : p.deployments.get? e.record.deploymentId with
    | none => rfl
    | some d =>
      simp only [if_pos, Option.map_some]
      by_cases hk' : e'.record.deploymentId = e.record.deploymentId
      -- The deployment is that of both entries, and is closed once.
      · have hdone := he.keeps_done he' hk' hd
        rw [if_pos hk', if_pos hk', hk', Deployment.closeAt_withStats_closeAt _ _ _ _ hdone,
          Deployment.closeAt_withStats_closeAt _ _ _ _ id]
      -- The second entry is about another deployment.
      · have htally := tallyOf_written_of_ne he.consistent.keyed he' hk'
        rw [tallyOf_written_entered, tallyOf_entered] at htally
        simp only [if_neg hk', htally]
  · simp only [if_neg hk]

/-- Entries under different keys commute. -/
theorem entered_comm (hkey : e.record.key ≠ e'.record.key) (he : p.Takes now e)
    (he' : p.Takes now e') (hthen : (p.entered e now).Takes now e')
    (hthen' : (p.entered e' now).Takes now e) :
    (p.entered e now).entered e' now = (p.entered e' now).entered e now :=
  calc (p.entered e now).entered e' now
      = (((p.written e).written e').settled e.record.deploymentId now).settled
          e'.record.deploymentId now := entered_entered he hthen
    _ = (((p.written e').written e).settled e'.record.deploymentId now).settled
          e.record.deploymentId now := by rw [written_comm hkey, settled_comm]
    _ = (p.entered e' now).entered e now := (entered_entered he' hthen').symm

/-- Two calls may leave an entry each, or one of them, or none. -/
theorem after_comm {f : Option Entry} {e : Option Entry}
    (hkey : ∀ i ∈ e, ∀ j ∈ f, i.record.key ≠ j.record.key) (he : ∀ i ∈ e, p.Takes now i)
    (hf : ∀ j ∈ f, p.Takes now j) (hthen : ∀ j ∈ f, (p.after e now).Takes now j)
    (hthen' : ∀ i ∈ e, (p.after f now).Takes now i) :
    (p.after e now).after f now = (p.after f now).after e now := by
  cases e with
  | none => rfl
  | some i =>
    cases f with
    | none => rfl
    | some j =>
      exact entered_comm (hkey i rfl j rfl) (he i rfl) (hf j rfl) (hthen j rfl) (hthen' i rfl)

/-! ### The entries that calls make -/

namespace Consistent

/-- A report leaves the entry of the moved record: its counters and its finish time are those of a
settled deployment. -/
theorem afterReport_eq (h : p.Consistent) (hd : p.deployments.get? r.deploymentId = some d)
    (status : DeviceStatus) (substate : Option String) (now : Instant) :
    p.afterReport d r status substate now
      = p.entered { record := r.movedTo status substate now } now := by
  have hid : d.id = r.deploymentId := h.keyed.deployment hd
  refine ext_tables ?_ rfl rfl
  rw [afterReport, hid]
  exact (Table.modify_of_get? (fun d => (d.withStats
    ((p.written { record := r.movedTo status substate now }).tallyOf r.deploymentId)).closeAt now)
    hd).symm

/-- A device that moves on leaves its record. -/
theorem takes_report (h : p.Consistent) (hr : p.records.get? r.key = some r)
    (hd : p.deployments.get? r.deploymentId = some d) {status : DeviceStatus}
    (substate : Option String) (active : r.status.isActive = true)
    (reportable : status.isReportable = true) (changed : r.status ≠ status) :
    p.Takes now { record := r.movedTo status substate now } where
  stored := by
    refine ⟨r, hr, fun hterminal => ?_⟩
    rw [DeviceStatus.isTerminal_eq, active] at hterminal
    cases hterminal
  consistent := by
    rw [← h.afterReport_eq hd]
    exact h.evolves (h.evolves_report hr hd substate active reportable changed)

end Consistent

/-- An entry that leaves the status of the device alone closes nothing. -/
theorem Takes.of_status (now : Instant) (hr : p.records.get? e.record.key = some r)
    (hstatus : e.record.status = r.status) (hwritten : (p.written e).Consistent) :
    p.Takes now e ∧ p.entered e now = p.written e := by
  have hentered : p.entered e now = p.written e := hwritten.settled_eq _ _
  refine ⟨⟨⟨r, hr, fun hterminal => ?_⟩, ?_⟩, hentered⟩
  · rw [hstatus]
    exact hterminal
  · rw [hentered]
    exact hwritten

/-! ### What a device can meet -/

/-- Two parts hold the same for a device: its records, and the deployments apart from how far
they have come. -/
structure SameFor (device : DeviceId) (p p' : Partition) : Prop where
  record : ∀ id, p'.records.get? (id, device) = p.records.get? (id, device)
  active : p'.activeOf device = p.activeOf device
  terms : ∀ id, (p'.deployments.get? id).map (·.terms) = (p.deployments.get? id).map (·.terms)

namespace SameFor

variable {device : DeviceId}

/-- A part shows a device what it showed it before. -/
theorem refl (device : DeviceId) (p : Partition) : SameFor device p p :=
  ⟨fun _ => rfl, rfl, fun _ => rfl⟩

/-- The deployment of one part is found in the other one, on the same terms. -/
theorem deployment (h : SameFor device p p') (hd : p.deployments.get? id = some d) :
    ∃ d', p'.deployments.get? id = some d' ∧ d'.terms = d.terms := by
  have hterms := h.terms id
  rw [hd, Option.map_some, Option.map_eq_some_iff] at hterms
  exact hterms

/-- An entry of one device is nothing that another one can meet. -/
theorem of_entered (hkeyed : p.Keyed) (h : p.Takes now e) (hdevice : e.record.deviceId ≠ device) :
    SameFor device p (p.entered e now) where
  record id := by
    rw [entered, records_settled, records_written, Table.get?_insert, if_neg]
    exact fun hkey => hdevice (Prod.mk.inj hkey).2
  active := by
    obtain ⟨r, hr, -⟩ := h.stored
    have hother : r.deviceId ≠ device := by
      rw [(Prod.mk.inj (hkeyed.record hr)).2]
      exact hdevice
    -- The record of the other device is exchanged, and neither is one of this device.
    obtain ⟨before, after, hvalues, hinsert⟩ := Table.values_insert_of_get? hr
    rw [activeOf, activeOf, entered, records_settled, records_written, hvalues, hinsert,
      List.filter_append, List.filter_append, List.filter_cons_of_neg (by simp [hdevice]),
      List.filter_cons_of_neg (by simp [hother])]
  terms id := by
    rw [get?_entered]
    split
    · rw [Option.map_map]
      refine congrArg (fun f => Option.map f _) (funext fun d => ?_)
      simp
    · rfl

/-- What other devices enter does not change what a device can meet in its calls. -/
theorem of_after (hkeyed : p.Keyed) {e : Option Entry}
    (h : ∀ i ∈ e, i.record.deviceId ≠ device ∧ p.Takes now i) :
    SameFor device p (p.after e now) := by
  cases e with
  | none => exact .refl device p
  | some i => exact .of_entered hkeyed (h i rfl).2 (h i rfl).1

end SameFor

end Partition

end Fleet
