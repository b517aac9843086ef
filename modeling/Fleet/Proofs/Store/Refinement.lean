import Fleet.Proofs.Store.Mirror
import Fleet.Proofs.Store.Oldest

/-!
# `Fleet.Proofs.Store.Refinement`: rows answer as tables do

`run_follows` compares a call on the part of a tenant with the same call on rows that mirror
the part: both give the same answer and the rows mirror the part again, or both fail with the
same error. Calls that write are compared through the writes that `Fleet.Proofs.Store.Mirror`
has lemmas for. Of the calls that read, only the search for the oldest active record takes
another way, by sorting rows.

`StoreCall.Storable` is what a call must bring: values that can be stored, and times of
creation that fit a column.
-/

set_option autoImplicit false

namespace Fleet

open Fleet.Time Fleet.Codec

/-- All that a call may write can be stored, and the times of creation that it brings fit 64
bits. -/
def StoreCall.Storable : StoreCall → Prop
  | .insertDeployment d => d.Storable ∧ d.created.hasWordNanos = true
  | .insertRecords l => ∀ r ∈ l, r.Storable ∧ r.created.hasWordNanos = true
  | .finishWithStats _ _ finished | .finishDeployment _ finished | .abortRecords _ finished
  | .decommissionRecords _ finished => finished.Representable
  | .updateStatus _ _ _ _ finished => ∀ t ∈ finished, t.Representable
  | .assignArtifact _ _ _ a => a.Storable
  | .saveLog log => log.Storable
  | _ => True

/-! ### Changed values stay storable -/

/-- Counters are words, so any of them can be stored. -/
theorem Deployment.Storable.withStats {d : Deployment} (h : d.Storable) (st : Stats) :
    (d.withStats st).Storable where
  plan := h.plan
  created := h.created
  finished := h.finished
  deviceCount := h.deviceCount
  maxDevices := h.maxDevices

/-- A deployment stays storable when it is finished at a time that can be written. -/
theorem Deployment.Storable.finishAt {d : Deployment} (h : d.Storable) {now : Instant}
    (hnow : now.Representable) : (d.finishAt now).Storable where
  plan := h.plan
  created := h.created
  finished t ht := by
    cases hfinished : d.finished with
    | none =>
      rw [Deployment.finishAt, hfinished] at ht
      cases ht
      exact hnow
    | some t' =>
      rw [Deployment.finishAt, hfinished] at ht
      cases ht
      exact h.finished _ hfinished
  deviceCount := h.deviceCount
  maxDevices := h.maxDevices

namespace DeviceRecord.Storable

variable {r : DeviceRecord} (h : r.Storable)
include h

/-- A record stays storable with another status, if its finish time can be written. -/
theorem withStatus (s : DeviceStatus) (substate : Option String) {finished : Option Instant}
    (hfinished : ∀ t ∈ finished, t.Representable) :
    (r.withStatus s substate finished).Storable where
  artifact := h.artifact
  created := h.created
  finished := hfinished

/-- A record stays storable with an artifact that can be stored. -/
theorem withArtifact (deviceType : String) {a : Artifact} (ha : a.Storable) :
    (r.withArtifact deviceType a).Storable where
  artifact a' ha' := by
    cases ha'
    exact ha
  created := h.created
  finished := h.finished

/-- A record stays storable with the mark of a log. -/
theorem withLogMark (available : Bool) : (r.withLogMark available).Storable where
  artifact := h.artifact
  created := h.created
  finished := h.finished

/-- A record stays storable when it is stopped at a time that can be written. -/
theorem stopAt (s : DeviceStatus) {now : Instant} (hnow : now.Representable) :
    (r.stopAt s now).Storable where
  artifact := h.artifact
  created := h.created
  finished t ht := by
    cases ht
    exact hnow

end DeviceRecord.Storable

/-- The active records of a device are the active ones among its records. -/
theorem Partition.activeOf_eq (p : Partition) (device : DeviceId) : p.activeOf device
    = (p.records.values.filter (·.deviceId = device)).filter (·.status.isActive) := by
  rw [activeOf, List.filter_filter]
  exact List.filter_congr fun r _ => Bool.and_comm _ _

namespace Database

/-- A call on rows comes to what it comes to on a part: the same answer, with rows that mirror
the part afterwards, or the same error. -/
inductive Follows (db : Database) (tenant : TenantId) {α : Type} :
    Except StoreError (α × Partition) → Except StoreError (α × Database) → Prop where
  | ok {a : α} {p' : Partition} {db' : Database} (h : Moves db db' tenant p') :
      Follows db tenant (.ok (a, p')) (.ok (a, db'))
  | error {e : StoreError} : Follows db tenant (.error e) (.error e)

variable {db db' : Database} {tenant : TenantId} {p p' : Partition}

/-- A call that follows another one from where the rows have moved to follows it from where they
began. -/
theorem Moves.follows {α : Type} {x : Except StoreError (α × Partition)}
    {y : Except StoreError (α × Database)} (h : Moves db db' tenant p')
    (hxy : Follows db' tenant x y) : Follows db tenant x y := by
  cases hxy with
  | ok h' => exact .ok (h.trans h')
  | error => exact .error

/-- Rows are sorted as their records are, since the columns repeat the moment of creation and the
name. -/
theorem rowBefore_entry (tenant : TenantId) (a b : DeviceRecord) :
    rowBefore (a.entry tenant) (b.entry tenant) = !createdBefore b a := by
  rw [Bool.eq_iff_iff, Bool.not_eq_true', createdBefore_eq_false_iff]
  show (decide (a.created.nanos < b.created.nanos)
    || (decide (a.created.nanos = b.created.nanos) && decide (a.deploymentId ≤ b.deploymentId)))
      = true ↔ _
  rw [Bool.or_eq_true, Bool.and_eq_true, decide_eq_true_eq, decide_eq_true_eq, decide_eq_true_eq]

namespace Mirrors

variable (h : db.Mirrors tenant p)
include h

/-! ### Changes of one value -/

/-- A change of a deployment in rows follows that in tables, if the change keeps the name and the
time of creation, which are columns, and keeps the deployment storable. -/
theorem updateDeployment_follows (id : DeploymentId)
    {f : Deployment → Except StoreError Deployment}
    (hf : ∀ d d', f d = .ok d' → d'.id = d.id ∧ d'.created = d.created ∧
      (d.Storable → d'.Storable)) :
    Follows db tenant ((p.updateDeployment id f).map ((), ·))
      ((db.updateDeployment tenant id f).map ((), ·)) := by
  rw [Partition.updateDeployment, Database.updateDeployment, h.loadDeployment_eq]
  cases hget : p.deployments.get? id with
  | none => exact .error
  | some d =>
    show Follows db tenant (((f d).map _).map _) (((f d).bind _).map _)
    cases hd : f d with
    | error e => exact .error
    | ok d' =>
      obtain ⟨hid, hcreated, hstorable⟩ := hf d d' hd
      have hdocument := (hstorable (h.durable.deployment hget)).document.1
      -- The part writes to the name that was asked for, the rows to that of the deployment.
      have hname : d'.id = id := hid.trans (h.durable.keyed.deployment hget)
      have hmoves := h.storeDeployment (d := d') (by rw [hname]; exact hget) hcreated
        (hstorable (h.durable.deployment hget))
      rw [hname] at hmoves
      show Follows db tenant _ (((encode encodeDeployment d').bind _).map _)
      rw [hdocument]
      exact .ok hmoves

/-- A change of a record in rows follows that in tables, if the change keeps the names and the time
of creation, which are columns, and keeps the record storable. -/
theorem updateRecord_follows {α : Type} (id : DeploymentId) (device : DeviceId)
    {f : DeviceRecord → DeviceRecord} (answer : DeviceRecord → α)
    (hf : ∀ r, (f r).key = r.key ∧ (f r).created = r.created ∧
      (r.Storable → (f r).Storable)) :
    Follows db tenant ((p.updateRecord id device f).map fun (r, p) => (answer r, p))
      ((db.updateRecord tenant id device f).map fun (r, db) => (answer r, db)) := by
  rw [Partition.updateRecord, Database.updateRecord, h.loadRecord_eq]
  cases hget : p.records.get? (id, device) with
  | none => exact .error
  | some r =>
    obtain ⟨hkey, hcreated, hstorable⟩ := hf r
    have hname : (f r).key = (id, device) := hkey.trans (h.durable.keyed.record hget)
    have hmoves := h.storeRecord (r := f r) (by rw [hname]; exact hget) hcreated
      (hstorable (h.durable.record hget))
    rw [hname] at hmoves
    show Follows db tenant _ (((encode encodeRecord (f r)).bind _).map _)
    rw [(hstorable (h.durable.record hget)).document.1]
    exact .ok hmoves

/-- Finishing a deployment in rows follows that in tables. The column for it says whether there is
anything to do. -/
theorem finishDeployment_follows (id : DeploymentId) {finished : Instant}
    (hfinished : finished.Representable) :
    Follows db tenant (p.run (.finishDeployment id finished))
      (db.run tenant (.finishDeployment id finished)) := by
  rw [Partition.run, Database.run, Partition.updateDeployment, h.loadDeployment_eq]
  cases hget : p.deployments.get? id with
  | none => exact .error
  | some d =>
    have hid := h.durable.keyed.deployment hget
    have hstorable := (h.durable.deployment hget).finishAt hfinished
    show Follows db tenant (.ok ((), p.withDeployment id (d.finishAt finished)))
      (if d.isFinished then .ok ((), db)
        else (encode encodeDeployment (d.finishAt finished)).bind fun document =>
          .ok ((), db.storeDeployment tenant (d.finishAt finished) document))
    rw [hstorable.document.1]
    split
    · next hdone =>
      -- A finish time that is set stays, so nothing need be written.
      have hsame : d.finishAt finished = d := by
        obtain ⟨t, ht⟩ := Option.isSome_iff_exists.1 hdone
        rw [Deployment.finishAt, ht, Option.getD_some, ← ht]
      rw [hsame, Partition.withDeployment_self hget]
      exact .ok (.refl h)
    · have hname : (d.finishAt finished).id = id := hid
      have hcreated : (d.finishAt finished).created = d.created := rfl
      have hmoves := h.storeDeployment (by rw [hname]; exact hget) hcreated hstorable
      rw [hname] at hmoves
      exact .ok hmoves

/-! ### New deployments and records -/

/-- The insertion of a deployment in rows follows that in tables, if its time of creation fits its
column. -/
theorem insertDeployment_follows {d : Deployment} (hd : d.Storable)
    (hcreated : d.created.hasWordNanos = true) :
    Follows db tenant (p.run (.insertDeployment d)) (db.run tenant (.insertDeployment d)) := by
  have hrow : deploymentRow d = .ok (.of d) :=
    deploymentRow_eq_ok_iff.2 ⟨hcreated, by rw [hd.document.1]; rfl, rfl⟩
  rw [Partition.run, Database.run, hrow]
  show Follows db tenant _ (if db.deployments.contains (tenant, d.id) then _ else _)
  rw [h.contains_deployments]
  split
  · exact .error
  · exact .ok (h.insertDeployment hd)

/-- Records are added one by one, and the first conflict ends both ways. -/
theorem insertRecords_follows {l : List DeviceRecord}
    (hl : ∀ r ∈ l, r.Storable ∧ r.created.hasWordNanos = true) :
    Follows db tenant ((l.foldlM Partition.addRecord p).map ((), ·))
      ((l.foldlM (addRecord tenant) db).map ((), ·)) := by
  induction l generalizing p db with
  | nil => exact .ok (.refl h)
  | cons r rest ih =>
    obtain ⟨hr, hcreated⟩ := hl r List.mem_cons_self
    have hrow : recordRow r = .ok (.of r) :=
      recordRow_eq_ok_iff.2 ⟨hcreated, by rw [hr.document.1]; rfl, rfl⟩
    have hadd : addRecord tenant db r
        = if p.records.contains r.key then .error (.recordExists r.deploymentId r.deviceId)
          else .ok { db with
            records := db.records.insert (tenant, r.deploymentId, r.deviceId) (.of r) } := by
      rw [addRecord, hrow]
      show (if db.records.contains (tenant, r.deploymentId, r.deviceId) then _ else _) = _
      rw [h.contains_records]
      rfl
    rw [List.foldlM_cons, List.foldlM_cons, Partition.addRecord, hadd]
    split
    · exact .error
    · have hmoves := h.insertRecord hr
      exact hmoves.follows (ih hmoves.mirrors fun s hs => hl s (List.mem_cons_of_mem _ hs))

/-! ### Stopping records -/

/-- Stopped records are written one by one. -/
theorem foldlM_storeRecord (s : DeviceStatus) {finished : Instant}
    (hfinished : finished.Representable) {l : List DeviceRecord}
    (hl : ∀ r ∈ l, r.Storable ∧
      ∃ old, p.records.get? r.key = some old ∧ r.created = old.created) :
    ∃ db', (l.foldlM (fun db r => do
        let r := r.stopAt s finished
        return db.storeRecord tenant r (← encode encodeRecord r)) db) = .ok db' ∧
      Moves db db' tenant (l.foldl (fun p r => p.withRecord r.key (r.stopAt s finished)) p) := by
  induction l generalizing p db with
  | nil => exact ⟨db, rfl, .refl h⟩
  | cons r rest ih =>
    obtain ⟨hr, old, hget, hcreated⟩ := hl r List.mem_cons_self
    have hold : p.records.get? (r.stopAt s finished).key = some old := hget
    have hmoves := h.storeRecord hold hcreated (hr.stopAt s hfinished)
    -- The records that are still to come have kept their times of creation.
    obtain ⟨db', hrest, hmoves'⟩ := ih hmoves.mirrors fun t ht => by
      obtain ⟨hstorable, old', hget', hcreated'⟩ := hl t (List.mem_cons_of_mem _ ht)
      refine ⟨hstorable, ?_⟩
      rw [Partition.get?_withRecord]
      split
      · next hkey =>
        have hsame : old = old' := by
          have hkey : r.key = t.key := hkey
          rw [hkey, hget'] at hget
          exact (Option.some.inj hget).symm
        exact ⟨_, rfl, by rw [hcreated', ← hsame, ← hcreated]; rfl⟩
      · exact ⟨old', hget', hcreated'⟩
    refine ⟨db', ?_, hmoves.trans hmoves'⟩
    rw [List.foldlM_cons]
    dsimp only
    rw [(hr.stopAt s hfinished).document.1]
    exact hrest

/-- Stopping records row by row mirrors stopping them at once, by induction on the records that are
meant. -/
theorem stopRecords_moves (test : DeviceRecord → Bool) (s : DeviceStatus) {finished : Instant}
    (hfinished : finished.Representable) :
    ∃ db', db.stopRecords tenant (p.records.values.filter test) s finished = .ok db' ∧
      Moves db db' tenant (p.stopRecords test s finished) := by
  -- Tables stop records in place, rows by one write each.
  have hfold (l : List DeviceRecord) (q : Partition) :
      l.foldl (fun p r => p.withRecord r.key (r.stopAt s finished)) q
        = { q with
            records := l.foldl (fun t r => t.insert r.key (r.stopAt s finished)) q.records } := by
    induction l generalizing q with
    | nil => rfl
    | cons r rest ih => exact ih _
  have hactive : (p.records.values.filter test).filter (·.status.isActive)
      = p.records.values.filter fun r => test r && r.status.isActive := by
    rw [List.filter_filter]
    exact List.filter_congr fun r _ => Bool.and_comm _ _
  rw [Partition.stopRecords, Table.mapValues_eq_foldl h.durable.keyed.record, ← hfold,
    Database.stopRecords, hactive]
  refine h.foldlM_storeRecord s hfinished fun r hr => ?_
  have hmem := (List.mem_filter.1 hr).1
  exact ⟨h.durable.storable_of_mem_values hmem, r, h.durable.get?_of_mem_values hmem, rfl⟩

/-! ### The oldest active record -/

/-- The first active record in sorted rows is the oldest active record. -/
theorem find?_sorted_eq_oldest (device : DeviceId) :
    ((p.records.values.filter (·.deviceId = device)).mergeSort fun a b => !createdBefore b a).find?
      (·.status.isActive) = oldest (p.activeOf device) := by
  rw [← List.head?_filter, Partition.activeOf_eq]
  refine (oldest_eq_head? ((List.mergeSort_perm _ _).filter _) (.filter _ ?_) ?_).symm
  · refine (List.pairwise_mergeSort ?_ ?_ _).imp fun hab => by simpa using hab
    · intro a b c hab hbc
      rw [Bool.not_eq_true'] at *
      exact createdBefore_eq_false_trans hab hbc
    · intro a b
      cases hba : createdBefore b a with
      | false => rfl
      | true => rw [createdBefore_asymm hba]; rfl
  · intro a ha b hb hid
    -- Of one device no two records have the same deployment.
    obtain ⟨hmem, hdevice⟩ := List.mem_filter.1 (List.mem_filter.1 ha).1
    obtain ⟨hmem', hdevice'⟩ := List.mem_filter.1 (List.mem_filter.1 hb).1
    have hkey : a.key = b.key := by
      rw [DeviceRecord.key, DeviceRecord.key, hid, of_decide_eq_true hdevice,
        of_decide_eq_true hdevice']
    have hget := h.durable.get?_of_mem_values hmem
    rw [hkey, h.durable.get?_of_mem_values hmem'] at hget
    exact (Option.some.inj hget).symm

/-- Sorting the rows of a device and decoding them gives its records sorted. -/
theorem decodeRows_sorted (device : DeviceId) :
    decodeRows ((db.rowsOfDevice tenant device).mergeSort rowBefore)
      = .ok ((p.records.values.filter (·.deviceId = device)).mergeSort
          fun a b => !createdBefore b a) := by
  rw [h.rowsOfDevice_eq, ← List.map_mergeSort fun a _ b _ => (rowBefore_entry tenant a b).symm]
  refine h.decodeRows_map fun r hr => ?_
  exact (List.mem_filter.1 ((List.mergeSort_perm _ _).mem_iff.1 hr)).1

/-! ### All calls -/

/-- Every call on rows follows the call on the part that they mirror. -/
theorem run_follows {c : StoreCall} (hc : c.Storable) :
    Follows db tenant (p.run c) (db.run tenant c) := by
  cases c with
  | insertDeployment d => exact h.insertDeployment_follows hc.1 hc.2
  | deleteDeployment id => exact .ok (h.deleteDeployment id)
  | findDeployment id =>
    rw [Partition.run, Database.run, h.loadDeployment_eq]
    exact .ok (.refl h)
  | findUnfinished id =>
    rw [Partition.run, Database.run, h.decode_findUnfinished]
    exact .ok (.refl h)
  | findDeployments q =>
    rw [Partition.run, Database.run, h.decode_deployments]
    exact .ok (.refl h)
  | countDevices id =>
    rw [Partition.run, Database.run, h.rowsOfDeployment_eq, List.length_map]
    exact .ok (.refl h)
  | moveDevice id old new =>
    -- New counters change neither the name nor a time, so the document can still be written.
    refine h.updateDeployment_follows id fun d d' hd => ?_
    split at hd
    · cases hd
      exact ⟨rfl, rfl, fun hstorable => hstorable.withStats _⟩
    · cases hd
  | finishWithStats id stats finished =>
    refine h.updateDeployment_follows id fun d d' hd => ?_
    cases hd
    exact ⟨rfl, rfl, fun hstorable => (hstorable.withStats stats).finishAt hc⟩
  | finishDeployment id finished => exact h.finishDeployment_follows id hc
  | insertRecords l => exact h.insertRecords_follows hc
  | findRecord id device =>
    rw [Partition.run, Database.run, h.loadRecord_eq]
    exact .ok (.refl h)
  | findOldestActive device =>
    rw [Partition.run, Database.run, h.decodeRows_sorted, ← h.find?_sorted_eq_oldest]
    exact .ok (.refl h)
  | findRecords id =>
    rw [Partition.run, Database.run, h.decode_rowsOfDeployment]
    exact .ok (.refl h)
  | hasRecord id device =>
    rw [Partition.run, Database.run, h.contains_records]
    exact .ok (.refl h)
  | updateStatus id device status substate finished =>
    exact h.updateRecord_follows id device (·.status) fun r =>
      ⟨rfl, rfl, fun hr => hr.withStatus status substate hc⟩
  | assignArtifact id device deviceType a =>
    exact h.updateRecord_follows id device (fun _ => ()) fun r =>
      ⟨rfl, rfl, fun hr => hr.withArtifact deviceType hc⟩
  | abortRecords id finished =>
    obtain ⟨db', hstop, hmoves⟩ := h.stopRecords_moves (·.deploymentId = id) .aborted hc
    rw [Partition.run, Database.run, h.decode_rowsOfDeployment]
    show Follows db tenant _ ((db.stopRecords tenant (p.recordsOf id) .aborted finished).bind _)
    rw [Partition.recordsOf, hstop]
    exact .ok hmoves
  | decommissionRecords device finished =>
    obtain ⟨db', hstop, hmoves⟩ := h.stopRecords_moves (·.deviceId = device) .decommissioned hc
    rw [Partition.run, Database.run, h.decode_rowsOfDevice, Partition.activeOf_eq]
    show Follows db tenant _ ((db.stopRecords tenant
      (p.records.values.filter (·.deviceId = device)) .decommissioned finished).bind _)
    rw [hstop]
    exact .ok hmoves
  | countByStatus id =>
    rw [Partition.run, Database.run, h.rowsOfDeployment_eq, countRows_map]
    -- Both sides count the same states in the same order, and overflow on the same one.
    cases Stats.ofStatuses ((p.recordsOf id).map (·.status)) with
    | ok st => exact .ok (.refl h)
    | error e => exact .error
  | markLog id device available =>
    exact h.updateRecord_follows id device (fun _ => ()) fun r =>
      ⟨rfl, rfl, fun hr => hr.withLogMark available⟩
  | saveLog log =>
    rw [Partition.run, Database.run, DeploymentLog.Storable.document hc |>.1]
    exact .ok (h.saveLog hc)
  | findLog id device =>
    rw [Partition.run, Database.run, h.decode_findLog]
    exact .ok (.refl h)

end Mirrors

end Database

end Fleet
