import Fleet.Proofs.Store.Consistency
import Fleet.Store.InPlace

/-!
# `Fleet.Proofs.Store.InPlace`: writes one by one come to what a call does at once

The programs for tables do what `DataStore.run` says, answers, errors and contents
(`MemoryStore.steps_eq`). That is so since all checks are made before the first write, and a
program that fails has written nothing. Two loops take an argument:

* A batch of records is checked as a whole before one of them is stored, while `Partition.run`
  checks each record against those stored just before it (`Partition.checkFree_run`).
* Records are stopped one after the other, while `Partition.run` stops them all at once
  (`Partition.stopEach_recordKeys`).
-/

set_option autoImplicit false

namespace Fleet

open Fleet.Time

/-- An outcome that leaves the state as it was if it is an error. -/
def settle {ε σ α : Type} (s : σ) : Except ε (α × σ) → Except ε α × σ
  | .ok (a, s') => (.ok a, s')
  | .error e => (.error e, s)

namespace InPlace

variable {ε σ α β : Type} {m : InPlace ε σ α} {f : α → InPlace ε σ β} {s s' : σ}

/-- Looking at the state leaves it as it is. -/
theorem get_run (s : σ) : (get : InPlace ε σ σ) s = (.ok s, s) := rfl

/-- A write that is not decided on always succeeds. -/
theorem modify_run (g : σ → σ) (s : σ) : (modify g : InPlace ε σ Unit) s = (.ok (), g s) := rfl

/-- A program goes on after a step that succeeds, from the state that the step leaves. -/
theorem bind_ok {a : α} (h : m s = (.ok a, s')) : (m >>= f) s = f a s' := by
  show ExceptT.bindCont f (m s).1 (m s).2 = _
  rw [h]
  rfl

/-- A step that fails ends the program, in the state that the step leaves. -/
theorem bind_error {e : ε} (h : m s = (.error e, s')) : (m >>= f) s = (.error e, s') := by
  show ExceptT.bindCont f (m s).1 (m s).2 = _
  rw [h]
  rfl

end InPlace

/-! ### Counters -/

namespace Stats

/-- Counting up in place is counting up at once: it is decided before it is written. -/
theorem countUp_eq (s : DeviceStatus) (st : Stats) :
    countUp s st = settle st ((st.increment s).map ((), ·)) := by
  rw [countUp, InPlace.bind_ok (InPlace.get_run st), increment]
  split <;> rfl

/-- Counting down in place is counting down at once: it is decided before it is written. -/
theorem countDown_eq (s : DeviceStatus) (st : Stats) :
    countDown s st = settle st ((st.decrement s).map ((), ·)) := by
  rw [countDown, InPlace.bind_ok (InPlace.get_run st), decrement]
  split <;> rfl

/-- A move in place is a move at once. If there is no room for the device, the counter that it was
taken from is put back. -/
theorem move_eq (old new : DeviceStatus) (st : Stats) :
    move old new st = settle st ((st.transition old new).map ((), ·)) := by
  rw [move, transition]
  split
  · rfl
  · have hdown := countDown_eq old st
    cases hst : st.decrement old with
    | error e =>
      rw [hst] at hdown
      rw [InPlace.onCopy, InPlace.bind_error hdown]
      rfl
    | ok st' =>
      rw [hst] at hdown
      have hup := countUp_eq new st'
      rw [InPlace.onCopy, InPlace.bind_ok hdown, hup]
      -- The first counter may have changed already, but on the copy.
      show _ = settle st ((st'.increment new).map ((), ·))
      cases st'.increment new <;> rfl

/-- A device that cannot leave a counter, or not join another one, stays where it is counted. -/
theorem transition_eq_error {old new : DeviceStatus} {st : Stats} (hne : old ≠ new)
    (h : st.count old = 0 ∨ st.count new = maxCount) : ∃ e, st.transition old new = .error e := by
  rw [transition, if_neg hne, decrement]
  split
  · exact ⟨_, rfl⟩
  · next hold =>
    have hnew : (st.set old (st.count old - 1)).count new = maxCount := by
      rw [count_set_of_ne _ _ (Ne.symm hne)]
      exact h.resolve_left hold
    exact ⟨.overflow new, by simp [Except.bind, increment, hnew]⟩

end Stats

/-! ### Tables -/

namespace Partition

variable {α : Type}

/-- A change of a deployment in place is a change at once, if what is done to the deployment is. -/
theorem onDeployment_eq {m : InPlace StoreError Deployment Unit}
    {f : Deployment → Except StoreError Deployment}
    (h : ∀ d, m d = settle d ((f d).map ((), ·))) (id : DeploymentId) (p : Partition) :
    onDeployment id m p = settle p ((p.updateDeployment id f).map ((), ·)) := by
  rw [onDeployment, updateDeployment]
  cases hd : p.deployments.get? id with
  | none => rfl
  | some d =>
    simp only [h d]
    cases f d with
    | ok d' => rfl
    | error e =>
      -- The deployment is where it was, so that writing it back changes nothing.
      show (Except.error e, p.withDeployment id d) = (Except.error e, p)
      rw [withDeployment_self hd]

/-- A change of a record in place is a change at once, if what is done to the record is. -/
theorem onRecord_eq {m : InPlace StoreError DeviceRecord α} {f : DeviceRecord → DeviceRecord}
    {answer : DeviceRecord → α} (h : ∀ r, m r = (.ok (answer r), f r)) (id : DeploymentId)
    (device : DeviceId) (p : Partition) :
    onRecord id device m p
      = settle p ((p.updateRecord id device f).map fun (r, p) => (answer r, p)) := by
  rw [onRecord, updateRecord]
  cases p.records.get? (id, device) with
  | none => rfl
  | some r =>
    simp only [h r]
    rfl

/-! #### A batch of records -/

/-- The checks come to what storing the records one by one comes to, started with the records
of before and those that came earlier in the batch. -/
theorem checkFree_run {p q : Partition} {earlier : List (DeploymentId × DeviceId)}
    (hq : ∀ k, q.records.contains k = true ↔ p.records.contains k = true ∨ k ∈ earlier)
    (l : List DeviceRecord) :
    checkFree earlier l p = ((l.foldlM addRecord q).map fun _ => (), p) := by
  induction l generalizing q earlier with
  | nil => rfl
  | cons r rest ih =>
    rw [checkFree, InPlace.bind_ok (InPlace.get_run p), List.foldlM_cons, addRecord]
    by_cases htaken : p.records.contains r.key = true ∨ r.key ∈ earlier
    · rw [if_pos htaken, if_pos ((hq _).2 htaken)]
      rfl
    · rw [if_neg htaken, if_neg fun h => htaken ((hq _).1 h)]
      refine ih fun k => ?_
      rw [Table.contains_insert, List.mem_cons, Bool.or_eq_true, decide_eq_true_eq, hq k,
        eq_comm]
      exact or_left_comm

/-- Storing records one by one, by induction on the batch, stores the batch. -/
theorem placeEach_run (l : List DeviceRecord) (p : Partition) :
    placeEach l p = (.ok (), p.withRecords l) := by
  induction l generalizing p with
  | nil => rfl
  | cons r rest ih => exact ih (p.withRecord r.key r)

/-- Records that are stored one by one are all stored. -/
theorem eq_withRecords_of_foldlM {p p' : Partition} {l : List DeviceRecord}
    (h : l.foldlM addRecord p = .ok p') : p' = p.withRecords l := by
  induction l generalizing p with
  | nil => exact (Except.ok.inj h).symm
  | cons r rest ih =>
    rw [List.foldlM_cons, addRecord] at h
    split at h
    · cases h
    · exact ih h

/-! #### Stopping one record after the other -/

section

variable (test : DeviceRecord → Bool) (s : DeviceStatus) (finished : Instant)
  {key : DeploymentId × DeviceId} {rest : List (DeploymentId × DeviceId)} {p : Partition}
  {r : DeviceRecord}

/-- A record that is meant and active is stopped, and its deployment is told. -/
theorem stopEach_cons_of_stop (hget : p.records.get? key = some r)
    (hstop : (test r && r.status.isActive) = true) {names : List DeploymentId} {q : Partition}
    (hrest : stopEach test s finished rest (p.withRecord key (r.stopAt s finished))
      = (.ok names, q)) :
    stopEach test s finished (key :: rest) p = (.ok (r.deploymentId :: names), q) := by
  rw [stopEach, InPlace.bind_ok (InPlace.get_run p)]
  simp only [hget, if_pos hstop]
  rw [InPlace.bind_ok (InPlace.modify_run _ p)]
  exact InPlace.bind_ok hrest

/-- A record that is not meant or is at rest is passed over. -/
theorem stopEach_cons_of_pass (hget : p.records.get? key = some r)
    (hpass : ¬ (test r && r.status.isActive) = true) :
    stopEach test s finished (key :: rest) p = stopEach test s finished rest p := by
  rw [stopEach, InPlace.bind_ok (InPlace.get_run p)]
  simp only [hget, if_neg hpass]

/-- Entries of the records are stopped one by one: each that passes the test and is active, and
nothing else changes. -/
theorem stopEach_run {l : List ((DeploymentId × DeviceId) × DeviceRecord)}
    (hnodup : (l.map (·.1)).Nodup) (hget : ∀ e ∈ l, p.records.get? e.1 = some e.2) :
    ∃ q : Partition, stopEach test s finished (l.map (·.1)) p
        = (.ok ((l.filter fun e => test e.2 && e.2.status.isActive).map (·.2.deploymentId)), q) ∧
      q.deployments = p.deployments ∧ q.logs = p.logs ∧
      ∀ k, q.records.get? k = if k ∈ l.map (·.1)
        then (p.records.get? k).map fun r => r.stopIf (test r) s finished
        else p.records.get? k := by
  induction l generalizing p with
  | nil => exact ⟨p, rfl, rfl, rfl, fun k => rfl⟩
  | cons e rest ih =>
    have he : p.records.get? e.1 = some e.2 := hget e List.mem_cons_self
    rw [List.map_cons, List.nodup_cons] at hnodup
    by_cases hstop : (test e.2 && e.2.status.isActive) = true
    · have hkept : ∀ e' ∈ rest,
          (p.withRecord e.1 (e.2.stopAt s finished)).records.get? e'.1 = some e'.2 := by
        intro e' he'
        -- The record that is stopped stands under the first key alone.
        have hne : e.1 ≠ e'.1 := fun hk => hnodup.1 (hk ▸ List.mem_map_of_mem he')
        rw [get?_withRecord, if_neg hne]
        exact hget e' (List.mem_cons_of_mem _ he')
      obtain ⟨q, hrun, hdeployments, hlogs, hrecords⟩ := ih hnodup.2 hkept
      refine ⟨q, ?_, hdeployments, hlogs, fun k => ?_⟩
      · rw [List.filter_cons, if_pos hstop]
        exact stopEach_cons_of_stop test s finished he hstop hrun
      · rw [hrecords, get?_withRecord, List.map_cons]
        by_cases hk : e.1 = k
        · subst hk
          rw [if_neg hnodup.1, if_pos rfl, if_pos List.mem_cons_self, he, Option.map_some,
            DeviceRecord.stopIf, if_pos hstop]
        · simp only [if_neg hk, List.mem_cons, Ne.symm hk, false_or]
    · obtain ⟨q, hrun, hdeployments, hlogs, hrecords⟩ :=
        ih hnodup.2 fun e' he' => hget e' (List.mem_cons_of_mem _ he')
      refine ⟨q, ?_, hdeployments, hlogs, fun k => ?_⟩
      · rw [List.filter_cons, if_neg hstop]
        exact (stopEach_cons_of_pass test s finished he hstop).trans hrun
      · rw [hrecords, List.map_cons]
        by_cases hk : e.1 = k
        · subst hk
          rw [if_neg hnodup.1, if_pos List.mem_cons_self, he, Option.map_some,
            DeviceRecord.stopIf, if_neg hstop]
        · simp only [List.mem_cons, Ne.symm hk, false_or]

/-- To stop all records one by one is to stop them at once. -/
theorem stopEach_recordKeys (p : Partition) :
    stopEach test s finished p.recordKeys p
      = (.ok ((p.records.values.filter fun r => test r && r.status.isActive).map
          (·.deploymentId)), p.stopRecords test s finished) := by
  obtain ⟨q, hrun, hdeployments, hlogs, hrecords⟩ := stopEach_run test s finished
    p.records.nodup_keys fun e he => Table.get?_of_mem_entries he
  have hstopped : q.records = (p.stopRecords test s finished).records := by
    refine Table.ext_get? fun k => ?_
    rw [hrecords, get?_stopRecords]
    split
    · rfl
    · next hk =>
      -- Under the key of no record there is nothing to stop.
      cases hget : p.records.get? k with
      | none => rfl
      | some r => exact absurd (List.mem_map_of_mem (Table.mem_entries_of_get? hget)) hk
  have hq : q = p.stopRecords test s finished := by
    cases q
    simp only at hdeployments hlogs hstopped
    rw [hdeployments, hlogs, hstopped]
    rfl
  rw [recordKeys, hrun, hq, Table.values, List.filter_map, List.map_map]
  rfl

end

/-- The program of a call comes to what the call is said to do. -/
theorem steps_eq (c : StoreCall) (p : Partition) : steps c p = settle p (p.run c) := by
  cases c with
  | insertDeployment d =>
    rw [steps, InPlace.bind_ok (InPlace.get_run p), run]
    split <;> rfl
  | deleteDeployment | saveLog => rfl
  | moveDevice id old new =>
    rw [run]
    refine onDeployment_eq (m := Deployment.onStats (Stats.move old new)) (fun d => ?_) id p
    rw [Deployment.onStats, Stats.move_eq]
    cases d.stats.transition old new <;> rfl
  | finishWithStats id stats finished =>
    exact onDeployment_eq (f := fun d => .ok ((d.withStats stats).finishAt finished))
      (fun d => rfl) id p
  | finishDeployment id finished =>
    exact onDeployment_eq (f := fun d => .ok (d.finishAt finished)) (fun d => rfl) id p
  | updateStatus id device | assignArtifact id device | markLog id device =>
    exact onRecord_eq (fun r => rfl) id device p
  | insertRecords records =>
    -- All keys are checked before the first record is placed.
    have hcheck : checkFree [] records p = ((records.foldlM addRecord p).map fun _ => (), p) :=
      checkFree_run (by simp) records
    rw [run]
    cases hadd : records.foldlM addRecord p with
    | error e =>
      rw [hadd] at hcheck
      exact InPlace.bind_error hcheck
    | ok q =>
      rw [hadd] at hcheck
      refine (InPlace.bind_ok hcheck).trans ?_
      rw [placeEach_run, eq_withRecords_of_foldlM hadd]
      rfl
  | abortRecords id finished =>
    exact InPlace.bind_ok (stopEach_recordKeys (·.deploymentId = id) .aborted finished p)
  | decommissionRecords device finished =>
    exact InPlace.bind_ok (stopEach_recordKeys (·.deviceId = device) .decommissioned finished p)
  | countByStatus id =>
    show ((p.run (.countByStatus id)).map (·.1), p) = _
    rw [run]
    cases Stats.ofStatuses ((p.recordsOf id).map (·.status)) <;> rfl
  | findDeployment | findUnfinished | findDeployments | countDevices | findRecord
  | findOldestActive | findRecords | hasRecord | findLog => rfl

end Partition

/-- A call that fails at once leaves the state as it was. -/
theorem eq_of_settle_eq_error {ε σ α : Type} {s s' : σ} {x : Except ε (α × σ)} {e : ε}
    (h : settle s x = (.error e, s')) : s' = s := by
  cases x with
  | ok r => cases h
  | error e' => cases h; rfl

/-- A call on a database is settled: the database is replaced if the call succeeds and kept if it
fails. -/
theorem Database.run_eq_settle (tenant : TenantId) (c : StoreCall) (db : Database) :
    DataStore.run tenant c db = settle db (db.run tenant c) := by
  simp only [DataStore.run]
  cases db.run tenant c <;> rfl

namespace MemoryStore

/-- A call on tables is settled in the part of its tenant. -/
theorem run_eq_settle (tenant : TenantId) (c : StoreCall) (s : MemoryStore) :
    DataStore.run tenant c s
      = settle s (((s.partition tenant).run c).map
        fun (a, p) => (a, s.withPartition tenant p)) := by
  simp only [DataStore.run]
  cases (s.partition tenant).run c <;> rfl

/-- In tables, the program of a call gives the answer of the call and leaves what the call leaves,
also where it fails. -/
theorem steps_eq (tenant : TenantId) (c : StoreCall) (s : MemoryStore) :
    steps tenant c s = DataStore.run tenant c s := by
  rw [run_eq_settle, steps, Partition.steps_eq]
  cases (s.partition tenant).run c with
  | ok x => rfl
  | error e =>
    show (Except.error e, s.withPartition tenant (s.partition tenant)) = (Except.error e, s)
    rw [withPartition_partition]

end MemoryStore

end Fleet
