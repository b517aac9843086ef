import Fleet.Proofs.Model.Create
import Fleet.Proofs.Store.Lasting

/-!
# `Fleet.Proofs.Model.Failing`: calls of a data store that may fail

Nothing is known here about the plan of faults. A call of the data store is refused and changes
nothing, or the part of the tenant answers it (`World.CallOutcome`). Either way it leaves the trail,
and a fault strikes it or not whatever calls of other names were made before
(`World.struck_callStore`).

Storing a new deployment takes two such calls, and a third one if the second fails.
`storeNew_outcome` lists what comes of them: deployment and records are stored, or the part is as it
was, or the deployment is left behind (`World.LeftBehind`).
-/

set_option autoImplicit false

namespace Fleet

/-- A deployment under a free name that is deleted again has left no trace. -/
theorem Partition.run_deleteDeployment {p : Partition} {d : Deployment}
    (hfree : p.deployments.get? d.id = none) :
    (p.withDeployment d.id d).run (.deleteDeployment d.id) = .ok ((), p) := by
  have hget (id : DeploymentId) :
      ((p.withDeployment d.id d).deployments.erase d.id).get? id = p.deployments.get? id := by
    rw [Table.get?_erase, get?_withDeployment]
    split
    · next hid => rw [← hid, hfree]
    · rfl
  rw [run, Table.ext_get? hget]
  rfl

namespace World

variable {ω : Type}

/-- What a call of the data store comes to, whatever faults are planned. -/
inductive CallOutcome (w : World MemoryStore ω) (tenant : TenantId) (c : StoreCall) :
    Except StoreError c.Answer × World MemoryStore ω → Prop where
  /-- It is refused, or a fault strikes. -/
  | refused {e : StoreError} {w' : World MemoryStore ω} (same : w'.store = w.store) :
      CallOutcome w tenant c (.error e, w')
  /-- The part of the tenant answers. -/
  | answered {a : c.Answer} {p : Partition} {w' : World MemoryStore ω}
      (run : (w.part tenant).run c = .ok (a, p))
      (stored : w'.store = w.store.withPartition tenant p) : CallOutcome w tenant c (.ok a, w')

/-- A call of the store has one of two outcomes: it fails and changes nothing, or the part of the
tenant answers it. -/
theorem callStore_outcome (w : World MemoryStore ω) (tenant : TenantId) (c : StoreCall) :
    CallOutcome w tenant c (w.callStore tenant c) := by
  rw [callStore]
  dsimp only
  cases (FaultPlan.strike c.name w.faults).1 with
  | some fault => exact .refused (w.store_noted c)
  | none =>
    dsimp only
    rw [store_noted]
    cases hrun : (w.part tenant).run c with
    | error e =>
      rw [run_store_error hrun]
      exact .refused rfl
    | ok x =>
      rw [run_store hrun]
      exact .answered hrun rfl

/-- A fault that strikes speaks for the data store, otherwise the part of the tenant does. -/
theorem answer_callStore (w : World MemoryStore ω) (tenant : TenantId) (c : StoreCall) :
    (w.callStore tenant c).1
      = match (FaultPlan.strike c.name w.faults).1 with
        | some f => .error ⟨f.kind, f.detail⟩
        | none => ((w.part tenant).run c).map Prod.fst := by
  rw [callStore]
  dsimp only
  cases (FaultPlan.strike c.name w.faults).1 with
  | some f => rfl
  | none =>
    dsimp only
    rw [store_noted]
    cases hrun : (w.part tenant).run c with
    | error e =>
      rw [run_store_error hrun]
      rfl
    | ok x =>
      rw [run_store hrun]
      rfl

section

variable {w w' : World MemoryStore ω} {tenant : TenantId} {c : StoreCall}

/-- A call that is refused changes nothing that is stored. -/
theorem store_of_callStore {e : StoreError} (h : w.callStore tenant c = (.error e, w')) :
    w'.store = w.store := by
  have houtcome := w.callStore_outcome tenant c
  rw [h] at houtcome
  cases houtcome with
  | refused same => exact same

/-- A call that is answered is answered by the part of the tenant. -/
theorem run_of_callStore {a : c.Answer} (h : w.callStore tenant c = (.ok a, w')) :
    ∃ p, (w.part tenant).run c = .ok (a, p) ∧ w'.store = w.store.withPartition tenant p := by
  have houtcome := w.callStore_outcome tenant c
  rw [h] at houtcome
  cases houtcome with
  | answered run stored => exact ⟨_, run, stored⟩

variable {x : Except StoreError c.Answer} (h : w.callStore tenant c = (x, w'))
include h

/-- A call of the store leaves the trail alone. -/
theorem trail_of_callStore : w'.trail = w.trail := by
  have hnoted : (w.noted c).trail = w.trail := by
    rw [noted]
    split <;> rfl
  rw [show w' = (w.callStore tenant c).2 by rw [h], callStore]
  dsimp only
  split <;> exact hnoted

/-- A call that may change the store is noted in the journal, whether it fails or not. -/
theorem journal_of_callStore (hc : c.isMutating = true) : w'.journal = w.journal ++ [c] := by
  have hnoted : (w.noted c).journal = w.journal ++ [c] := by
    rw [noted, if_pos hc]
  rw [show w' = (w.callStore tenant c).2 by rw [h], callStore]
  dsimp only
  split <;> exact hnoted

/-- A call of the store takes the fault off the plan that strikes it. -/
theorem faults_of_callStore : w'.faults = (FaultPlan.strike c.name w.faults).2 := by
  rw [show w' = (w.callStore tenant c).2 by rw [h], callStore]
  dsimp only
  split <;> rfl

/-- A call does not change what strikes calls of another name. -/
theorem struck_of_callStore {c' : StoreCall} (hne : c'.name ≠ c.name) :
    (FaultPlan.strike c'.name w'.faults).1 = (FaultPlan.strike c'.name w.faults).1 := by
  rw [faults_of_callStore h, FaultPlan.strike_strike_of_ne hne]

end

/-- What strikes a call and what the part says decide the answer. -/
theorem callStore_congr {w v : World MemoryStore ω} {tenant : TenantId} {c : StoreCall}
    (hstruck : (FaultPlan.strike c.name w.faults).1 = (FaultPlan.strike c.name v.faults).1)
    (hpart : w.part tenant = v.part tenant) :
    (w.callStore tenant c).1 = (v.callStore tenant c).1 := by
  rw [answer_callStore, answer_callStore, hstruck, hpart]

/-- A creation that could not be taken back. After some questions to other collaborators the
deployment was stored, then its records were not, and then it could not be deleted again. -/
inductive LeftBehind (w : World MemoryStore ω) (tenant : TenantId) (d : Deployment)
    (records : List DeviceRecord) (cause rollback : StoreError) (w' : World MemoryStore ω) :
    Prop where
  | intro {faults : FaultPlan} {w₁ w₂ : World MemoryStore ω} (asked : w.faults.Consulted faults)
      (stored : (w.withFaults faults).callStore tenant (.insertDeployment d) = (.ok (), w₁))
      (failed : w₁.callStore tenant (.insertRecords records) = (.error cause, w₂))
      (stuck : w₂.callStore tenant (.deleteDeployment d.id) = (.error rollback, w'))

namespace LeftBehind

variable {w w' : World MemoryStore ω} {tenant : TenantId} {d d' : Deployment}
  {records records' : List DeviceRecord} {cause cause' rollback rollback' : StoreError}

/-- The deployment stands alone where there was none. -/
theorem store (h : w.LeftBehind tenant d records cause rollback w') :
    (w.part tenant).deployments.get? d.id = none ∧
      w'.store = w.store.withPartition tenant ((w.part tenant).withDeployment d.id d) := by
  obtain ⟨asked, hstored, hfailed, hstuck⟩ := h
  obtain ⟨p, hrun, hstore⟩ := run_of_callStore hstored
  obtain ⟨hfree, rfl⟩ := Partition.of_run_insertDeployment hrun
  rw [store_of_callStore hstuck, store_of_callStore hfailed]
  exact ⟨hfree, hstore⟩

/-- A deployment that is left behind shows: the store is not what it was. -/
theorem store_ne (h : w.LeftBehind tenant d records cause rollback w') : w'.store ≠ w.store := by
  obtain ⟨hfree, hstore⟩ := h.store
  intro hsame
  have hget : (w'.part tenant).deployments.get? d.id = some d := by
    rw [part, hstore, MemoryStore.partition_withPartition_self, Partition.get?_withDeployment,
      if_pos rfl]
  rw [part, hsame, ← part, hfree] at hget
  cases hget

/-- Questions to other collaborators may come before. -/
theorem after {faults : FaultPlan} (asked : w.faults.Consulted faults)
    (h : (w.withFaults faults).LeftBehind tenant d records cause rollback w') :
    w.LeftBehind tenant d records cause rollback w' := by
  obtain ⟨asked', hstored, hfailed, hstuck⟩ := h
  exact .intro (asked.trans asked') hstored hfailed hstuck

/-- A deployment that is left behind is not told of. -/
theorem trail (h : w.LeftBehind tenant d records cause rollback w') : w'.trail = w.trail := by
  obtain ⟨asked, hstored, hfailed, hstuck⟩ := h
  rw [trail_of_callStore hstuck, trail_of_callStore hfailed, trail_of_callStore hstored]
  rfl

/-- A deployment is left behind by three calls: it is inserted, its records are not, and its
deletion fails. -/
theorem journal (h : w.LeftBehind tenant d records cause rollback w') :
    w'.journal = w.journal ++ [.insertDeployment d, .insertRecords records,
      .deleteDeployment d.id] := by
  obtain ⟨asked, hstored, hfailed, hstuck⟩ := h
  rw [journal_of_callStore hstuck rfl, journal_of_callStore hfailed rfl,
    journal_of_callStore hstored rfl, List.append_assoc, List.append_assoc]
  rfl

/-- What was left behind, and why, can be told from the two worlds. -/
theorem unique (h : w.LeftBehind tenant d records cause rollback w')
    (h' : w.LeftBehind tenant d' records' cause' rollback' w') :
    d = d' ∧ records = records' ∧ cause = cause' ∧ rollback = rollback' := by
  -- The journal names the calls, so they were the same.
  have hcalls := List.append_cancel_left (h.journal.symm.trans h'.journal)
  simp only [List.cons.injEq, StoreCall.insertDeployment.injEq, StoreCall.insertRecords.injEq]
    at hcalls
  obtain ⟨rfl, rfl, -⟩ := hcalls
  obtain @⟨faults, w₁, w₂, asked, hstored, hfailed, hstuck⟩ := h
  obtain @⟨faults', v₁, v₂, asked', hstored', hfailed', hstuck'⟩ := h'
  -- Neither the questions before nor the calls themselves have changed what strikes them.
  have hstruck (c : StoreCall) (hne : c.name ≠ (StoreCall.insertDeployment d).name) :
      (FaultPlan.strike c.name w₁.faults).1 = (FaultPlan.strike c.name v₁.faults).1 := by
    rw [struck_of_callStore hstored hne, struck_of_callStore hstored' hne, faults_withFaults,
      faults_withFaults, asked.strike_name, asked'.strike_name]
  have hpart₁ : w₁.part tenant = v₁.part tenant := by
    obtain ⟨p, hrun, hstore⟩ := run_of_callStore hstored
    obtain ⟨p', hrun', hstore'⟩ := run_of_callStore hstored'
    obtain ⟨-, rfl⟩ := Partition.of_run_insertDeployment hrun
    obtain ⟨-, rfl⟩ := Partition.of_run_insertDeployment hrun'
    rw [part, part, hstore, hstore']
    rfl
  have hpart₂ : w₂.part tenant = v₂.part tenant := by
    rw [part, part, store_of_callStore hfailed, store_of_callStore hfailed']
    exact hpart₁
  have hcause := callStore_congr (c := .insertRecords records)
    (hstruck _ (by simp [StoreCall.name])) hpart₁
  have hrollback := callStore_congr (c := .deleteDeployment d.id) (w := w₂) (v := v₂) (by
    rw [struck_of_callStore hfailed (by simp [StoreCall.name]),
      struck_of_callStore hfailed' (by simp [StoreCall.name])]
    exact hstruck _ (by simp [StoreCall.name])) hpart₂
  rw [hfailed, hfailed'] at hcause
  rw [hstuck, hstuck'] at hrollback
  exact ⟨rfl, rfl, Except.error.inj hcause, Except.error.inj hrollback⟩

end LeftBehind

/-- What comes of storing a deployment and its records, whatever faults are planned. -/
inductive StoreNewOutcome (w : World MemoryStore ω) (tenant : TenantId) (d : Deployment)
    (records : List DeviceRecord) : Except ModelError Unit × World MemoryStore ω → Prop where
  /-- Both are stored. -/
  | stored {p : Partition} {w' : World MemoryStore ω}
      (free : (w.part tenant).deployments.get? d.id = none)
      (run : ((w.part tenant).withDeployment d.id d).run (.insertRecords records) = .ok ((), p))
      (stored : w'.store = w.store.withPartition tenant p) :
      StoreNewOutcome w tenant d records (.ok (), w')
  /-- Neither is stored, or the deployment was taken back. -/
  | undone {e : ModelError} {w' : World MemoryStore ω}
      (told : ∀ cause rollback, e ≠ .createRolledBack cause (some rollback))
      (same : w'.store = w.store) (silent : w'.trail = w.trail) :
      StoreNewOutcome w tenant d records (.error e, w')
  /-- The deployment could not be taken back. -/
  | left {cause rollback : StoreError} {w' : World MemoryStore ω}
      (behind : w.LeftBehind tenant d records cause rollback w') :
      StoreNewOutcome w tenant d records (.error (.createRolledBack cause (some rollback)), w')

end World

namespace ModelM

variable {ω : Type} {scene : Scene} {w w' : World MemoryStore ω}

/-- A call whose error is handled answers with its outcome. -/
theorem tryStore_run {c : StoreCall} {x : Except StoreError c.Answer}
    (h : w.callStore scene.ctx.partition c = (x, w')) :
    (tryStore c : ModelM MemoryStore ω _) scene w = (.ok x, w') := by
  rw [tryStore, h]

/-- A call whose error is not handled ends the operation with what was being done. -/
theorem askStore_run (activity : String) {c : StoreCall} {x : Except StoreError c.Answer}
    (h : w.callStore scene.ctx.partition c = (x, w')) :
    (askStore activity c : ModelM MemoryStore ω _) scene w
      = (x.mapError (.store activity), w') := by
  rw [askStore, bind_ok (tryStore_run h)]
  cases x <;> rfl

/-- The three calls are taken one after the other. -/
theorem storeNew_outcome (scene : Scene) (w : World MemoryStore ω) (d : Deployment)
    (records : List DeviceRecord) : w.StoreNewOutcome scene.ctx.partition d records
      ((storeNew d records : ModelM MemoryStore ω _) scene w) := by
  rw [storeNew]
  cases hinsert : w.callStore scene.ctx.partition (.insertDeployment d) with
  | mk x w₁ =>
    have hask := askStore_run "storing deployment data" hinsert
    have htrail₁ := World.trail_of_callStore hinsert
    cases x with
    | error e =>
      rw [bind_error hask]
      exact .undone (fun _ _ => by simp) (World.store_of_callStore hinsert) htrail₁
    | ok u =>
      obtain ⟨p, hrun, hstore⟩ := World.run_of_callStore hinsert
      obtain ⟨hfree, rfl⟩ := Partition.of_run_insertDeployment hrun
      have hpart : w₁.part scene.ctx.partition
          = (w.part scene.ctx.partition).withDeployment d.id d := by
        simp [World.part, hstore]
      rw [bind_ok hask]
      cases hrecords : w₁.callStore scene.ctx.partition (.insertRecords records) with
      | mk y w₂ =>
        -- From here on the deployment is stored, whatever comes of the records.
        rw [bind_ok (tryStore_run hrecords)]
        have htrail₂ := World.trail_of_callStore hrecords
        cases y with
        | ok u =>
          obtain ⟨p, hrun', hstore'⟩ := World.run_of_callStore hrecords
          rw [hpart] at hrun'
          refine .stored hfree hrun' ?_
          rw [hstore', hstore, MemoryStore.withPartition_withPartition]
        | error cause =>
          have hsame := World.store_of_callStore hrecords
          dsimp only
          cases hdelete : w₂.callStore scene.ctx.partition (.deleteDeployment d.id) with
          | mk z w₃ =>
            rw [bind_ok (tryStore_run hdelete)]
            have htrail₃ := World.trail_of_callStore hdelete
            cases z with
            | ok u =>
              obtain ⟨p, hrun', hstore'⟩ := World.run_of_callStore hdelete
              have hpart₂ : w₂.part scene.ctx.partition
                  = (w.part scene.ctx.partition).withDeployment d.id d := by
                rw [World.part, hsame]
                exact hpart
              rw [hpart₂, Partition.run_deleteDeployment hfree] at hrun'
              cases hrun'
              -- The name was free before, so deleting it gives back the store.
              refine .undone (fun _ _ => by simp) ?_ (htrail₃.trans (htrail₂.trans htrail₁))
              rw [hstore', hsame, hstore, MemoryStore.withPartition_withPartition, World.part,
                MemoryStore.withPartition_partition]
            | error rollback =>
              exact .left (.intro .refl hinsert hrecords hdelete)

end ModelM

end Fleet
