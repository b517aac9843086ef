import Fleet.Proofs.Model.Failing
import Fleet.Proofs.Model.Runs

/-!
# `Fleet.Proofs.Model.Rollback`: a creation that fails leaves nothing

A creation stores the deployment first and its records second. If the records are refused the
deployment is deleted again, so a creation that fails has stored nothing, with one exception: the
deletion may fail as well. `create_all_or_nothing` says so for any state of the store and any plan
of faults. The error of a creation tells the exception apart from all other failures.
-/

set_option autoImplicit false

namespace Fleet

namespace ModelM

variable {ω : Type} {scene : Scene} {w : World MemoryStore ω} {plan : Plan} {e : ModelError}

/-- Nothing has to be taken back for a plan that is declined. -/
theorem Declined.ne_createRolledBack (h : Declined scene w plan e) (cause rollback : StoreError) :
    e ≠ .createRolledBack cause (some rollback) := by
  rintro rfl
  cases h with
  | unanswered planned he => exact he

/-- Announcing a deployment never fails, so it failed to be stored. -/
theorem storeOpened_error {d : Deployment} {records : List DeviceRecord}
    {w' : World MemoryStore ω} (h : storeOpened d records scene w = (.error e, w')) :
    (storeNew d records : ModelM MemoryStore ω _) scene w = (.error e, w') := by
  cases hstore : (storeNew d records : ModelM MemoryStore ω _) scene w with
  | mk x w₁ =>
    cases x with
    | error e' =>
      rw [storeOpened, bind_error hstore] at h
      cases h
      rfl
    | ok u =>
      have hok : ∃ w₂, storeOpened d records scene w = (.ok d.id, w₂) := by
        rw [storeOpened, bind_ok hstore]
        cases hfinished : d.isFinished <;> exact ⟨_, rfl⟩
      obtain ⟨w₂, hok⟩ := hok
      rw [hok] at h
      cases h

/-- A creation that fails has changed nothing, or it has left the deployment behind. -/
theorem create_error {w' : World MemoryStore ω}
    (h : (create plan : ModelM MemoryStore ω _) scene w = (.error e, w')) :
    (w'.store = w.store ∧ w'.trail = w.trail ∧
      ∀ cause rollback, e ≠ .createRolledBack cause (some rollback)) ∨
    ∃ d records cause rollback, e = .createRolledBack cause (some rollback) ∧
      d.id = scene.newDeployment ∧
      w.LeftBehind scene.ctx.partition d records cause rollback w' := by
  obtain ⟨faults, hasked, ⟨e', hdeclined, hrun⟩ | ⟨stats, -, -, -, hrun⟩⟩ :=
    create_prepared scene w plan
  · rw [hrun] at h
    cases h
    exact .inl ⟨rfl, rfl, hdeclined.ne_createRolledBack⟩
  · have houtcome := storeNew_outcome scene (w.withFaults faults)
      ((scene.draft plan).withRecords stats (scene.records plan)) (scene.records plan)
    rw [storeOpened_error (hrun.symm.trans h)] at houtcome
    cases houtcome with
    | undone told same silent => exact .inl ⟨same, silent, told⟩
    | left behind =>
      refine .inr ⟨_, _, _, _, rfl, ?_, behind.after hasked⟩
      rw [Deployment.withRecords]
      dsimp only
      split <;> rfl

end ModelM

namespace World

variable {ω : Type} [LinkIssuer ω]

/-- A creation that fails has told of nothing and stored nothing, unless storing the records failed
and so did taking the deployment back. In that case alone the error carries both failures, and the
store has one more deployment. -/
theorem create_all_or_nothing (w : World MemoryStore ω) (scene : Scene) (plan : Plan)
    {e : ModelError} (he : (w.perform scene (.create plan)).1 = .error e) :
    let tenant := scene.ctx.partition
    let after := (w.perform scene (.create plan)).2
    after.trail = w.trail ∧
    ((¬∃ d records cause rollback, w.LeftBehind tenant d records cause rollback after) →
      after.store = w.store) ∧
    (∀ d records cause rollback, w.LeftBehind tenant d records cause rollback after →
      e = .createRolledBack cause (some rollback) ∧ d.id = scene.newDeployment ∧
      (w.part tenant).deployments.get? d.id = none ∧
      after.store = w.store.withPartition tenant ((w.part tenant).withDeployment d.id d)) ∧
    (∀ cause rollback, e = .createRolledBack cause (some rollback) →
      ∃ d records, w.LeftBehind tenant d records cause rollback after) := by
  intro tenant after
  have hrun : (ModelM.create plan : ModelM MemoryStore ω _) scene w = (.error e, after) :=
    Prod.ext he rfl
  -- The error is that of a deployment left behind, or nothing was written.
  rcases ModelM.create_error hrun with
    ⟨hsame, hsilent, htold⟩ | ⟨d, records, cause, rollback, hcarried, hid, hbehind⟩
  · refine ⟨hsilent, fun _ => hsame, fun d records cause rollback hbehind => ?_,
      fun cause rollback hcarried => ?_⟩
    · exact absurd hsame hbehind.store_ne
    · exact absurd hcarried (htold cause rollback)
  · refine ⟨hbehind.trail, fun hnone => ?_, fun d' records' cause' rollback' hbehind' => ?_,
      fun cause' rollback' hcarried' => ?_⟩
    · exact absurd ⟨d, records, cause, rollback, hbehind⟩ hnone
    · obtain ⟨rfl, rfl, rfl, rfl⟩ := hbehind.unique hbehind'
      exact ⟨hcarried, hid, hbehind.store⟩
    · rw [hcarried] at hcarried'
      cases hcarried'
      exact ⟨d, records, hbehind⟩

/-- Two failures leave a deployment without records behind. -/
theorem create_all_or_nothing_sample :
    let w := { sampleWorld with
      faults :=
        [{ target := "insert_device_deployments", detail := "full" },
          { target := "delete_deployment", detail := "locked" }] }
    let x := w.perform sampleScene
      (.create { name := "all", artifactName := "app", devices := ["left"] })
    x.1 = .error (.createRolledBack ⟨.io, "full"⟩ (some ⟨.io, "locked"⟩)) ∧ x.2.trail = [] ∧
      ∃ d, d.id = "update" ∧ x.2.part "" = (w.part "").withDeployment "update" d := by
  intro w x
  have he : x.1 = .error (.createRolledBack ⟨.io, "full"⟩ (some ⟨.io, "locked"⟩)) := rfl
  obtain ⟨hsilent, -, hleft, hcarried⟩ := create_all_or_nothing w sampleScene
    { name := "all", artifactName := "app", devices := ["left"] } he
  obtain ⟨d, records, hbehind⟩ := hcarried _ _ rfl
  obtain ⟨-, hid, -, hstore⟩ := hleft d records _ _ hbehind
  have hid' : d.id = "update" := hid
  refine ⟨he, hsilent, d, hid', ?_⟩
  rw [hid'] at hstore
  rw [part, hstore]
  exact MemoryStore.partition_withPartition_self _ _ _

end World

end Fleet
