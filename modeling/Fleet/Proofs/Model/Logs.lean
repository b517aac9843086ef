import Fleet.Proofs.Model.Isolation
import Fleet.Proofs.Model.Lasting

/-!
# `Fleet.Proofs.Model.Logs`: the marks of logs tell the truth

Logs have a table of their own, and the record of a device is marked once there is a log of it.
Two calls write the two, and nearly every operation rewrites some part of records.

`Partition.SameLogs` compares the part of a tenant with a later one that has the same logs and
the same marks. Every call that spares logs leaves such a part, so every operation does that
makes no other calls (`World.SameLogs.of_asks`). A creation adds records, but none that is
marked. What is left is to store a log, and that writes the log and the mark together.

`World.lastLog` is what the history of a run says: the last log that was stored for a device in a
deployment. `logs_agree` is the main theorem.
-/

set_option autoImplicit false

namespace Fleet

namespace Partition

variable {p p' p'' : Partition} {k k' : DeploymentId × DeviceId} {r r' : DeviceRecord}

/-- Whether the record under a key says that there is a log. -/
def marked (p : Partition) (k : DeploymentId × DeviceId) : Bool :=
  (p.records.get? k).any (·.isLogAvailable)

/-- A device is marked in a deployment if its record says that there is a log. -/
theorem marked_eq_true_iff :
    p.marked k = true ↔ ∃ r, p.records.get? k = some r ∧ r.isLogAvailable = true := by
  rw [marked, Option.any_eq_true]

/-- Two parts with the same logs and the same marks. -/
structure SameLogs (p p' : Partition) : Prop where
  logs : p'.logs = p.logs
  marked : ∀ k, p'.marked k = p.marked k

namespace SameLogs

/-- A part has the logs that it has. -/
theorem refl (p : Partition) : p.SameLogs p := ⟨rfl, fun _ => rfl⟩

/-- A part with the same logs twice has the same logs. -/
theorem trans (h : p.SameLogs p') (h' : p'.SameLogs p'') : p.SameLogs p'' :=
  ⟨h'.logs.trans h.logs, fun k => (h'.marked k).trans (h.marked k)⟩

/-- Storing a deployment leaves logs and marks alone. -/
theorem withDeployment (p : Partition) (id : DeploymentId) (d : Deployment) :
    p.SameLogs (p.withDeployment id d) :=
  ⟨rfl, fun _ => rfl⟩

/-- One record is written, with the mark that was there. -/
theorem withRecord (h : r.isLogAvailable = p.marked k) : p.SameLogs (p.withRecord k r) where
  logs := rfl
  marked k' := by
    rw [Partition.marked, get?_withRecord]
    split
    · next hk =>
      subst hk
      exact h
    · rfl

/-- Stopping records leaves logs and marks alone. -/
theorem stopRecords (p : Partition) (test : DeviceRecord → Bool) (s : DeviceStatus)
    (now : Time.Instant) : p.SameLogs (p.stopRecords test s now) where
  logs := rfl
  marked k := by
    have hstop (r : DeviceRecord) :
        (r.stopIf (test r) s now).isLogAvailable = r.isLogAvailable := by
      rw [DeviceRecord.stopIf]
      split <;> rfl
    rw [Partition.marked, get?_stopRecords, Option.any_map]
    simp only [hstop]
    rfl

/-- A change of a deployment leaves logs and marks alone. -/
theorem updateDeployment {id : DeploymentId} {f : Deployment → Except StoreError Deployment}
    (h : p.updateDeployment id f = .ok p') : p.SameLogs p' := by
  obtain ⟨d, d', -, -, rfl⟩ := updateDeployment_eq_ok_iff.1 h
  exact .withDeployment p id d'

/-- A change of a record leaves logs and marks alone if it keeps the mark. -/
theorem updateRecord {id : DeploymentId} {device : DeviceId} {f : DeviceRecord → DeviceRecord}
    (hf : ∀ r, (f r).isLogAvailable = r.isLogAvailable)
    (h : p.updateRecord id device f = .ok (r, p')) : p.SameLogs p' := by
  rw [Partition.updateRecord] at h
  cases hr : p.records.get? (id, device) with
  | none =>
    rw [hr] at h
    cases h
  | some s =>
    rw [hr] at h
    cases h
    refine .withRecord ?_
    rw [hf, Partition.marked, hr]
    rfl

/-- New records take free keys, and there is no log for any of them. -/
theorem addRecords {l : List DeviceRecord} (hl : ∀ r ∈ l, r.isLogAvailable = false)
    (h : l.foldlM addRecord p = .ok p') : p.SameLogs p' := by
  induction l generalizing p with
  | nil =>
    cases h
    exact .refl _
  | cons r rest ih =>
    rw [List.foldlM_cons, addRecord] at h
    split at h
    · cases h
    · next hused =>
      have hfree : p.records.get? r.key = none :=
        Table.contains_eq_false_iff.1 (Bool.eq_false_iff.2 hused)
      have hone : p.SameLogs (p.withRecord r.key r) := by
        refine .withRecord ?_
        rw [hl r List.mem_cons_self, Partition.marked, hfree]
        rfl
      exact hone.trans (ih (fun s hs => hl s (List.mem_cons_of_mem _ hs)) h)

end SameLogs

/-- A call that spares logs leaves a part with the same logs and marks. -/
theorem run_sameLogs {c : StoreCall} {a : c.Answer} (hc : c.SparesLogs)
    (h : p.run c = .ok (a, p')) : p.SameLogs p' := by
  cases c with
  | insertDeployment d =>
    obtain ⟨-, rfl⟩ := of_run_insertDeployment h
    exact .withDeployment p d.id d
  | deleteDeployment id =>
    cases h
    -- Records and logs of a deployment outlive it.
    exact ⟨rfl, fun _ => rfl⟩
  | moveDevice | finishWithStats | finishDeployment =>
    obtain ⟨q, hq, he⟩ := map_eq_ok h
    cases he
    exact .updateDeployment hq
  | insertRecords | saveLog | markLog => exact hc.elim
  | updateStatus | assignArtifact =>
    obtain ⟨⟨r, q⟩, hq, he⟩ := map_eq_ok h
    cases he
    refine .updateRecord (fun _ => ?_) hq
    rfl
  | abortRecords | decommissionRecords =>
    cases h
    exact .stopRecords p _ _ _
  | _ =>
    rw [run_of_not_mutating rfl h]
    exact .refl p

end Partition

/-- Faults that spare the store go on doing so, whatever is asked. -/
theorem ModelM.Asks.spares {ω α : Type} [LinkIssuer ω] {kind : StoreCall → Prop} {scene : Scene}
    {m : ModelM MemoryStore ω α} (h : Asks kind m) {w : World MemoryStore ω}
    (hfaults : w.faults.SparesStore) : (m scene w).2.faults.SparesStore := by
  induction h generalizing w with
  | pure a => exact hfaults
  | throw e => exact hfaults
  | read => exact hfaults
  | @bind _ _ m f first rest ih ih' =>
    have hfirst := ih hfaults
    cases hm : m scene w with
    | mk x w' =>
      rw [hm] at hfirst
      cases x with
      | error e =>
        rw [bind_error hm]
        exact hfirst
      | ok a =>
        rw [bind_ok hm]
        exact ih' a hfirst
  | @tryStore c hc =>
    -- A call takes failures out of the plan and adds none.
    cases hcall : w.callStore scene.ctx.partition c with
    | mk x w' =>
      rw [tryStore_run hcall, World.faults_of_callStore hcall]
      exact hfaults.strike _
  | consult target failure a =>
    have hstrike := hfaults.strike target
    rw [ModelM.consult]
    dsimp only
    split <;> exact hstrike
  | downloadLink activity path filename => exact hfaults
  | emit event id details => exact hfaults

namespace World

variable {ω : Type} {w w' w'' : World MemoryStore ω}

/-- All tenants have the same logs and the same marks. -/
def SameLogs (w w' : World MemoryStore ω) : Prop := ∀ t, (w.part t).SameLogs (w'.part t)

namespace SameLogs

/-- A world with the same logs twice has the same logs. -/
theorem trans (h : w.SameLogs w') (h' : w'.SameLogs w'') : w.SameLogs w'' :=
  fun t => (h t).trans (h' t)

/-- What is not stored does not matter. -/
theorem of_store (same : w'.store = w.store) : w.SameLogs w' := by
  intro t
  rw [part, part, same]
  exact .refl _

/-- The part of one tenant may be exchanged for another one with the same logs and marks. -/
theorem exchange {tenant : TenantId} {p : Partition}
    (stored : w'.store = w.store.withPartition tenant p) (hp : (w.part tenant).SameLogs p) :
    w.SameLogs w' := by
  intro t
  rw [part, part, stored]
  by_cases ht : t = tenant
  · subst ht
    rw [MemoryStore.partition_withPartition_self]
    exact hp
  · rw [MemoryStore.partition_withPartition_of_ne _ _ ht]
    exact .refl _

variable {α : Type} {scene : Scene} [LinkIssuer ω]

/-- Nothing has to be known of a computation whose calls spare logs. -/
theorem of_asks {m : ModelM MemoryStore ω α} (h : ModelM.Asks StoreCall.SparesLogs m) :
    w.SameLogs (m scene w).2 := by
  refine h.keeps (P := fun s => ∀ t, (w.part t).SameLogs (s.partition t)) (fun c hc s hs => ?_)
    fun t => .refl _
  -- A call is answered by the part of the tenant, or it changes nothing.
  let v : World MemoryStore ω := { w with store := s }
  cases hrun : (v.part scene.ctx.partition).run c with
  | error e =>
    rw [run_store_error hrun]
    exact hs
  | ok x =>
    rw [run_store hrun]
    let v' : World MemoryStore ω :=
      { w with store := s.withPartition scene.ctx.partition x.2 }
    have hcall : v.SameLogs v' := .exchange rfl (Partition.run_sameLogs hc hrun)
    exact fun t => (hs t).trans (hcall t)

omit [LinkIssuer ω] in
/-- The records of a new deployment are not marked. -/
theorem storeNew (d : Deployment) {records : List DeviceRecord}
    (hrecords : ∀ r ∈ records, r.isLogAvailable = false) :
    w.SameLogs ((ModelM.storeNew d records : ModelM MemoryStore ω _) scene w).2 := by
  have houtcome := ModelM.storeNew_outcome scene w d records
  generalize (ModelM.storeNew d records : ModelM MemoryStore ω _) scene w = x at houtcome
  cases houtcome with
  | stored free run stored =>
    obtain ⟨p, hadded, he⟩ := Partition.map_eq_ok run
    cases he
    exact .exchange stored
      ((Partition.SameLogs.withDeployment _ d.id d).trans (.addRecords hrecords hadded))
  | undone told same silent => exact .of_store same
  | left behind => exact .exchange behind.store.2 (.withDeployment _ d.id d)

/-- A creation leaves logs and marks alone: new records are not marked, and what is taken back had
none. -/
theorem create (plan : Plan) :
    w.SameLogs ((ModelM.create plan : ModelM MemoryStore ω _) scene w).2 := by
  obtain ⟨faults, -, ⟨e, -, hrun⟩ | ⟨stats, -, -, -, hrun⟩⟩ := ModelM.create_prepared scene w plan
  · rw [hrun]
    exact .of_store rfl
  · rw [hrun, ModelM.storeOpened]
    have hrecords : ∀ r ∈ scene.records plan, r.isLogAvailable = false := by
      intro r hr
      obtain ⟨device, id, rfl⟩ := Scene.mem_recordsFrom hr
      rw [Scene.recordFor]
      split <;> rfl
    let d := (scene.draft plan).withRecords stats (scene.records plan)
    let w₀ := w.withFaults faults
    have hstore : w₀.SameLogs ((ModelM.storeNew d (scene.records plan) :
      ModelM MemoryStore ω _) scene w₀).2 := storeNew d hrecords
    cases hnew : (ModelM.storeNew d (scene.records plan) : ModelM MemoryStore ω _) scene w₀ with
    | mk x w' =>
      rw [hnew] at hstore
      cases x with
      | error e =>
        rw [ModelM.bind_error hnew]
        exact hstore
      | ok u =>
        rw [ModelM.bind_ok hnew]
        -- What follows only announces the deployment.
        refine SameLogs.trans hstore (of_asks ?_)
        exact .bind (.emit _ _ _) fun _ => .ite (.bind (.emit _ _ _) fun _ => .pure _) (.pure _)

/-- No operation but the storing of a log has to do with logs. -/
theorem perform (c : ModelCall) (hc : ∀ log, c ≠ .saveLog log) :
    w.SameLogs (w.perform scene c).2 := by
  cases c with
  | saveLog log => exact absurd rfl (hc log)
  | create plan => exact create plan
  | report id device r => exact of_asks (.report id device r)
  | poll device installed => exact of_asks (.poll device installed)
  | get id => exact of_asks (ModelM.Asks.getDeployment id).sparesLogs
  | stats id => exact of_asks (ModelM.Asks.getStats id).sparesLogs
  | isFinished id => exact of_asks (ModelM.Asks.isFinished id).sparesLogs
  | lookup q => exact of_asks (ModelM.Asks.lookup q).sparesLogs
  | abort id => exact of_asks (ModelM.Asks.abort id).sparesLogs
  | decommission device => exact of_asks (ModelM.Asks.decommission device).sparesLogs
  | records id => exact of_asks (ModelM.Asks.getRecords id).sparesLogs
  | hasRecord id device => exact of_asks (ModelM.Asks.hasRecord id device).sparesLogs
  | getLog id device => exact of_asks (ModelM.Asks.getLog id device).sparesLogs

end SameLogs

/-! ### The history of logs -/

section

variable {σ : Type} [DataStore σ] [LinkIssuer ω]

/-- The log that was stored by a step with some answer, if one was, with its tenant. -/
def savedBy : Step × (Σ c : ModelCall, Except ModelError c.Answer) →
    Option (TenantId × DeploymentLog)
  | ((scene, .saveLog log), ⟨_, .ok _⟩) => some (scene.ctx.partition, log)
  | _ => none

/-- The logs that were stored in a run, in order, with their tenants. -/
def savedLogs (w : World σ ω) (steps : List Step) : List (TenantId × DeploymentLog) :=
  (steps.zip (w.answers steps)).filterMap savedBy

/-- The last log that was stored in a run for a device of a tenant in a deployment. -/
def lastLog (w : World σ ω) (steps : List Step) (t : TenantId) (k : DeploymentId × DeviceId) :
    Option DeploymentLog :=
  ((w.savedLogs steps).filter fun x => x.1 = t ∧ x.2.key = k).getLast?.map (·.2)

/-- The last logs after a step that may have stored one. -/
def updated (saved : Option (TenantId × DeploymentLog))
    (last : TenantId → DeploymentId × DeviceId → Option DeploymentLog) (t : TenantId)
    (k : DeploymentId × DeviceId) : Option DeploymentLog :=
  match saved with
  | none => last t k
  | some (tenant, log) => if tenant = t ∧ log.key = k then some log else last t k

/-- A step that stores no log for a device of a tenant leaves its last one. -/
theorem updated_of_not_saved {step : Step} {answer : Σ c : ModelCall, Except ModelError c.Answer}
    {last : TenantId → DeploymentId × DeviceId → Option DeploymentLog} {t : TenantId}
    {k : DeploymentId × DeviceId}
    (h : ∀ log, step.2 = .saveLog log → step.1.ctx.partition = t → log.key ≠ k) :
    updated (savedBy (step, answer)) last t k = last t k := by
  rw [savedBy.eq_def]
  split
  · next scene log _ _ heq =>
    cases heq
    exact if_neg fun hboth => h log rfl hboth.1 hboth.2
  · rfl

/-- Every step of a run is answered. -/
theorem length_answers (w : World σ ω) (steps : List Step) :
    (w.answers steps).length = steps.length := by
  induction steps generalizing w with
  | nil => rfl
  | cons step rest ih => rw [answers, List.length_cons, List.length_cons, ih]

/-- One more step adds its log to the history, if it saved one, and nothing otherwise. -/
theorem savedLogs_append_singleton (w : World σ ω) (steps : List Step) (step : Step) :
    w.savedLogs (steps ++ [step]) = w.savedLogs steps
      ++ (savedBy (step, ⟨step.2, ((w.run steps).perform step.1 step.2).1⟩)).toList := by
  rw [savedLogs, answers_append_singleton, List.zip_append (w.length_answers steps).symm,
    List.filterMap_append]
  rfl

/-- A step adds the log that it stores. -/
theorem lastLog_append_singleton (w : World σ ω) (steps : List Step) (step : Step) :
    w.lastLog (steps ++ [step]) = updated
      (savedBy (step, ⟨step.2, ((w.run steps).perform step.1 step.2).1⟩)) (w.lastLog steps) := by
  funext t k
  rw [lastLog, savedLogs_append_singleton, List.filter_append, List.getLast?_append]
  cases savedBy (step, ⟨step.2, ((w.run steps).perform step.1 step.2).1⟩) with
  | none => rfl
  | some x =>
    rw [Option.toList_some, List.filter_cons, updated]
    simp only [decide_eq_true_eq]
    split <;> rfl

end

/-! ### Runs -/

/-- The logs that are stored are the last ones of their devices, and the records of these devices
are marked. -/
structure Logged (w : World MemoryStore ω)
    (last : TenantId → DeploymentId × DeviceId → Option DeploymentLog) : Prop where
  logs : ∀ t k, (w.part t).logs.get? k = last t k
  marked : ∀ t k, (w.part t).marked k = (last t k).isSome

namespace Logged

variable {last : TenantId → DeploymentId × DeviceId → Option DeploymentLog}

/-- An empty store has no logs and no marks. -/
theorem of_empty (hstore : w.store = {}) : w.Logged fun _ _ => none where
  logs t k := by
    rw [part, hstore]
    rfl
  marked t k := by
    rw [part, hstore]
    rfl

/-- What the history says stays true of a world with the same logs. -/
theorem sameLogs (h : w.Logged last) (hsame : w.SameLogs w') : w'.Logged last where
  logs t k := by rw [(hsame t).logs, h.logs]
  marked t k := by rw [(hsame t).marked, h.marked]

/-- A log is stored and the record of its device marked. -/
theorem stored (h : w.Logged last) {tenant : TenantId} {log : DeploymentLog} {r : DeviceRecord}
    (stored : w'.store = w.store.withPartition tenant
      (((w.part tenant).withLog log).withRecord log.key (r.withLogMark true))) :
    w'.Logged (updated (some (tenant, log)) last) := by
  let p := ((w.part tenant).withLog log).withRecord log.key (r.withLogMark true)
  have hlogs (k : DeploymentId × DeviceId) :
      p.logs.get? k = if log.key = k then some log else last tenant k := by
    rw [← h.logs]
    exact Table.get?_insert ..
  have hmarked (k : DeploymentId × DeviceId) :
      p.marked k = (if log.key = k then some log else last tenant k).isSome := by
    rw [Partition.marked, Partition.get?_withRecord]
    split
    · rfl
    · exact h.marked tenant k
  have hown : w'.part tenant = p := by
    rw [part, stored, MemoryStore.partition_withPartition_self]
  -- Logs of other tenants are in other parts.
  have hother {t : TenantId} (ht : t ≠ tenant) : w'.part t = w.part t := by
    rw [part, stored, MemoryStore.partition_withPartition_of_ne _ _ ht, part]
  refine ⟨fun t k => ?_, fun t k => ?_⟩ <;> rw [updated] <;> by_cases ht : t = tenant
  · subst ht
    simpa only [hown, true_and] using hlogs k
  · simpa only [hother ht, Ne.symm ht, false_and, if_false] using h.logs t k
  · subst ht
    simpa only [hown, true_and] using hmarked k
  · simpa only [hother ht, Ne.symm ht, false_and, if_false] using h.marked t k

variable [LinkIssuer ω]

/-- An operation stores the log that it is answered for, and no other. -/
theorem perform (h : w.Logged last) (hfaults : w.faults.SparesStore) (step : Step) :
    (w.perform step.1 step.2).2.Logged
      (updated (savedBy (step, ⟨step.2, (w.perform step.1 step.2).1⟩)) last) := by
  obtain ⟨scene, c⟩ := step
  by_cases hc : ∃ log, c = .saveLog log
  · obtain ⟨log, rfl⟩ := hc
    have houtcome : ModelM.LogOutcome scene w (w.part scene.ctx.partition) log
        (w.perform scene (.saveLog log)) := ModelM.saveLog_outcome hfaults rfl log
    dsimp only
    generalize w.perform scene (.saveLog log) = x at houtcome
    cases houtcome with
    | refused he => exact h
    | stored valid hr => exact h.stored rfl
  · have hnone : savedBy ((scene, c), ⟨c, (w.perform scene c).1⟩) = none := by
      cases c with
      | saveLog log => exact absurd ⟨log, rfl⟩ hc
      | _ => rfl
    dsimp only
    rw [hnone]
    exact h.sameLogs (.perform c fun log hlog => hc ⟨log, hlog⟩)

end Logged

section

variable [LinkIssuer ω]

/-- Faults that spare the store go on doing so. -/
theorem spares_run (h : w.faults.SparesStore) (steps : List Step) :
    (w.run steps).faults.SparesStore := by
  induction steps using List.reverseRecOn with
  | nil => exact h
  | append_singleton steps step ih =>
    rw [run_append_singleton]
    exact step.2.asks.spares ih

/-- After any run from an empty store, what is stored is what the history of the run says. -/
theorem logged_run (hstore : w.store = {}) (hfaults : w.faults.SparesStore) (steps : List Step) :
    (w.run steps).Logged (w.lastLog steps) := by
  induction steps using List.reverseRecOn with
  | nil => exact .of_empty hstore
  | append_singleton steps step ih =>
    rw [run_append_singleton, lastLog_append_singleton]
    exact ih.perform (spares_run hfaults steps) step

/-- In every state that operations reach from an empty store, a device of a deployment has a log
exactly if its record says so, and the log that is answered is the last one that was stored. No
operation but the storing of another log for the device makes a difference to that. -/
theorem logs_agree (hstore : w.store = {}) (hfaults : w.faults.SparesStore) (steps : List Step)
    (t : TenantId) (id : DeploymentId) (device : DeviceId) :
    ((∃ log, ((w.run steps).part t).logs.get? (id, device) = some log) ↔
      ∃ r, ((w.run steps).part t).records.get? (id, device) = some r ∧
        r.isLogAvailable = true) ∧
    (∀ scene : Scene, scene.ctx.partition = t →
      ((w.run steps).perform scene (.getLog id device)).1
        = .ok (w.lastLog steps t (id, device))) ∧
    ∀ step : Step, (∀ log, step.2 = .saveLog log → step.1.ctx.partition = t →
        log.key ≠ (id, device)) →
      ∀ scene : Scene, scene.ctx.partition = t →
        ((w.run (steps ++ [step])).perform scene (.getLog id device)).1
          = ((w.run steps).perform scene (.getLog id device)).1 := by
  have hanswer (steps : List Step) (scene : Scene) (hscene : scene.ctx.partition = t) :
      ((w.run steps).perform scene (.getLog id device)).1
        = .ok (w.lastLog steps t (id, device)) := by
    have hrun : (ModelM.getLog id device : ModelM MemoryStore ω _) scene (w.run steps)
        = (.ok (((w.run steps).part t).logs.get? (id, device)), w.run steps) :=
      ModelM.askStore_read _ (spares_run hfaults steps) (by rw [hscene]) rfl rfl
    rw [← (logged_run hstore hfaults steps).logs]
    exact congrArg Prod.fst hrun
  have hlogged := logged_run hstore hfaults steps
  refine ⟨?_, hanswer steps, fun step hstep scene hscene => ?_⟩
  · rw [← Partition.marked_eq_true_iff, hlogged.marked, ← hlogged.logs, Option.isSome_iff_exists]
  · rw [hanswer _ scene hscene, hanswer _ scene hscene, lastLog_append_singleton,
      updated_of_not_saved hstep]

/-- Lines of the device that succeeds. -/
def sampleLog (text : String) : DeploymentLog where
  deploymentId := "update"
  deviceId := "left"
  messages := [{ timestamp := .ofUnix 0, level := "info", message := text }]

/-- The device sends two logs before it succeeds. The other one is not asked for any. -/
def sampleLogSteps : List Step :=
  let save (text : String) : Step := (sampleScene, .saveLog (sampleLog text))
  sampleSteps.take 2 ++ [save "started", save "done"] ++ sampleSteps.drop 2

/-- The device that sent two logs has the second one and a mark, and the other device has
neither. -/
theorem logs_agree_sample :
    ((sampleWorld.run sampleLogSteps).perform sampleScene (.getLog "update" "left")).1
      = .ok (some (sampleLog "done")) ∧
    (∃ r, ((sampleWorld.run sampleLogSteps).part "").records.get? ("update", "left") = some r ∧
      r.isLogAvailable = true) ∧
    ((sampleWorld.run sampleLogSteps).perform sampleScene (.getLog "update" "right")).1
      = .ok none := by
  have hleft := logs_agree (w := sampleWorld) rfl FaultPlan.sparesStore_nil sampleLogSteps ""
    "update" "left"
  have hright := logs_agree (w := sampleWorld) rfl FaultPlan.sparesStore_nil sampleLogSteps ""
    "update" "right"
  exact ⟨hleft.2.1 sampleScene rfl, hleft.1.1 ⟨sampleLog "done", rfl⟩, hright.2.1 sampleScene rfl⟩

end

end World

end Fleet
