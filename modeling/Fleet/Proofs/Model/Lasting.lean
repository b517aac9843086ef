import Fleet.Proofs.Model.Failing
import Fleet.Proofs.Model.Questions
import Fleet.Proofs.Model.Runs

/-!
# `Fleet.Proofs.Model.Lasting`: operations leave what is stored

`ModelM.Leads` is the statement of a small program logic: a computation leads from a world to
one where the parts of all tenants last, and what it answers has some property there. There is
one rule a kind of question. Computations that make tame calls only have the property without
looking at them (`Leads.of_asks`). That leaves the three operations that the store itself would
let change a record at rest or take a deployment away:

* a report makes sure first that the record it found is active (`Leads.report`);
* a poll gives artifacts to the record it found among the active ones (`Leads.poll`);
* a creation that is taken back deletes the deployment that it has just added
  (`Leads.storeNew`).

Any collaborator may fail at any time, the data store included: nothing is asked of the plan of
faults. `stored_lasts` is the main theorem. It compares any two states of a run.
-/

set_option autoImplicit false

namespace Fleet

namespace World

variable {ω : Type} {w w' w'' : World MemoryStore ω} {tenant : TenantId}

/-- The parts of all tenants last. -/
def Lasts (w w' : World MemoryStore ω) : Prop := ∀ t, (w.part t).Lasts (w'.part t)

namespace Lasts

/-- A world that lasts twice lasts. -/
theorem trans (h : w.Lasts w') (h' : w'.Lasts w'') : w.Lasts w'' := fun t => (h t).trans (h' t)

/-- What is not stored does not matter. -/
theorem of_store (same : w'.store = w.store) : w.Lasts w' := by
  intro t
  rw [part, part, same]
  exact .refl _

/-- The part of one tenant may be exchanged for any other part that it lasts in. -/
theorem exchange {p : Partition} (h : w.Lasts w')
    (stored : w''.store = w'.store.withPartition tenant p) (hp : (w.part tenant).Lasts p) :
    w.Lasts w'' := by
  intro t
  rw [part, part, stored]
  by_cases ht : t = tenant
  · subst ht
    rw [MemoryStore.partition_withPartition_self]
    exact hp
  · rw [MemoryStore.partition_withPartition_of_ne _ _ ht]
    exact h t

end Lasts

end World

/-- A tame call spares what is stored, whatever it finds. -/
theorem StoreCall.IsTame.sparing {c : StoreCall} (h : c.IsTame) (p : Partition) : c.Sparing p := by
  cases c <;> trivial

namespace ModelM

/-- A computation leads from a world to one where everything lasts. Its answer, if there is one,
has a property there. -/
structure Leads {ω α : Type} (scene : Scene) (w : World MemoryStore ω)
    (m : ModelM MemoryStore ω α) (Q : α → World MemoryStore ω → Prop) : Prop where
  lasts : w.Lasts (m scene w).2
  answer : ∀ a, (m scene w).1 = .ok a → Q a (m scene w).2

namespace Leads

variable {ω α β : Type} {scene : Scene} {w w' : World MemoryStore ω}
  {P : α → World MemoryStore ω → Prop} {Q : β → World MemoryStore ω → Prop}

/-- An answer leads to the world that it is given in. -/
theorem pure {a : α} (h : P a w) : Leads scene w (pure a) P where
  lasts := .of_store rfl
  answer b hb := by
    cases hb
    exact h

/-- An error leads to the world that it is thrown in. -/
theorem throw (e : ModelError) : Leads scene w (throw e : ModelM MemoryStore ω α) P where
  lasts := .of_store rfl
  answer b hb := by cases hb

/-- Computations in a row lead as far as the second one, which may rely on what the first one's
answer has. -/
theorem bind {m : ModelM MemoryStore ω α} {f : α → ModelM MemoryStore ω β}
    (first : Leads scene w m P)
    (rest : ∀ a w', w.Lasts w' → P a w' → Leads scene w' (f a) Q) :
    Leads scene w (m >>= f) Q := by
  cases hm : m scene w with
  | mk x w' =>
    have hlasts := first.lasts
    have hanswer := first.answer
    rw [hm] at hlasts hanswer
    cases x with
    | error e =>
      refine ⟨?_, fun b hb => ?_⟩
      · rw [bind_error hm]
        exact hlasts
      · rw [bind_error hm] at hb
        cases hb
    | ok a =>
      have hrest := rest a w' hlasts (hanswer a rfl)
      refine ⟨?_, ?_⟩
      · rw [bind_ok hm]
        exact hlasts.trans hrest.lasts
      · rw [bind_ok hm]
        exact hrest.answer

/-- A decision leads where the branch that is taken does. -/
theorem ite {c : Prop} [Decidable c] {m m' : ModelM MemoryStore ω α}
    (h : c → Leads scene w m P) (h' : ¬c → Leads scene w m' P) :
    Leads scene w (if c then m else m') P := by
  split
  · next hc => exact h hc
  · next hc => exact h' hc

/-- A computation that goes on unless it is stopped by an error. -/
theorem stopIf {c : Prop} [Decidable c] {e : ModelError} {f : Unit → ModelM MemoryStore ω β}
    (h : ¬c → Leads scene w (f ()) Q) :
    Leads scene w (if c then MonadExcept.throw e >>= f else f ()) Q :=
  .ite (fun _ => .bind (throw (P := fun _ _ => False) e) fun _ _ _ hnever => hnever.elim) h

/-- A computation that begins by looking at its scene leads where it does with that scene. -/
theorem of_read {f : Scene → ModelM MemoryStore ω β} (h : Leads scene w (f scene) Q) :
    Leads scene w (read >>= f) Q :=
  ⟨h.lasts, h.answer⟩

/-- The catalog and the inventory answer without a look at the store. -/
theorem consult (target : String) (failure : String → ModelError) (a : α) :
    Leads scene w (consult target failure a) fun _ w' => w'.store = w.store := by
  refine ⟨.of_store ?_, fun _ _ => ?_⟩ <;>
    · rw [ModelM.consult]
      dsimp only
      split <;> rfl

/-! ### Questions to the data store -/

/-- A call that spares what is stored leads to a world where it lasts. -/
theorem tryStore {c : StoreCall} (hc : c.Sparing (w.part scene.ctx.partition)) :
    Leads scene w (tryStore c) fun x w' => w.CallOutcome scene.ctx.partition c (x, w') := by
  have houtcome := w.callStore_outcome scene.ctx.partition c
  cases hcall : w.callStore scene.ctx.partition c with
  | mk x w' =>
    rw [hcall] at houtcome
    refine ⟨?_, fun y hy => ?_⟩
    · rw [tryStore_run hcall]
      cases houtcome with
      | refused same => exact .of_store same
      | answered run stored => exact .exchange (.of_store rfl) stored (Partition.run_lasts hc run)
    · rw [tryStore_run hcall] at hy ⊢
      cases hy
      exact houtcome

/-- A sparing call, with the part that it is answered by. -/
theorem askStore (activity : String) {c : StoreCall}
    (hc : c.Sparing (w.part scene.ctx.partition)) :
    Leads scene w (askStore activity c) fun a w' =>
      (w.part scene.ctx.partition).run c = .ok (a, w'.part scene.ctx.partition) := by
  refine .bind (tryStore hc) fun answer w' _ houtcome => ?_
  cases houtcome with
  | refused same => exact .throw _
  | answered run stored =>
    refine .pure ?_
    rw [run, World.part, stored, MemoryStore.partition_withPartition_self]

/-- A call that only asks. -/
theorem look (activity : String) {c : StoreCall} (hc : c.isMutating = false) :
    Leads scene w (ModelM.askStore activity c) fun a w' =>
      (w.part scene.ctx.partition).run c = .ok (a, w.part scene.ctx.partition) ∧
        w'.part scene.ctx.partition = w.part scene.ctx.partition := by
  have hsparing : c.Sparing (w.part scene.ctx.partition) := by
    cases c <;> trivial
  have hask := askStore activity hsparing
  refine ⟨hask.lasts, fun a ha => ?_⟩
  have hrun := hask.answer a ha
  rw [Partition.run_of_not_mutating hc hrun] at hrun
  exact ⟨hrun, Partition.run_of_not_mutating hc (hask.answer a ha)⟩

/-- Nothing has to be known of a computation that makes tame calls only. -/
theorem of_asks [LinkIssuer ω] {m : ModelM MemoryStore ω α} (h : Asks StoreCall.IsTame m) :
    Leads scene w m fun _ _ => True := by
  induction h generalizing w with
  | pure a => exact .pure trivial
  | throw e => exact .throw e
  | read => exact ⟨.of_store rfl, fun _ _ => trivial⟩
  | bind first rest ih ih' => exact .bind ih fun a w' _ _ => ih' a
  | tryStore hc => exact ⟨(tryStore (hc.sparing _)).lasts, fun _ _ => trivial⟩
  | consult target failure a => exact ⟨(consult target failure a).lasts, fun _ _ => trivial⟩
  | downloadLink activity path filename => exact ⟨.of_store rfl, fun _ _ => trivial⟩
  | emit event id details => exact ⟨.of_store rfl, fun _ _ => trivial⟩

/-! ### Reports -/

section

variable [LinkIssuer ω]

/-- Moving a record spares what is stored if the record is active. -/
theorem moveRecord {id : DeploymentId} {device : DeviceId} (r : StatusReport)
    (hactive : (w.part scene.ctx.partition).ActiveAt (id, device)) :
    Leads scene w (moveRecord id device r) fun _ _ => True := by
  refine of_read (.bind (askStore _ hactive) fun old w' _ _ => of_asks ?_)
  exact .bind (.askStore _ trivial) fun _ => .bind (.emit _ _ _) fun _ => .finishIfDone id

/-- A report moves a record only after it has found it active, and no other call comes in
between. -/
theorem report (id : DeploymentId) (device : DeviceId) (r : StatusReport) :
    Leads scene w (report id device r) fun _ _ => True := by
  refine .bind (of_asks (.accept _)) fun _ w₁ _ _ => ?_
  refine .bind (look _ rfl) fun found w₂ _ ⟨hfound, hpart⟩ => ?_
  cases found with
  | none => exact .throw _
  | some current =>
    refine .stopIf fun _ => .stopIf fun _ => .stopIf fun _ => .ite (fun _ => .pure trivial) fun _ =>
      .stopIf fun hmoving => moveRecord r fun s hs => ?_
    -- The record that is about to move is the one that was found, and that one has work to do.
    rw [hpart, (Prod.mk.inj (Except.ok.inj hfound)).1] at hs
    cases hs
    simpa [DeviceStatus.isTerminal] using hmoving

end

/-! ### Polls -/

/-- A search by name gives an artifact to a record that is active. -/
theorem reassign {d : Deployment} {r : DeviceRecord} (installed : Installed)
    (hactive : (w.part scene.ctx.partition).ActiveAt (d.id, r.deviceId)) :
    Leads scene w (reassign d r installed) fun _ _ => True := by
  rw [ModelM.reassign]
  cases (if installed.deviceType.isEmpty then r.deviceType else some installed.deviceType) with
  | none => exact .pure trivial
  | some t =>
    refine .bind (of_read (consult _ _ _)) fun frozen w₁ _ hsame => ?_
    have hactive₁ : (w₁.part scene.ctx.partition).ActiveAt (d.id, r.deviceId) := by
      rw [World.part, hsame]
      exact hactive
    cases frozen
    case' some a =>
      refine .bind (P := fun _ w₂ => w₂.store = w₁.store) (.pure rfl) fun found w₂ _ hsame₂ => ?_
    case' none => refine .bind (of_read (consult _ _ _)) fun found w₂ _ hsame₂ => ?_
    all_goals
      -- Looking for an artifact leaves the record as it was found.
      have hactive₂ : (w₂.part scene.ctx.partition).ActiveAt (d.id, r.deviceId) := by
        rw [World.part, hsame₂]
        exact hactive₁
      cases found with
      | none => exact .pure trivial
      | some a => exact .bind (askStore _ hactive₂) fun _ _ _ _ => .pure trivial

/-- The search for an artifact gives one to a record that is active. -/
theorem artifactFor {d : Deployment} {r : DeviceRecord} (installed : Installed)
    (hactive : (w.part scene.ctx.partition).ActiveAt (d.id, r.deviceId)) :
    Leads scene w (artifactFor d r installed) fun _ _ => True := by
  rw [ModelM.artifactFor]
  cases r.artifact with
  | none => exact reassign installed hactive
  | some a => exact .ite (fun _ => reassign installed hactive) fun _ => .pure trivial

variable [LinkIssuer ω]

/-- A poll gives artifacts to the record that it has found among the active ones. -/
theorem poll (hkeyed : (w.part scene.ctx.partition).Keyed) (device : DeviceId)
    (installed : Installed) : Leads scene w (poll device installed) fun _ _ => True := by
  refine .bind (look _ rfl) fun found w₁ _ ⟨hfound, hpart⟩ => ?_
  cases found with
  | none => exact .pure trivial
  | some r =>
    obtain ⟨hr, -, hactive⟩ := Partition.of_oldest hkeyed (Prod.mk.inj (Except.ok.inj hfound)).1
    refine .bind (look _ rfl) fun found w₂ _ ⟨hget, hpart'⟩ => ?_
    cases found with
    | none => exact .pure trivial
    | some d =>
      rw [hpart] at hpart' hget
      have hid : d.id = r.deploymentId :=
        hkeyed.deployment (Prod.mk.inj (Except.ok.inj hget)).1
      have hactive' : (w₂.part scene.ctx.partition).ActiveAt (d.id, r.deviceId) := by
        rw [hpart', hid]
        intro s hs
        rw [show (r.deploymentId, r.deviceId) = r.key from rfl, hr] at hs
        cases hs
        exact hactive
      refine .ite (fun _ => .bind (report _ _ _) fun _ _ _ _ => .pure trivial) fun _ => ?_
      refine .bind (artifactFor installed hactive') fun found w₃ _ _ => ?_
      cases found with
      | none => exact .bind (report _ _ _) fun _ _ _ _ => .pure trivial
      | some a => exact of_asks (.bind (.instruct d.id a) fun _ => .pure _)

/-! ### Logs -/

/-- Saving a log changes no record but for its mark. -/
theorem saveLog (log : DeploymentLog) : Leads scene w (saveLog log) fun _ _ => True := by
  refine .bind (of_asks (.accept _)) fun _ w _ _ => .bind (of_asks (.hasRecord _ _)) fun _ w _ _ =>
    .stopIf fun _ => .bind (askStore _ trivial) fun _ w _ _ => ?_
  have hmark : StoreCall.Sparing (w.part scene.ctx.partition)
      (.markLog log.deploymentId log.deviceId true) := trivial
  exact ⟨(askStore _ hmark).lasts, fun _ _ => trivial⟩

/-! ### Creations -/

omit [LinkIssuer ω] in
/-- Once the deployment is stored, the records follow or the deployment is taken back. -/
theorem storeNew (d : Deployment) (records : List DeviceRecord) :
    Leads scene w (storeNew d records) fun _ _ => True := by
  refine ⟨?_, fun _ _ => trivial⟩
  have hadded (hfree : (w.part scene.ctx.partition).deployments.get? d.id = none) :
      (w.part scene.ctx.partition).Lasts ((w.part scene.ctx.partition).withDeployment d.id d) := by
    refine .withDeployment (fun _ => rfl) fun e he => ?_
    rw [hfree] at he
    cases he
  have houtcome := storeNew_outcome scene w d records
  cases hrun : (ModelM.storeNew d records : ModelM MemoryStore ω _) scene w with
  | mk x w' =>
    rw [hrun] at houtcome
    cases houtcome with
    | stored free run stored =>
      exact .exchange (.of_store rfl) stored ((hadded free).trans
        (Partition.run_lasts (c := .insertRecords records) trivial run))
    | undone told same silent => exact .of_store same
    | left behind => exact .exchange (.of_store rfl) behind.store.2 (hadded behind.store.1)

/-- A creation adds a deployment and its records, and what it takes back is its own. -/
theorem create (p : Plan) : Leads scene w (create p) fun _ _ => True := by
  refine .bind (of_asks (.accept _)) fun _ w _ _ => ?_
  refine .bind (of_asks (.resolveDevices p)) fun devices w _ _ => of_read ?_
  refine .bind (of_read (consult _ _ _)) fun artifacts w _ _ => ?_
  refine .bind (of_asks (.newRecords _ _ _)) fun records w _ _ => ?_
  cases Stats.ofStatuses (records.map (·.status)) with
  | error e => exact .throw _
  | ok stats =>
    exact .bind (storeNew _ _) fun _ w _ _ => of_asks (.bind (.emit _ _ _) fun _ =>
      .ite (.bind (.emit _ _ _) fun _ => .pure _) (.pure _))

end Leads

end ModelM

namespace World

variable {ω : Type} {w : World MemoryStore ω} [LinkIssuer ω]

/-- Every operation leads to a world where everything lasts. -/
theorem lasts_perform (hkeyed : ∀ t, (w.part t).Keyed) (scene : Scene) (c : ModelCall) :
    w.Lasts (w.perform scene c).2 := by
  cases c with
  | create p => exact (ModelM.Leads.create p).lasts
  | report id device r => exact (ModelM.Leads.report id device r).lasts
  | poll device installed => exact (ModelM.Leads.poll (hkeyed _) device installed).lasts
  | get id => exact (ModelM.Leads.of_asks (.getDeployment id)).lasts
  | stats id => exact (ModelM.Leads.of_asks (.getStats id)).lasts
  | isFinished id => exact (ModelM.Leads.of_asks (.isFinished id)).lasts
  | lookup q => exact (ModelM.Leads.of_asks (.lookup q)).lasts
  | abort id => exact (ModelM.Leads.of_asks (.abort id)).lasts
  | decommission device => exact (ModelM.Leads.of_asks (.decommission device)).lasts
  | records id => exact (ModelM.Leads.of_asks (.getRecords id)).lasts
  | hasRecord id device => exact (ModelM.Leads.of_asks (.hasRecord id device)).lasts
  | saveLog log => exact (ModelM.Leads.saveLog log).lasts
  | getLog id device => exact (ModelM.Leads.of_asks (.getLog id device)).lasts

/-- Everything lasts over a whole run. -/
theorem lasts_run (hkeyed : ∀ t, (w.part t).Keyed) (steps : List Step) :
    w.Lasts (w.run steps) := by
  induction steps generalizing w with
  | nil => exact .of_store rfl
  | cons step rest ih =>
    have hstep := lasts_perform hkeyed step.1 step.2
    exact hstep.trans (ih fun t => (hstep t).keyed (hkeyed t))

/-- What is stored at some time of a run from an empty store is stored at any later time. A
deployment keeps all that was settled at its creation, and its finish time once it has one. A
record keeps its names and its creation, and at rest it changes the mark of its log only. -/
theorem stored_lasts (hstore : w.store = {}) (before after : List Step) (t : TenantId) :
    (∀ id d, ((w.run before).part t).deployments.get? id = some d →
      ∃ d', ((w.run (before ++ after)).part t).deployments.get? id = some d' ∧
        d'.id = d.id ∧ d'.plan = d.plan ∧ d'.created = d.created ∧
        d'.artifacts = d.artifacts ∧ d'.deviceCount = d.deviceCount ∧
        d'.maxDevices = d.maxDevices ∧ ∀ x, d.finished = some x → d'.finished = some x) ∧
    (∀ k r, ((w.run before).part t).records.get? k = some r →
      ∃ r', ((w.run (before ++ after)).part t).records.get? k = some r' ∧
        r'.id = r.id ∧ r'.deploymentId = r.deploymentId ∧ r'.deviceId = r.deviceId ∧
        r'.created = r.created ∧
        (r.status.isTerminal = true → r' = { r with isLogAvailable := r'.isLogAvailable })) := by
  have hempty (t : TenantId) : (w.part t).Keyed := by
    rw [part, hstore]
    exact .empty
  have hbefore := lasts_run hempty before
  have hafter : (w.run before).Lasts (w.run (before ++ after)) := by
    rw [run, run, List.foldl_append]
    exact lasts_run (fun t => (hbefore t).keyed (hempty t)) after
  refine ⟨fun id d hd => ?_, fun k r hr => ?_⟩
  · obtain ⟨d', hd', hlasts⟩ := (hafter t).deployment hd
    exact ⟨d', hd', hlasts.id, hlasts.plan, hlasts.created, hlasts.artifacts, hlasts.deviceCount,
      hlasts.maxDevices, fun x hx => hlasts.finished hx⟩
  · obtain ⟨r', hr', hlasts⟩ := (hafter t).record hr
    exact ⟨r', hr', hlasts.id, hlasts.deploymentId, hlasts.deviceId, hlasts.created,
      hlasts.settled⟩

/-- The device that succeeded keeps its record when the other one is taken out of service. -/
theorem stored_lasts_sample : ∃ r r',
    ((sampleWorld.run (sampleSteps.take 3)).part "").records.get? ("update", "left") = some r ∧
    r.status = .success ∧
    ((sampleWorld.run (sampleSteps.take 3 ++ sampleSteps.drop 3)).part "").records.get?
      ("update", "left") = some r' ∧
    r' = { r with isLogAvailable := r'.isLogAvailable } := by
  obtain ⟨r', hr', -, -, -, -, hsettled⟩ := (stored_lasts (w := sampleWorld) rfl
    (sampleSteps.take 3) (sampleSteps.drop 3) "").2 ("update", "left") _ rfl
  exact ⟨_, r', rfl, rfl, hr', hsettled rfl⟩

end World

end Fleet
