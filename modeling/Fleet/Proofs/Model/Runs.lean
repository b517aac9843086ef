import Fleet.Objects.Service
import Fleet.Proofs.Model.Effect

/-!
# `Fleet.Proofs.Model.Runs`: what holds in every state that operations reach

A run is a list of operations in their scenes, as `World.run` takes it, and `World.answers`
collects what they answer. A run is `Admissible` if no name is handed out twice within a
tenant and no plan selects more devices than a counter can count.

`World.Steady` is the invariant of every run: the parts of all tenants are consistent.
`World.Sound` adds what an admissible run keeps: the names of all deployments have been handed
out. Operations keep both, so every state that a run reaches from an empty store has them
(`Steady.run`, `sound_run`).

From the invariant follow the two main theorems. `counters_agree`: the counters of every
deployment are those of its records, and no operation fails for a reason that speaks of a
broken store. `phases_agree`: finish time and status of every deployment fit its records.
-/

set_option autoImplicit false

namespace Fleet

/-- An operation in its scene. -/
abbrev Step : Type := Scene × ModelCall

namespace World

/-- What the operations of a run answer, in order. -/
def answers {σ ω : Type} [DataStore σ] [LinkIssuer ω] (w : World σ ω) :
    List Step → List (Σ c : ModelCall, Except ModelError c.Answer)
  | [] => []
  | (scene, c) :: rest => ⟨c, (w.perform scene c).1⟩ :: answers (w.perform scene c).2 rest

end World

/-- The name that an operation hands out, with the tenant that it is for. -/
def Step.minted : Step → Option (TenantId × DeploymentId)
  | (scene, .create _) => some (scene.ctx.partition, scene.newDeployment)
  | _ => none

/-- Runs of distinct names, with no more devices in a deployment than a counter can count. -/
structure Admissible (steps : List Step) : Prop where
  /-- No name is handed out twice within a tenant. -/
  fresh : (steps.filterMap Step.minted).Nodup
  /-- A plan selects no more devices than a counter can count. -/
  bounded : ∀ {scene plan}, (scene, .create plan) ∈ steps →
    (scene.targets plan).length < 2 ^ 64

namespace Admissible

variable {steps : List Step} {step : Step}

/-- A beginning of an admissible run is admissible. -/
theorem of_append {rest : List Step} (h : Admissible (steps ++ rest)) : Admissible steps where
  fresh := by
    have hfresh := h.fresh
    rw [List.filterMap_append] at hfresh
    exact hfresh.of_append_left
  bounded hmem := h.bounded (List.mem_append_left _ hmem)

/-- In an admissible run every step is bounded. -/
theorem forall_bounded (h : Admissible steps) : ∀ step ∈ steps, step.2.Bounded step.1 := by
  rintro ⟨scene, c⟩ hmem
  cases c with
  | create plan => exact h.bounded hmem
  | _ => trivial

/-- A name is not handed out a second time. -/
theorem notMem_minted (h : Admissible (steps ++ [step])) {name : TenantId × DeploymentId}
    (hstep : step.minted = some name) : name ∉ steps.filterMap Step.minted := by
  have hfresh := h.fresh
  rw [List.filterMap_append, List.filterMap_cons_some hstep] at hfresh
  intro hmem
  exact (List.disjoint_of_nodup_append hfresh) hmem List.mem_cons_self

end Admissible

namespace World

/-- A run with one more step goes on from where it was. -/
theorem run_append_singleton {σ ω : Type} [DataStore σ] [LinkIssuer ω] (w : World σ ω)
    (steps : List Step) (step : Step) :
    w.run (steps ++ [step]) = ((w.run steps).perform step.1 step.2).2 := by
  rw [run, List.foldl_append]
  rfl

/-- A run with one more step has its answer behind the others. -/
theorem answers_append_singleton {σ ω : Type} [DataStore σ] [LinkIssuer ω] (w : World σ ω)
    (steps : List Step) (step : Step) :
    w.answers (steps ++ [step])
      = w.answers steps ++ [⟨step.2, ((w.run steps).perform step.1 step.2).1⟩] := by
  induction steps generalizing w with
  | nil => rfl
  | cons first rest ih =>
    rw [List.cons_append, answers, ih, answers]
    rfl

variable {ω : Type} {w : World MemoryStore ω}

/-- What holds between the operations of any run. -/
structure Steady (w : World MemoryStore ω) : Prop where
  /-- No planned fault is for the store. -/
  spares : w.faults.SparesStore
  /-- The parts of all tenants are consistent. -/
  consistent : ∀ t, (w.part t).Consistent

namespace Steady

variable {steps : List Step} {step : Step}

/-- An empty store is steady. -/
theorem of_empty (hstore : w.store = {}) (hfaults : w.faults.SparesStore) : w.Steady where
  spares := hfaults
  consistent t := by
    rw [part, hstore]
    exact .empty

/-- Operations keep a world steady. -/
theorem perform [LinkIssuer ω] (h : w.Steady) (hbounded : step.2.Bounded step.1) :
    (w.perform step.1 step.2).2.Steady := by
  have heffect := perform_effect h.spares (h.consistent _) step.2 hbounded
  obtain ⟨events, hchange, -⟩ := heffect.change
  refine ⟨heffect.spares, fun t => ?_⟩
  by_cases ht : t = step.1.ctx.partition
  · subst ht
    exact (h.consistent _).evolves (hchange.evolves (h.consistent _))
  · rw [heffect.others t ht]
    exact h.consistent t

end Steady

/-- What holds between the operations of a run that has handed out some names. -/
structure Sound (w : World MemoryStore ω) (names : List (TenantId × DeploymentId)) : Prop
    extends w.Steady where
  /-- The name of a stored deployment has been handed out. -/
  named : ∀ {t id d}, (w.part t).deployments.get? id = some d → (t, id) ∈ names

namespace Sound

variable {steps : List Step} {step : Step}

/-- An empty store is sound, as no name has been handed out. -/
theorem of_empty (hstore : w.store = {}) (hfaults : w.faults.SparesStore) : w.Sound [] where
  toSteady := .of_empty hstore hfaults
  named {t id d} hd := by
    rw [part, hstore] at hd
    cases hd

/-- In a sound world the next operation of an admissible run has what it asks for. -/
theorem ready (h : w.Sound (steps.filterMap Step.minted))
    (hadmissible : Admissible (steps ++ [step])) :
    step.2.Ready step.1 (w.part step.1.ctx.partition) := by
  obtain ⟨scene, c⟩ := step
  cases c with
  | create plan =>
    refine ⟨?_, hadmissible.bounded (List.mem_append_right _ List.mem_cons_self)⟩
    cases hget : (w.part scene.ctx.partition).deployments.get? scene.newDeployment with
    | none => rfl
    | some d => exact absurd (h.named hget) (hadmissible.notMem_minted rfl)
  | _ => trivial

/-- Operations keep a world sound. -/
theorem perform [LinkIssuer ω] (h : w.Sound (steps.filterMap Step.minted))
    (hadmissible : Admissible (steps ++ [step])) :
    (w.perform step.1 step.2).2.Sound ((steps ++ [step]).filterMap Step.minted) := by
  have hbounded := (h.ready hadmissible).bounded
  have heffect := perform_effect h.spares (h.consistent _) step.2 hbounded
  obtain ⟨events, hchange, -⟩ := heffect.change
  have hold {t : TenantId} {id : DeploymentId} {d : Deployment}
      (hd : (w.part t).deployments.get? id = some d) :
      (t, id) ∈ (steps ++ [step]).filterMap Step.minted := by
    rw [List.filterMap_append]
    exact List.mem_append_left _ (h.named hd)
  refine ⟨h.toSteady.perform hbounded, fun {t id d} hd => ?_⟩
  by_cases ht : t = step.1.ctx.partition
  · subst ht
    -- A deployment was named before, or its name is the one that this step hands out.
    rcases hchange.deployment (h.consistent _) hd with ⟨e, he, -⟩ | ⟨-, plan, hc, rfl, -⟩
    · exact hold he
    · have hminted : step.minted = some (step.1.ctx.partition, step.1.newDeployment) := by
        obtain ⟨scene, c⟩ := step
        cases hc
        rfl
      rw [List.filterMap_append, List.filterMap_cons_some hminted]
      exact List.mem_append_right _ List.mem_cons_self
  · rw [heffect.others t ht] at hd
    exact hold hd

end Sound

variable [LinkIssuer ω]

/-- A run keeps a world steady, as long as no plan selects more devices than a counter can
count. -/
theorem Steady.run (h : w.Steady) (steps : List Step)
    (hbounded : ∀ step ∈ steps, step.2.Bounded step.1) : (w.run steps).Steady := by
  induction steps using List.reverseRecOn with
  | nil => exact h
  | append_singleton steps step ih =>
    rw [run_append_singleton]
    exact (ih fun s hs => hbounded s (List.mem_append_left _ hs)).perform
      (hbounded step (List.mem_append_right _ List.mem_cons_self))

/-- Every state that an admissible run reaches from an empty store is sound. -/
theorem sound_run (hstore : w.store = {}) (hfaults : w.faults.SparesStore) (steps : List Step)
    (hadmissible : Admissible steps) :
    (w.run steps).Sound (steps.filterMap Step.minted) := by
  induction steps using List.reverseRecOn with
  | nil => exact .of_empty hstore hfaults
  | append_singleton steps step ih =>
    rw [run_append_singleton]
    exact (ih hadmissible.of_append).perform hadmissible

/-- No operation of an admissible run speaks of a broken store. -/
theorem answers_sound (hstore : w.store = {}) (hfaults : w.faults.SparesStore)
    (steps : List Step) (hadmissible : Admissible steps) :
    ∀ x ∈ w.answers steps, ∀ e, x.2 = .error e → e.isBookkeeping = false := by
  induction steps using List.reverseRecOn with
  | nil =>
    intro x hx
    cases hx
  | append_singleton steps step ih =>
    have hsound := sound_run hstore hfaults steps hadmissible.of_append
    intro x hx
    rw [answers_append_singleton] at hx
    rcases List.mem_append.1 hx with hx | hx
    · exact ih hadmissible.of_append x hx
    · have hready := hsound.ready hadmissible
      rw [List.mem_singleton.1 hx]
      exact (perform_effect hsound.spares (hsound.consistent _) step.2 hready.bounded).sound hready

/-! ### A run to look at -/

/-- A scene with one artifact and two devices that it fits. -/
def sampleScene : Scene where
  ctx := {}
  now := .ofUnix 0
  catalog := ⟨[{ id := "image", name := "app", deviceTypes := ["board"] }]⟩
  inventory := ⟨[{ device := "left", deviceType := some "board" },
    { device := "right", deviceType := some "board" }]⟩
  newDeployment := "update"
  newRecord position := if position = 0 then "first" else "second"

/-- One device succeeds, the other is taken out of service. -/
def sampleSteps : List Step :=
  [(sampleScene, .create { name := "all", artifactName := "app", devices := ["left", "right"] }),
    (sampleScene, .poll "left" { artifactName := "base", deviceType := "board" }),
    (sampleScene, .report "update" "left" { status := .success }),
    (sampleScene, .decommission "right")]

/-- A world where nothing has happened yet. -/
def sampleWorld : World MemoryStore ObjectSite :=
  { store := {}, objects := { service := .memory {} } }

/-- The sample run is admissible. -/
theorem admissible_sampleSteps : Admissible sampleSteps where
  fresh := by decide
  bounded {scene plan} h := by
    rcases List.mem_cons.1 h with h | h
    · cases h
      decide
    · simp at h

/-! ### Counters -/

/-- In every state that operations reach from an empty store, the counters of a deployment are
those of its records, its records belong to it, and no operation has failed for a reason that
speaks of a broken store. -/
theorem counters_agree (hstore : w.store = {}) (hfaults : w.faults.SparesStore)
    (steps : List Step) (hadmissible : Admissible steps) :
    (∀ t id d, ((w.run steps).part t).deployments.get? id = some d →
      Stats.ofStatuses (statuses (((w.run steps).part t).recordsOf id)) = .ok d.stats ∧
      (∀ scene : Scene, scene.ctx.partition = t →
        ((w.run steps).perform scene (.stats id)).1 = .ok (some d.stats)) ∧
      d.stats.total.toNat = d.deviceCount ∧ d.deviceCount = d.maxDevices ∧
      d.maxDevices = (((w.run steps).part t).recordsOf id).length ∧
      1 ≤ (((w.run steps).part t).recordsOf id).length) ∧
    (∀ t k r, ((w.run steps).part t).records.get? k = some r →
      ∃ d, ((w.run steps).part t).deployments.get? r.deploymentId = some d ∧
        r ∈ ((w.run steps).part t).recordsOf d.id) ∧
    (∀ x ∈ w.answers steps, ∀ e, x.2 = .error e → e.isBookkeeping = false) := by
  have hsound := sound_run hstore hfaults steps hadmissible
  refine ⟨fun t id d hd => ?_, fun t k r hr => ?_, answers_sound hstore hfaults steps hadmissible⟩
  · have hcounts := (hsound.consistent t).counts hd
    refine ⟨hcounts.ofStatuses, fun scene hscene => ?_, ?_, ?_, hcounts.maxDevices,
      hcounts.inhabited⟩
    · subst hscene
      have hstats := ModelM.getStats_run hsound.spares rfl hcounts.bounded
      -- The answer is a new count of the records, not the counters that are stored.
      rw [hd, Option.map_some, Partition.tallyOf, ← hcounts.stats] at hstats
      exact congrArg Prod.fst hstats
    · rw [hcounts.total, hcounts.deviceCount]
    · rw [hcounts.deviceCount, hcounts.maxDevices]
  · have hkeyed := (hsound.consistent t).keyed
    have hkey := hkeyed.record hr
    rw [← hkey] at hr
    obtain ⟨d, hd⟩ := (hsound.consistent t).owned hr
    refine ⟨d, hd, ?_⟩
    rw [hkeyed.deployment hd, Partition.mem_recordsOf hkeyed]
    exact hr

/-- At the end of the sample run one device has succeeded and one is out of service, and so say the
counters. -/
theorem counters_agree_sample : ∃ d,
    ((sampleWorld.run sampleSteps).part "").deployments.get? "update" = some d ∧
    Stats.ofStatuses [.success, .decommissioned] = .ok d.stats ∧ d.stats.total = 2 := by
  obtain ⟨hstats, -, htotal, -⟩ := (counters_agree (w := sampleWorld) rfl
    FaultPlan.sparesStore_nil sampleSteps admissible_sampleSteps).1 "" "update" _ rfl
  exact ⟨_, rfl, hstats, UInt64.toNat_inj.1 htotal⟩

/-! ### Phases -/

/-- In every state that operations reach from an empty store, the finish time and the status of
a deployment fit its records. -/
theorem phases_agree (hstore : w.store = {}) (hfaults : w.faults.SparesStore)
    (steps : List Step) (hadmissible : Admissible steps) (t : TenantId) (id : DeploymentId)
    (d : Deployment) (hd : ((w.run steps).part t).deployments.get? id = some d) :
    let l := ((w.run steps).part t).recordsOf id
    (d.isFinished = false → (∃ r ∈ l, r.status.isActive = true) ∧
      ∀ r ∈ l, r.status ≠ .aborted ∧ r.status ≠ .decommissioned) ∧
    (d.isFinished = true → (∀ r ∈ l, r.status.isTerminal = true) ∨
      ∃ r ∈ l, r.status = .decommissioned) ∧
    ((∃ r ∈ l, r.status = .aborted) → d.isFinished = true ∧
      (∀ r ∈ l, r.status.isTerminal = true) ∧ ∀ r ∈ l, r.status ≠ .decommissioned) ∧
    (d.status = .pending ↔ d.isFinished = false ∧ ∀ r ∈ l, r.status = .pending) ∧
    (d.status = .inProgress ↔ d.isFinished = false ∧ ∃ r ∈ l, r.status ≠ .pending) := by
  have hsound := sound_run hstore hfaults steps hadmissible
  have hphase := (hsound.consistent t).inPhase hd
  have hstatus := ((hsound.consistent t).counts hd).status_iff
  exact ⟨hphase.unfinished, hphase.finished, hphase.aborted, hstatus.1, hstatus.2⟩

/-- At the end of the sample run the deployment is finished, and it has lost a device. -/
theorem phases_agree_sample : ∃ d,
    ((sampleWorld.run sampleSteps).part "").deployments.get? "update" = some d ∧
    d.isFinished = true ∧
    ((∀ r ∈ ((sampleWorld.run sampleSteps).part "").recordsOf "update",
        r.status.isTerminal = true) ∨
      ∃ r ∈ ((sampleWorld.run sampleSteps).part "").recordsOf "update",
        r.status = .decommissioned) := by
  have hphases := phases_agree (w := sampleWorld) rfl FaultPlan.sparesStore_nil sampleSteps
    admissible_sampleSteps "" "update" _ rfl
  exact ⟨_, rfl, rfl, hphases.2.1 rfl⟩

end World

end Fleet
