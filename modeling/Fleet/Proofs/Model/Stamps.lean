import Fleet.Proofs.Deployment.Stamps
import Fleet.Proofs.Model.Runs

/-!
# `Fleet.Proofs.Model.Stamps`: finish times in every state that operations reach

The deployments of a part are stamped at a time (`Partition.Stamped`), and they stay so while
the part evolves and the clock does not run backwards. Over a run whose clock readings ascend
every state is stamped, which gives the main theorem `stamps_agree`.

Nothing is asked of the names that are handed out: a creation under a name that is taken leaves
everything as it is.
-/

set_option autoImplicit false

namespace Fleet

open Fleet.Time

/-- The deployments of a part are stamped at a time. -/
def Partition.Stamped (clock : Instant) (p : Partition) : Prop :=
  ∀ id d, p.deployments.get? id = some d → d.Stamped clock (p.recordsOf id)

namespace Partition.Stamped

variable {clock now : Instant} {p p' : Partition}

/-- An empty part is stamped at any time. -/
theorem empty (clock : Instant) : Stamped clock {} := by
  intro id d hd
  cases hd

/-- A part that is stamped at one time is stamped at any later one. -/
theorem mono (h : p.Stamped clock) (hclock : clock.nanos ≤ now.nanos) : p.Stamped now :=
  fun id d hd => (h id d hd).mono hclock

/-- A part that evolves stays stamped, at the time of the step. -/
theorem evolves (h : p.Stamped clock) (hconsistent : p.Consistent)
    (hclock : clock.nanos ≤ now.nanos) (hev : p.Evolves now p') : p'.Stamped now := by
  intro id d' hd'
  rcases hev.deployment hd' with ⟨d, hd, step⟩ | ⟨-, hopened⟩
  · exact (h id d hd).progress (hconsistent.inPhase hd) (hconsistent.counts hd) hclock step
  · exact .opened hopened

end Partition.Stamped

namespace World

/-- The clock never runs backwards. -/
def Ascending (steps : List Step) : Prop :=
  steps.Pairwise fun a b => a.1.now.nanos ≤ b.1.now.nanos

/-- There is a time that is not before any step. -/
theorem exists_clock (steps : List Step) :
    ∃ clock : Instant, ∀ step ∈ steps, step.1.now.nanos ≤ clock.nanos := by
  induction steps with
  | nil => exact ⟨.ofUnix 0, fun step hstep => absurd hstep List.not_mem_nil⟩
  | cons first rest ih =>
    obtain ⟨clock, hclock⟩ := ih
    refine ⟨⟨max first.1.now.nanos clock.nanos, 0⟩, fun step hstep => ?_⟩
    rcases List.mem_cons.1 hstep with rfl | hstep
    · exact Int.le_max_left _ _
    · exact Int.le_trans (hclock step hstep) (Int.le_max_right _ _)

variable {ω : Type} [LinkIssuer ω] {w : World MemoryStore ω}

/-- Every part that an ascending run reaches from an empty store is stamped. -/
theorem stamped_run (hstore : w.store = {}) (hfaults : w.faults.SparesStore) (steps : List Step)
    (hbounded : ∀ step ∈ steps, step.2.Bounded step.1) (hascending : Ascending steps)
    {clock : Instant} (hclock : ∀ step ∈ steps, step.1.now.nanos ≤ clock.nanos) (t : TenantId) :
    ((w.run steps).part t).Stamped clock := by
  induction steps using List.reverseRecOn generalizing clock with
  | nil =>
    have hempty : w.part t = {} := by rw [part, hstore]
    rw [run, List.foldl_nil, hempty]
    exact .empty clock
  | append_singleton steps step ih =>
    have hbounded' : ∀ s ∈ steps, s.2.Bounded s.1 := fun s hs =>
      hbounded s (List.mem_append_left _ hs)
    have hlast : step ∈ steps ++ [step] := List.mem_append_right _ List.mem_cons_self
    obtain ⟨hbefore, -, horder⟩ := List.pairwise_append.1 hascending
    -- Everything that was stamped so far was stamped before the clock of this step.
    have hstamped : ((w.run steps).part t).Stamped step.1.now :=
      ih hbounded' hbefore fun s hs => horder s hs step List.mem_cons_self
    have hsteady := (Steady.of_empty hstore hfaults).run steps hbounded'
    have heffect := perform_effect hsteady.spares (hsteady.consistent _) step.2
      (hbounded step hlast)
    obtain ⟨events, hchange, -⟩ := heffect.change
    rw [run_append_singleton]
    refine Partition.Stamped.mono ?_ (hclock step hlast)
    by_cases ht : t = step.1.ctx.partition
    · subst ht
      exact hstamped.evolves (hsteady.consistent _) (Int.le_refl _)
        (hchange.evolves (hsteady.consistent _))
    · rw [heffect.others t ht]
      exact hstamped

/-- In every state that operations reach from an empty store while the clock does not run
backwards, a record has a finish time exactly if it is at rest. A finished deployment that lost no
device has the latest finish time among its records, and one that lost a device has the
earliest among those of the devices that it lost. -/
theorem stamps_agree (hstore : w.store = {}) (hfaults : w.faults.SparesStore) (steps : List Step)
    (hbounded : ∀ step ∈ steps, step.2.Bounded step.1) (hascending : Ascending steps)
    (t : TenantId) :
    (∀ k r, ((w.run steps).part t).records.get? k = some r →
      (r.finished.isSome = true ↔ r.status.isTerminal = true)) ∧
    (∀ id d, ((w.run steps).part t).deployments.get? id = some d →
      let l := ((w.run steps).part t).recordsOf id
      (d.isFinished = true → (∀ r ∈ l, r.status ≠ .decommissioned) →
        ∃ x, d.finished = some x ∧ IsLatest x l) ∧
      ((∃ r ∈ l, r.status = .decommissioned) →
        ∃ x, d.finished = some x ∧ IsEarliest x (lost l))) := by
  obtain ⟨clock, hclock⟩ := exists_clock steps
  have hstamped := stamped_run hstore hfaults steps hbounded hascending hclock t
  have hconsistent := ((Steady.of_empty hstore hfaults).run steps hbounded).consistent t
  refine ⟨fun k r hr => ?_, fun id d hd => ⟨fun hf hnone => ?_, fun ⟨r, hr, hgone⟩ => ?_⟩⟩
  · have hkey := hconsistent.keyed.record hr
    rw [← hkey] at hr
    obtain ⟨d, hd⟩ := hconsistent.owned hr
    rw [(hstamped _ d hd).rest r ((Partition.mem_recordsOf hconsistent.keyed).2 hr)]
  · refine (hstamped id d hd).latest hf (List.eq_nil_iff_forall_not_mem.2 fun r hr => ?_)
    obtain ⟨hmem, hgone⟩ := mem_lost.1 hr
    exact hnone r hmem hgone
  · exact (hstamped id d hd).earliest (List.ne_nil_of_mem (mem_lost.2 ⟨hr, hgone⟩))

/-- One device is taken out of service, and the other one succeeds a second later. -/
def lateSteps : List Step :=
  [(sampleScene, .create { name := "all", artifactName := "app", devices := ["left", "right"] }),
    ({ sampleScene with now := .ofUnix 1 }, .decommission "right"),
    ({ sampleScene with now := .ofUnix 2 }, .report "update" "left" { status := .success })]

/-- A deployment that lost a device is finished since then, although its other device came to rest
later. -/
theorem stamps_agree_late : ∃ d,
    ((sampleWorld.run lateSteps).part "").deployments.get? "update" = some d ∧
    d.finished = some (.ofUnix 1) ∧
    IsEarliest (.ofUnix 1) (lost (((sampleWorld.run lateSteps).part "").recordsOf "update")) ∧
    ∃ r ∈ ((sampleWorld.run lateSteps).part "").recordsOf "update",
      r.finished = some (.ofUnix 2) := by
  have hbounded : ∀ step ∈ lateSteps, step.2.Bounded step.1 := by
    intro step hstep
    rcases List.mem_cons.1 hstep with rfl | hstep
    · show (sampleScene.targets _).length < 2 ^ 64
      decide
    · rcases List.mem_cons.1 hstep with rfl | hstep
      · trivial
      · rw [List.mem_singleton.1 hstep]
        trivial
  have hascending : Ascending lateSteps := by
    rw [Ascending]
    decide
  obtain ⟨x, hx, hearliest⟩ := ((stamps_agree (w := sampleWorld) rfl FaultPlan.sparesStore_nil
    lateSteps hbounded hascending "").2 "update" _ rfl).2 (by decide)
  have hx' : x = .ofUnix 1 := Option.some.inj (hx.symm.trans rfl)
  rw [hx'] at hearliest
  exact ⟨_, rfl, rfl, hearliest, by decide⟩

end World

end Fleet
