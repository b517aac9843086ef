import Fleet.Proofs.Deployment.Progress

/-!
# `Fleet.Proofs.Deployment.Phase`: what a finish time says about the records

`Deployment.InPhase` ties the finish time of a deployment to the statuses of its records. An
unfinished deployment has a device with work to do, and no stop has touched it. A finished one
has all devices at rest, unless a device was taken out of service. An abort leaves all devices
at rest and finds no device taken out of service.

The parts need each other. An abort asks for an unfinished deployment only, and it is the
first part that rules out a device taken out of service there. A device taken out of service
was active, which the third part rules out for an aborted deployment.

Every start is in phase (`InPhase.opened`) and every step keeps it so (`InPhase.progress`).
-/

set_option autoImplicit false

namespace Fleet

open Fleet.Time

/-- A status is at rest exactly if it is not active. -/
theorem DeviceStatus.isTerminal_eq (s : DeviceStatus) : s.isTerminal = !s.isActive := rfl

/-- What is not active is at rest. -/
theorem DeviceStatus.isTerminal_of_isActive_ne {s : DeviceStatus} (h : s.isActive ≠ true) :
    s.isTerminal = true := by
  rw [isTerminal_eq, Bool.eq_false_iff.2 h]
  rfl

namespace DeviceRecord

variable {r : DeviceRecord} {s : DeviceStatus} {now : Instant}

/-- A stop that is meant for all leaves no record active. -/
theorem isTerminal_stopIf_true (hs : s.isTerminal = true) :
    (r.stopIf true s now).status.isTerminal = true := by
  rw [status_stopIf, Bool.true_and]
  split
  · exact hs
  · next h => exact DeviceStatus.isTerminal_of_isActive_ne h

/-- A stop gives its own status or leaves the one there is. -/
theorem status_stopIf_eq_or (r : DeviceRecord) (meant : Bool) (s : DeviceStatus)
    (now : Instant) :
    (r.stopIf meant s now).status = s ∨ (r.stopIf meant s now).status = r.status := by
  rw [status_stopIf]
  split
  · exact .inl rfl
  · exact .inr rfl

end DeviceRecord

namespace Deployment

/-- A deployment is finished from the start if no device has work to do. -/
theorem Opened.isFinished_iff {now : Instant} {d : Deployment} {l : List DeviceRecord}
    (h : Opened now d l) : d.isFinished = true ↔ ∀ r ∈ l, r.status.isTerminal = true := by
  rw [← (Counts.opened h).allDevicesTerminal_iff]
  obtain ⟨draft, -, hdraft, hd⟩ := h.counted
  rw [hd, withRecords]
  dsimp only
  split
  · next hall => exact ⟨fun _ => hall, fun _ => rfl⟩
  · next hall =>
    refine ⟨fun hf => ?_, fun hf => absurd hf hall⟩
    rw [isFinished, hdraft] at hf
    cases hf

/-- What the finish time of a deployment says about its records. -/
structure InPhase (d : Deployment) (l : List DeviceRecord) : Prop where
  /-- An unfinished deployment has work left and was not stopped. -/
  unfinished : d.isFinished = false → (∃ r ∈ l, r.status.isActive = true) ∧
    ∀ r ∈ l, r.status ≠ .aborted ∧ r.status ≠ .decommissioned
  /-- A finished deployment is at rest or has lost a device. -/
  finished : d.isFinished = true → (∀ r ∈ l, r.status.isTerminal = true) ∨
    ∃ r ∈ l, r.status = .decommissioned
  /-- An aborted deployment is finished and at rest, and has lost no device. -/
  aborted : (∃ r ∈ l, r.status = .aborted) → d.isFinished = true ∧
    (∀ r ∈ l, r.status.isTerminal = true) ∧ ∀ r ∈ l, r.status ≠ .decommissioned

namespace InPhase

variable {d d' : Deployment} {l l' : List DeviceRecord} {now : Instant}

/-- Only the finish mark and the statuses count. -/
theorem congr (h : d.InPhase l) (hfinished : d'.isFinished = d.isFinished)
    (hstatuses : (statuses l').Perm (statuses l)) : d'.InPhase l' := by
  -- All three parts speak of records by their statuses only.
  have hall (P : DeviceStatus → Prop) : (∀ r ∈ l', P r.status) ↔ ∀ r ∈ l, P r.status := by
    rw [← List.forall_mem_map (f := fun r : DeviceRecord => r.status),
      ← List.forall_mem_map (f := fun r : DeviceRecord => r.status)]
    constructor
    · intro hP s hs
      exact hP s (hstatuses.mem_iff.2 hs)
    · intro hP s hs
      exact hP s (hstatuses.mem_iff.1 hs)
  have hex (P : DeviceStatus → Prop) : (∃ r ∈ l', P r.status) ↔ ∃ r ∈ l, P r.status := by
    have hnot := not_congr (hall fun s => ¬ P s)
    simpa using hnot
  refine ⟨fun hf => ?_, fun hf => ?_, fun ha => ?_⟩
  · obtain ⟨hwork, hnone⟩ := h.unfinished (hfinished ▸ hf)
    exact ⟨(hex (·.isActive = true)).2 hwork,
      (hall fun s => s ≠ .aborted ∧ s ≠ .decommissioned).2 hnone⟩
  · exact (h.finished (hfinished ▸ hf)).imp (hall (·.isTerminal = true)).2
      (hex (· = .decommissioned)).2
  · obtain ⟨hf, hrest, hnone⟩ := h.aborted ((hex (· = .aborted)).1 ha)
    exact ⟨hfinished.trans hf, (hall (·.isTerminal = true)).2 hrest,
      (hall (· ≠ .decommissioned)).2 hnone⟩

/-- A record may change as long as its status stays. -/
theorem exchange (h : d.InPhase l) {r r' : DeviceRecord} {others : List DeviceRecord}
    (before : l.Perm (r :: others)) (after : l'.Perm (r' :: others))
    (hstatus : r'.status = r.status) : d.InPhase l' := by
  refine h.congr rfl ((statuses_perm after).trans (List.Perm.trans ?_ (statuses_perm before).symm))
  rw [statuses, statuses, List.map_cons, List.map_cons, hstatus]

/-- A finished deployment with a device at work has lost another one. -/
theorem lost_of_active (h : d.InPhase l) (hf : d.isFinished = true) {r : DeviceRecord}
    (hr : r ∈ l) (active : r.status.isActive = true) :
    ∃ s ∈ l, s.status = .decommissioned := by
  rcases h.finished hf with hrest | hlost
  · have hterminal := hrest r hr
    rw [DeviceStatus.isTerminal_eq, active] at hterminal
    cases hterminal
  · exact hlost

/-- Nothing was aborted as long as a device is at work. -/
theorem not_aborted_of_active (h : d.InPhase l) {r s : DeviceRecord} (hr : r ∈ l)
    (active : r.status.isActive = true) (hs : s ∈ l) : s.status ≠ .aborted := by
  intro haborted
  have hterminal := (h.aborted ⟨s, hs, haborted⟩).2.1 r hr
  rw [DeviceStatus.isTerminal_eq, active] at hterminal
  cases hterminal

/-- A device that moves on finishes the deployment if it is the last one. -/
theorem moved (h : d.InPhase l) {r r' : DeviceRecord} {others : List DeviceRecord}
    (before : l.Perm (r :: others)) (after : l'.Perm (r' :: others))
    (active : r.status.isActive = true) (reportable : r'.status.isReportable = true)
    (hfinished : d'.isFinished = true ↔
      d.isFinished = true ∨ ∀ s ∈ l', s.status.isTerminal = true) : d'.InPhase l' := by
  have hr : r ∈ l := before.mem_iff.2 List.mem_cons_self
  -- No device can report either of the two stops.
  have hnew : r'.status ≠ .aborted ∧ r'.status ≠ .decommissioned := by
    refine ⟨fun he => ?_, fun he => ?_⟩ <;> rw [he] at reportable <;> cases reportable
  have hothers {s : DeviceRecord} (hs : s ∈ others) : s ∈ l :=
    before.mem_iff.2 (List.mem_cons_of_mem _ hs)
  -- The old record was active, so it is none of the stopped ones.
  have hstay {s : DeviceRecord} (hs : s ∈ l) (hterminal : s.status.isActive = false) :
      s ∈ l' := by
    rcases List.mem_cons.1 (before.mem_iff.1 hs) with rfl | hs
    · rw [active] at hterminal
      cases hterminal
    · exact after.mem_iff.2 (List.mem_cons_of_mem _ hs)
  refine ⟨fun hf => ?_, fun hf => ?_, fun ⟨s, hs, haborted⟩ => ?_⟩
  · have hopen := mt hfinished.2 (Bool.eq_false_iff.1 hf)
    rw [not_or] at hopen
    obtain ⟨-, hnone⟩ := h.unfinished (Bool.eq_false_iff.2 hopen.1)
    refine ⟨?_, fun s hs => ?_⟩
    · obtain ⟨s, hs, hactive⟩ : ∃ s ∈ l', ¬ s.status.isTerminal = true := by
        simpa using hopen.2
      exact ⟨s, hs, by simpa [DeviceStatus.isTerminal] using hactive⟩
    · rcases List.mem_cons.1 (after.mem_iff.1 hs) with rfl | hs
      · exact hnew
      · exact hnone s (hothers hs)
  · rcases hfinished.1 hf with hf | hrest
    · obtain ⟨s, hs, hlost⟩ := h.lost_of_active hf hr active
      exact .inr ⟨s, hstay hs (by rw [hlost]; rfl), hlost⟩
    · exact .inl hrest
  · rcases List.mem_cons.1 (after.mem_iff.1 hs) with rfl | hs
    · exact absurd haborted hnew.1
    · exact absurd haborted (h.not_aborted_of_active hr active (hothers hs))

/-- An abort brings all devices to rest. -/
theorem abort (h : d.InPhase l) (unfinished : d.isFinished = false)
    (after : l' = l.map (·.stopIf true .aborted now)) (hfinished : d'.isFinished = true) :
    d'.InPhase l' := by
  have hrest : ∀ r ∈ l', r.status.isTerminal = true := by
    rw [after]
    intro r hr
    obtain ⟨s, -, rfl⟩ := List.mem_map.1 hr
    exact DeviceRecord.isTerminal_stopIf_true rfl
  refine ⟨fun hf => ?_, fun _ => .inl hrest, fun _ => ⟨hfinished, hrest, ?_⟩⟩
  · rw [hfinished] at hf
    cases hf
  · rw [after]
    intro r hr hlost
    obtain ⟨s, hs, rfl⟩ := List.mem_map.1 hr
    rcases s.status_stopIf_eq_or true .aborted now with he | he
    · rw [he] at hlost
      cases hlost
    · exact ((h.unfinished unfinished).2 s hs).2 (he ▸ hlost)

/-- A device that is taken out of service marks the deployment for good. -/
theorem decommission (h : d.InPhase l) {device : DeviceId} {r : DeviceRecord} (member : r ∈ l)
    (own : r.deviceId = device) (active : r.status.isActive = true)
    (after : l' = l.map fun r => r.stopIf (r.deviceId = device) .decommissioned now)
    (hfinished : d'.isFinished = true) : d'.InPhase l' := by
  refine ⟨fun hf => ?_, fun _ => .inr ?_, fun ⟨s, hs, haborted⟩ => ?_⟩
  · rw [hfinished] at hf
    cases hf
  · rw [after]
    refine ⟨_, List.mem_map_of_mem member, ?_⟩
    rw [DeviceRecord.status_stopIf, decide_eq_true own, active]
    rfl
  · rw [after] at hs
    obtain ⟨s, hsl, rfl⟩ := List.mem_map.1 hs
    rcases s.status_stopIf_eq_or (s.deviceId = device) .decommissioned now with he | he
    · rw [he] at haborted
      cases haborted
    · -- The aborted record was aborted before, so no device had work to do.
      exact absurd (he ▸ haborted) (h.not_aborted_of_active member active hsl)

/-- Every step keeps the phase: what it does to the records, the finish time and the counters
follow. -/
theorem progress (h : d.InPhase l) (hcounts : d.Counts l)
    (step : d.Progress now l d' l') : d'.InPhase l' := by
  have hcounts' := hcounts.progress step
  cases step with
  | rest same => exact h.congr rfl (statuses_perm same)
  | moved before after active reportable changed =>
    refine h.moved before after active reportable ?_
    rw [isFinished_closeAt, Bool.or_eq_true, ← hcounts'.allDevicesTerminal_iff,
      isFinished_withStats]
    rw [closeAt] at hcounts' ⊢
    split <;> exact Iff.rfl
  | aborted unfinished after => exact h.abort unfinished after (isFinished_finishAt _ _)
  | decommissioned member own active after =>
    exact h.decommission member own active after (isFinished_finishAt _ _)
  | assigned before after active => exact h.exchange before after rfl
  | logged before after => exact h.exchange before after rfl

/-- Every start has the phase of its records. -/
theorem opened (h : Opened now d l) : d.InPhase l := by
  -- At its start a deployment knows two statuses only, and neither comes from a stop.
  have hclean : ∀ r ∈ l, r.status ≠ .aborted ∧ r.status ≠ .decommissioned := by
    intro r hr
    rcases h.waiting r hr with ⟨hs, -⟩ | ⟨hs, -⟩ <;> rw [hs] <;> decide
  have hfinished := h.isFinished_iff
  refine ⟨fun hf => ⟨?_, hclean⟩, fun hf => .inl (hfinished.1 hf),
    fun ⟨r, hr, haborted⟩ => absurd haborted (hclean r hr).1⟩
  have hopen := mt hfinished.2 (Bool.eq_false_iff.1 hf)
  obtain ⟨r, hr, hactive⟩ : ∃ r ∈ l, ¬ r.status.isTerminal = true := by simpa using hopen
  exact ⟨r, hr, by simpa [DeviceStatus.isTerminal] using hactive⟩

end InPhase

/-- The status of a deployment as a whole, read off its records. -/
theorem Counts.status_iff {d : Deployment} {l : List DeviceRecord} (h : d.Counts l) :
    (d.status = .pending ↔ d.isFinished = false ∧ ∀ r ∈ l, r.status = .pending) ∧
    (d.status = .inProgress ↔ d.isFinished = false ∧ ∃ r ∈ l, r.status ≠ .pending) := by
  have hstarted : d.stats.hasStarted = true ↔ ∃ r ∈ l, r.status ≠ .pending := by
    rw [h.stats, Stats.hasStarted_tally (by rw [length_statuses]; exact h.bounded)]
    simp [statuses]
  cases hf : d.isFinished with
  | true =>
    rw [status, if_pos hf]
    simp
  | false =>
    rw [status, if_neg (by rw [hf]; exact Bool.false_ne_true)]
    -- What the counters say of a start is what the records say.
    by_cases hs : d.stats.hasStarted = true
    · obtain ⟨r, hr, hne⟩ := hstarted.1 hs
      rw [if_pos hs]
      exact ⟨⟨fun he => (by cases he), fun hall => absurd (hall.2 r hr) hne⟩,
        ⟨fun _ => ⟨rfl, r, hr, hne⟩, fun _ => rfl⟩⟩
    · have hnone := mt hstarted.2 hs
      rw [if_neg hs]
      refine ⟨⟨fun _ => ⟨rfl, fun r hr => ?_⟩, fun _ => rfl⟩,
        ⟨fun he => (by cases he), fun hex => absurd hex.2 hnone⟩⟩
      by_contra hne
      exact hnone ⟨r, hr, hne⟩

end Deployment

end Fleet
