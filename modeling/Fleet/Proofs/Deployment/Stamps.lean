import Fleet.Proofs.Deployment.Phase

/-!
# `Fleet.Proofs.Deployment.Stamps`: which record a deployment has its finish time from

Finish times are written at different moments: at creation, by the device that moves on, by an
abort and when a device is taken out of service. `Deployment.Stamped` says how they hang
together as long as the clock does not run backwards. A record has a finish time exactly if it
is at rest. A finished deployment has that of its last device to come to rest, unless it lost a
device: then it has the finish time of the first device that it lost, however long the other
devices go on.

A deployment that lost a device was finished by that, or it would have had to be finished before
by all of its devices being at rest. That is where the invariant leans on `Deployment.InPhase`.

Every start is stamped (`Stamped.opened`) and every step keeps it so (`Stamped.progress`).
-/

set_option autoImplicit false

namespace Fleet

open Fleet.Time

/-! ### First and last -/

/-- A time is the latest finish time among some records. -/
def IsLatest (x : Instant) (l : List DeviceRecord) : Prop :=
  (∃ r ∈ l, r.finished = some x) ∧ ∀ r ∈ l, ∀ y, r.finished = some y → y.nanos ≤ x.nanos

/-- A time is the earliest finish time among some records. -/
def IsEarliest (x : Instant) (l : List DeviceRecord) : Prop :=
  (∃ r ∈ l, r.finished = some x) ∧ ∀ r ∈ l, ∀ y, r.finished = some y → x.nanos ≤ y.nanos

/-- The records of devices that were taken out of service. -/
def lost (l : List DeviceRecord) : List DeviceRecord := l.filter (·.status = .decommissioned)

/-- A record is among the lost ones if it is there and its device was taken out of service. -/
theorem mem_lost {l : List DeviceRecord} {r : DeviceRecord} :
    r ∈ lost l ↔ r ∈ l ∧ r.status = .decommissioned := by
  rw [lost, List.mem_filter, decide_eq_true_eq]

/-- The exchange of one record for another leaves the lost devices alone if neither is of one. -/
theorem lost_exchange {l l' others : List DeviceRecord} {r r' : DeviceRecord}
    (before : l.Perm (r :: others)) (after : l'.Perm (r' :: others))
    (hr : r.status ≠ .decommissioned) (hr' : r'.status ≠ .decommissioned) :
    (lost l').Perm (lost l) := by
  have hafter := after.filter (·.status = .decommissioned)
  have hbefore := before.filter (·.status = .decommissioned)
  rw [List.filter_cons_of_neg (by simpa using hr')] at hafter
  rw [List.filter_cons_of_neg (by simpa using hr)] at hbefore
  exact hafter.trans hbefore.symm

/-- Every record of the first list is shown in the second with its status and finish time. -/
def Shows (l l' : List DeviceRecord) : Prop :=
  ∀ r ∈ l, ∃ r' ∈ l', r'.status = r.status ∧ r'.finished = r.finished

namespace Shows

variable {l l' : List DeviceRecord} {x : Instant}

/-- Records in another order are all shown. -/
theorem of_perm (h : l.Perm l') : Shows l l' :=
  fun r hr => ⟨r, h.mem_iff.1 hr, rfl, rfl⟩

/-- If all records are shown, so are the lost ones. -/
theorem lost (h : Shows l l') : Shows (lost l) (lost l') := by
  intro r hr
  obtain ⟨hmem, hlost⟩ := mem_lost.1 hr
  obtain ⟨r', hr', hstatus, hfinished⟩ := h r hmem
  exact ⟨r', mem_lost.2 ⟨hr', hstatus.trans hlost⟩, hstatus, hfinished⟩

/-- One record may change as long as its status and its finish time stay. -/
theorem exchange {r r' : DeviceRecord} {others : List DeviceRecord}
    (before : l.Perm (r :: others)) (after : l'.Perm (r' :: others))
    (hstatus : r'.status = r.status) (hfinished : r'.finished = r.finished) : Shows l l' := by
  intro s hs
  rcases List.mem_cons.1 (before.mem_iff.1 hs) with rfl | hs
  · exact ⟨r', after.mem_iff.2 List.mem_cons_self, hstatus, hfinished⟩
  · exact ⟨s, after.mem_iff.2 (List.mem_cons_of_mem _ hs), rfl, rfl⟩

/-- The latest finish time is the same for records that show each other. -/
theorem isLatest (h : Shows l l') (h' : Shows l' l) (hx : IsLatest x l) : IsLatest x l' := by
  obtain ⟨⟨r, hr, hrx⟩, hall⟩ := hx
  refine ⟨?_, fun s hs y hy => ?_⟩
  · obtain ⟨r', hr', -, hfinished⟩ := h r hr
    exact ⟨r', hr', hfinished.trans hrx⟩
  · obtain ⟨s', hs', -, hfinished⟩ := h' s hs
    exact hall s' hs' y (hfinished.trans hy)

/-- The earliest finish time is the same for records that show each other. -/
theorem isEarliest (h : Shows l l') (h' : Shows l' l) (hx : IsEarliest x l) :
    IsEarliest x l' := by
  obtain ⟨⟨r, hr, hrx⟩, hall⟩ := hx
  refine ⟨?_, fun s hs y hy => ?_⟩
  · obtain ⟨r', hr', -, hfinished⟩ := h r hr
    exact ⟨r', hr', hfinished.trans hrx⟩
  · obtain ⟨s', hs', -, hfinished⟩ := h' s hs
    exact hall s' hs' y (hfinished.trans hy)

end Shows

/-! ### Finish times of one step -/

namespace DeviceRecord

variable {r : DeviceRecord} {s : DeviceStatus} {now : Instant}

/-- A device that moves on gets a finish time exactly if it comes to rest. -/
theorem finished_movedTo (r : DeviceRecord) (s : DeviceStatus) (substate : Option String)
    (now : Instant) :
    (r.movedTo s substate now).finished = if s.isTerminal then some now else none :=
  rfl

/-- A stop leaves the record as it is, or it puts an active one to rest at the time of the
stop. -/
theorem stopIf_eq_or (r : DeviceRecord) (meant : Bool) (s : DeviceStatus) (now : Instant) :
    r.stopIf meant s now = r ∨ r.stopIf meant s now = r.stopAt s now := by
  rw [stopIf]
  split
  · exact .inr rfl
  · exact .inl rfl

/-- A stop that is meant for an active record stops it. -/
theorem stopIf_of_active (active : r.status.isActive = true) :
    r.stopIf true s now = r.stopAt s now := by
  rw [stopIf, active]
  rfl

end DeviceRecord

namespace Deployment

/-- A finished deployment keeps its finish time when it is closed again. -/
theorem finished_closeAt_of_isFinished {d : Deployment} {now : Instant}
    (h : d.isFinished = true) : (d.closeAt now).finished = d.finished := by
  rw [closeAt, h]
  rfl

/-- An unfinished deployment has the finish time of the step that finishes it. -/
theorem finished_finishAt_of_open {d : Deployment} (now : Instant) (h : d.isFinished = false) :
    (d.finishAt now).finished = some now := by
  rw [isFinished] at h
  show some (d.finished.getD now) = some now
  rw [Option.not_isSome_iff_eq_none.1 (Bool.eq_false_iff.1 h), Option.getD_none]

/-- A deployment that is finished by being closed has the time of that. -/
theorem finished_closeAt_of_open {d : Deployment} {now : Instant} (h : d.isFinished = false)
    (h' : (d.closeAt now).isFinished = true) : (d.closeAt now).finished = some now := by
  rw [isFinished_closeAt, h, Bool.false_or] at h'
  rw [closeAt, h, h']
  exact finished_finishAt_of_open now h

/-- How the finish times of a deployment and its records hang together at a time. -/
structure Stamped (clock : Instant) (d : Deployment) (l : List DeviceRecord) : Prop where
  /-- A record has a finish time exactly if it is at rest. -/
  rest : ∀ r ∈ l, r.finished.isSome = r.status.isTerminal
  /-- No finish time lies ahead. -/
  past : ∀ r ∈ l, ∀ x, r.finished = some x → x.nanos ≤ clock.nanos
  /-- A finished deployment that lost no device has the latest finish time of its records. -/
  latest : d.isFinished = true → lost l = [] → ∃ x, d.finished = some x ∧ IsLatest x l
  /-- A deployment that lost a device has the finish time of the first one. -/
  earliest : lost l ≠ [] → ∃ x, d.finished = some x ∧ IsEarliest x (lost l)

namespace Stamped

variable {clock now : Instant} {d d' : Deployment} {l l' : List DeviceRecord}

/-- What was stamped up to one time is stamped up to any later one. -/
theorem mono (h : d.Stamped clock l) (hclock : clock.nanos ≤ now.nanos) : d.Stamped now l where
  rest := h.rest
  past r hr x hx := Int.le_trans (h.past r hr x hx) hclock
  latest := h.latest
  earliest := h.earliest

/-- Only the finish times and the statuses count. -/
theorem congr (h : d.Stamped clock l) (hl : Shows l l') (hl' : Shows l' l) :
    d.Stamped clock l' where
  rest r hr := by
    obtain ⟨s, hs, hstatus, hfinished⟩ := hl' r hr
    rw [← hstatus, ← hfinished]
    exact h.rest s hs
  past r hr x hx := by
    obtain ⟨s, hs, -, hfinished⟩ := hl' r hr
    exact h.past s hs x (hfinished.trans hx)
  latest hf hnone := by
    have hnone' : lost l = [] := by
      refine List.eq_nil_iff_forall_not_mem.2 fun r hr => ?_
      obtain ⟨s, hs, -⟩ := hl.lost r hr
      rw [hnone] at hs
      cases hs
    obtain ⟨x, hx, hlatest⟩ := h.latest hf hnone'
    exact ⟨x, hx, hl.isLatest hl' hlatest⟩
  earliest hsome := by
    obtain ⟨r, hr⟩ := List.exists_mem_of_ne_nil _ hsome
    obtain ⟨s, hs, -⟩ := hl'.lost r hr
    obtain ⟨x, hx, hearliest⟩ := h.earliest (List.ne_nil_of_mem hs)
    exact ⟨x, hx, hl.lost.isEarliest hl'.lost hearliest⟩

/-- A record that is moved is stamped if that brings it to rest. -/
theorem rest_moved {r : DeviceRecord} {others : List DeviceRecord} {status : DeviceStatus}
    {substate : Option String} (h : ∀ s ∈ others, s.finished.isSome = s.status.isTerminal)
    (after : l'.Perm (r.movedTo status substate now :: others)) :
    ∀ s ∈ l', s.finished.isSome = s.status.isTerminal := by
  intro s hs
  rcases List.mem_cons.1 (after.mem_iff.1 hs) with rfl | hs
  · rw [DeviceRecord.finished_movedTo, show (r.movedTo status substate now).status = status
      from rfl]
    cases status.isTerminal <;> rfl
  · exact h s hs

/-- After one record has moved on, no finish time lies ahead of the clock. -/
theorem past_moved {r : DeviceRecord} {others : List DeviceRecord} {status : DeviceStatus}
    {substate : Option String}
    (h : ∀ s ∈ others, ∀ x, s.finished = some x → x.nanos ≤ now.nanos)
    (after : l'.Perm (r.movedTo status substate now :: others)) :
    ∀ s ∈ l', ∀ x, s.finished = some x → x.nanos ≤ now.nanos := by
  intro s hs x hx
  rcases List.mem_cons.1 (after.mem_iff.1 hs) with rfl | hs
  · rw [DeviceRecord.finished_movedTo] at hx
    split at hx
    · cases hx
      exact Int.le_refl _
    · cases hx
  · exact h s hs x hx

/-- A device that moves on leaves the devices that were lost alone. It finishes the deployment
only if it is the last one to come to rest. -/
theorem moved (h : d.Stamped now l) (hphase : d.InPhase l) {r : DeviceRecord}
    {others : List DeviceRecord} {status : DeviceStatus} {substate : Option String}
    (before : l.Perm (r :: others))
    (after : l'.Perm (r.movedTo status substate now :: others))
    (active : r.status.isActive = true) (reportable : status.isReportable = true)
    (hkept : d.isFinished = true → d'.finished = d.finished)
    (hclosed : d.isFinished = false → d'.isFinished = true →
      d'.finished = some now ∧ ∀ s ∈ l', s.status.isTerminal = true) : d'.Stamped now l' := by
  have hr : r ∈ l := before.mem_iff.2 List.mem_cons_self
  have hothers {s : DeviceRecord} (hs : s ∈ others) : s ∈ l :=
    before.mem_iff.2 (List.mem_cons_of_mem _ hs)
  have hlost : (lost l').Perm (lost l) := by
    refine lost_exchange before after (fun he => ?_) fun he => ?_
    · rw [he] at active
      cases active
    · rw [show status = .decommissioned from he] at reportable
      cases reportable
  have hpast : ∀ s ∈ l', ∀ x, s.finished = some x → x.nanos ≤ now.nanos :=
    past_moved (fun s hs => h.past s (hothers hs)) after
  refine ⟨rest_moved (fun s hs => h.rest s (hothers hs)) after, hpast, fun hf hnone => ?_,
    fun hsome => ?_⟩
  · cases hd : d.isFinished with
    | true =>
      -- A device was still at work, so the deployment had lost one.
      obtain ⟨s, hs, hgone⟩ := hphase.lost_of_active hd hr active
      have hmem := hlost.mem_iff.2 (mem_lost.2 ⟨hs, hgone⟩)
      rw [hnone] at hmem
      cases hmem
    | false =>
      obtain ⟨hnow, hrest⟩ := hclosed hd hf
      have hmem : r.movedTo status substate now ∈ l' := after.mem_iff.2 List.mem_cons_self
      have hterminal : status.isTerminal = true := hrest _ hmem
      refine ⟨now, hnow, ⟨_, hmem, ?_⟩, hpast⟩
      rw [DeviceRecord.finished_movedTo, if_pos hterminal]
  · have hsome' : lost l ≠ [] := by
      intro hnone
      rw [hnone] at hlost
      exact hsome hlost.eq_nil
    obtain ⟨x, hx, hearliest⟩ := h.earliest hsome'
    have hd : d.isFinished = true := by rw [isFinished, hx]; rfl
    exact ⟨x, (hkept hd).trans hx, (Shows.of_perm hlost.symm).isEarliest (.of_perm hlost) hearliest⟩

/-- What a stop leaves is stamped, as far as the records go. -/
theorem rest_stopIf {meant : DeviceRecord → Bool} {s : DeviceStatus} (hs : s.isTerminal = true)
    (h : ∀ r ∈ l, r.finished.isSome = r.status.isTerminal) :
    ∀ r ∈ l.map fun r => r.stopIf (meant r) s now, r.finished.isSome = r.status.isTerminal := by
  intro r' hr'
  obtain ⟨r, hr, rfl⟩ := List.mem_map.1 hr'
  rcases r.stopIf_eq_or (meant r) s now with he | he
  · rw [he]
    exact h r hr
  · rw [he]
    exact hs.symm

/-- After records were stopped, no finish time lies ahead of the clock. -/
theorem past_stopIf {meant : DeviceRecord → Bool} {s : DeviceStatus}
    (h : ∀ r ∈ l, ∀ x, r.finished = some x → x.nanos ≤ now.nanos) :
    ∀ r ∈ l.map fun r => r.stopIf (meant r) s now, ∀ x, r.finished = some x →
      x.nanos ≤ now.nanos := by
  intro r' hr' x hx
  obtain ⟨r, hr, rfl⟩ := List.mem_map.1 hr'
  rcases r.stopIf_eq_or (meant r) s now with he | he
  · rw [he] at hx
    exact h r hr x hx
  · rw [he] at hx
    cases hx
    exact Int.le_refl _

/-- An abort finishes the deployment together with a device that had work to do. -/
theorem abort (h : d.Stamped now l) (hphase : d.InPhase l) (unfinished : d.isFinished = false)
    (after : l' = l.map (·.stopIf true .aborted now)) (hd' : d'.finished = some now) :
    d'.Stamped now l' := by
  obtain ⟨⟨r, hr, active⟩, hclean⟩ := hphase.unfinished unfinished
  subst after
  have hpast : ∀ s ∈ l.map (·.stopIf true .aborted now), ∀ x, s.finished = some x →
      x.nanos ≤ now.nanos := past_stopIf h.past
  refine ⟨rest_stopIf rfl h.rest, hpast, fun _ _ => ⟨now, hd', ⟨_, List.mem_map_of_mem hr, ?_⟩,
    hpast⟩, fun hsome => ?_⟩
  · rw [DeviceRecord.stopIf_of_active active]
    rfl
  · -- Neither was a device lost before, nor does an abort lose one.
    obtain ⟨s', hs'⟩ := List.exists_mem_of_ne_nil _ hsome
    obtain ⟨hmem, hgone⟩ := mem_lost.1 hs'
    obtain ⟨s, hs, rfl⟩ := List.mem_map.1 hmem
    rcases s.status_stopIf_eq_or true .aborted now with he | he
    · rw [he] at hgone
      cases hgone
    · exact absurd (he ▸ hgone) (hclean s hs).2

/-- A device that is taken out of service is the first one lost, or one was lost before. -/
theorem decommission (h : d.Stamped now l) (hphase : d.InPhase l) {device : DeviceId}
    {r : DeviceRecord} (member : r ∈ l) (own : r.deviceId = device)
    (active : r.status.isActive = true)
    (after : l' = l.map fun r => r.stopIf (r.deviceId = device) .decommissioned now)
    (hkept : d.isFinished = true → d'.finished = d.finished)
    (hclosed : d.isFinished = false → d'.finished = some now) : d'.Stamped now l' := by
  subst after
  have hr : r.stopAt .decommissioned now
      ∈ lost (l.map fun r => r.stopIf (r.deviceId = device) .decommissioned now) := by
    refine mem_lost.2 ⟨List.mem_map.2 ⟨r, member, ?_⟩, rfl⟩
    rw [decide_eq_true own]
    exact DeviceRecord.stopIf_of_active active
  refine ⟨rest_stopIf rfl h.rest, past_stopIf h.past, fun _ hnone => ?_, fun _ => ?_⟩
  · rw [hnone] at hr
    cases hr
  cases hd : d.isFinished with
  | false =>
    refine ⟨now, hclosed hd, ⟨_, hr, rfl⟩, fun s' hs' y hy => ?_⟩
    obtain ⟨hmem, hgone⟩ := mem_lost.1 hs'
    obtain ⟨s, hs, rfl⟩ := List.mem_map.1 hmem
    rcases s.stopIf_eq_or (s.deviceId = device) .decommissioned now with he | he
    · rw [he] at hgone
      exact absurd hgone ((hphase.unfinished hd).2 s hs).2
    · rw [he] at hy
      cases hy
      exact Int.le_refl _
  | true =>
    -- A device was still at work, so another one had been lost.
    obtain ⟨s, hs, hgone⟩ := hphase.lost_of_active hd member active
    obtain ⟨x, hx, ⟨q, hq, hqx⟩, hfirst⟩ :=
      h.earliest (List.ne_nil_of_mem (mem_lost.2 ⟨hs, hgone⟩))
    obtain ⟨hqmem, hqgone⟩ := mem_lost.1 hq
    have hkeep : q.stopIf (q.deviceId = device) .decommissioned now = q :=
      DeviceRecord.stopIf_of_terminal _ (by rw [hqgone]; rfl)
    refine ⟨x, (hkept hd).trans hx, ⟨q, mem_lost.2 ⟨List.mem_map.2 ⟨q, hqmem, hkeep⟩, hqgone⟩,
      hqx⟩, fun s' hs' y hy => ?_⟩
    obtain ⟨hmem, hgone⟩ := mem_lost.1 hs'
    obtain ⟨s, hs, rfl⟩ := List.mem_map.1 hmem
    -- A device that is lost now is lost no earlier than those before.
    rcases s.stopIf_eq_or (s.deviceId = device) .decommissioned now with he | he
    · rw [he] at hgone hy
      exact hfirst s (mem_lost.2 ⟨hs, hgone⟩) y hy
    · rw [he] at hy
      cases hy
      exact h.past q hqmem x hqx

/-- Every step keeps a deployment stamped, as long as the clock does not run backwards. The cases
are those of the steps, and where one ends a deployment its time is the latest there is. -/
theorem progress (h : d.Stamped clock l) (hphase : d.InPhase l) (hcounts : d.Counts l)
    (hclock : clock.nanos ≤ now.nanos) (step : d.Progress now l d' l') : d'.Stamped now l' := by
  have hcounts' := hcounts.progress step
  have h := h.mono hclock
  cases step with
  | rest same => exact h.congr (.of_perm same.symm) (.of_perm same)
  | moved before after active reportable changed =>
    refine h.moved hphase before after active reportable
      (fun hd => finished_closeAt_of_isFinished hd) fun hd hd' =>
        ⟨finished_closeAt_of_open hd hd', hcounts'.allDevicesTerminal_iff.1 ?_⟩
    rw [isFinished_closeAt, isFinished_withStats, hd, Bool.false_or] at hd'
    rw [allDevicesTerminal_closeAt]
    exact hd'
  | aborted unfinished after =>
    exact h.abort hphase unfinished after
      (finished_finishAt_of_open (d := d.withStats _) _ unfinished)
  | decommissioned member own active after =>
    refine h.decommission hphase member own active after (fun hd => ?_) fun hd =>
      finished_finishAt_of_open (d := d.withStats _) _ hd
    -- A deployment that is finished keeps its time.
    obtain ⟨x, hx⟩ := Option.isSome_iff_exists.1 hd
    show some (d.finished.getD now) = d.finished
    rw [hx, Option.getD_some]
  | assigned before after active =>
    exact h.congr (.exchange before after rfl rfl) (.exchange after before rfl rfl)
  | logged before after =>
    exact h.congr (.exchange before after rfl rfl) (.exchange after before rfl rfl)

/-- Every start is stamped with the time of its creation. -/
theorem opened (h : Opened now d l) : d.Stamped now l := by
  have hpast : ∀ r ∈ l, ∀ x, r.finished = some x → x = now := by
    intro r hr x hx
    rcases h.waiting r hr with ⟨-, hfinished⟩ | ⟨-, hfinished⟩
    · rw [hfinished] at hx
      cases hx
    · rw [hfinished] at hx
      exact (Option.some.inj hx).symm
  -- No record of a new deployment is lost: each is pending or has no artifact.
  have hnone : lost l = [] := by
    refine List.eq_nil_iff_forall_not_mem.2 fun r hr => ?_
    obtain ⟨hmem, hgone⟩ := mem_lost.1 hr
    rcases h.waiting r hmem with ⟨hs, -⟩ | ⟨hs, -⟩ <;> rw [hs] at hgone <;> cases hgone
  refine ⟨fun r hr => ?_, fun r hr x hx => ?_, fun hf _ => ?_, fun hsome => absurd hnone hsome⟩
  · rcases h.waiting r hr with ⟨hs, hfinished⟩ | ⟨hs, hfinished⟩ <;> rw [hs, hfinished] <;> rfl
  · exact Int.le_of_eq (congrArg Instant.nanos (hpast r hr x hx))
  · have hd : d.finished = some now := by
      obtain ⟨draft, hcreated, hdraft, hd⟩ := h.counted
      rw [hd, withRecords] at hf ⊢
      dsimp only at hf ⊢
      split at hf
      · next hall => rw [if_pos hall, hcreated]
      · rw [isFinished, hdraft] at hf
        cases hf
    obtain ⟨r, hr⟩ := List.exists_mem_of_ne_nil _ h.inhabited
    have hrest : r.finished = some now := by
      rcases h.waiting r hr with ⟨hs, -⟩ | ⟨-, hfinished⟩
      · have hterminal := h.isFinished_iff.1 hf r hr
        rw [hs] at hterminal
        cases hterminal
      · exact hfinished
    exact ⟨now, hd, ⟨r, hr, hrest⟩, fun s hs y hy =>
      Int.le_of_eq (congrArg Instant.nanos (hpast s hs y hy))⟩

end Stamped

end Deployment

end Fleet
