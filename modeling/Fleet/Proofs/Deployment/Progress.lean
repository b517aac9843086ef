import Fleet.Model.Create
import Fleet.Proofs.Stats.Tally

/-!
# `Fleet.Proofs.Deployment.Progress`: how a deployment and its records go on

A deployment is looked at together with the list of its records. `Deployment.Progress` lists
all that one operation can make of the two: a device moves on, an operator aborts, a device is
taken out of service, a record is given an artifact or a log. `Deployment.Opened` says how they
start.

`Deployment.Counts` is the invariant that ties the counters of a deployment to its records.
Every start has it (`Counts.opened`) and every step keeps it (`Counts.progress`), whichever of
the two ways the counters are kept: a device that moves on takes its count along, and the two
kinds of stop count the records anew. Under it the deployment knows from its counters whether
all of its devices are at rest (`allDevicesTerminal_iff`).
-/

set_option autoImplicit false

namespace Fleet

open Fleet.Time

/-! ### Records -/

/-- The statuses of some records. -/
def statuses (l : List DeviceRecord) : List DeviceStatus := l.map (·.status)

/-- There is one status for each record. -/
@[simp] theorem length_statuses (l : List DeviceRecord) : (statuses l).length = l.length :=
  List.length_map _

/-- Records in another order have their statuses in another order. -/
theorem statuses_perm {l l' : List DeviceRecord} (h : l.Perm l') :
    (statuses l).Perm (statuses l') :=
  h.map _

namespace DeviceRecord

/-- The record of a device that moves on to a status. -/
def movedTo (r : DeviceRecord) (status : DeviceStatus) (substate : Option String)
    (now : Instant) : DeviceRecord :=
  r.withStatus status substate (if status.isTerminal then some now else none)

/-- The record at rest with a status, if a stop is meant for it and it is active. -/
def stopIf (r : DeviceRecord) (meant : Bool) (s : DeviceStatus) (now : Instant) :
    DeviceRecord :=
  if meant && r.status.isActive then r.stopAt s now else r

variable (r : DeviceRecord) (meant : Bool) (s : DeviceStatus) (now : Instant)

/-- A stop that is meant for a record shows if the record is active. -/
theorem status_stopIf :
    (r.stopIf meant s now).status = if meant && r.status.isActive then s else r.status := by
  rw [stopIf]
  split <;> rfl

/-- A stop does not change whose record it is. -/
theorem key_stopIf : (r.stopIf meant s now).key = r.key := by
  rw [stopIf]
  split <;> rfl

variable {r} {s} {now}

/-- A record at rest is not stopped again, so it keeps its status and finish time. -/
theorem stopIf_of_terminal (meant : Bool) (terminal : r.status.isActive = false) :
    r.stopIf meant s now = r := by
  rw [stopIf, terminal, Bool.and_false]
  rfl

/-- A record that was put to rest stays as it is. -/
theorem stopIf_stopIf (r : DeviceRecord) (meant : Bool) (hs : s.isActive = false)
    (now now' : Instant) : (r.stopIf meant s now).stopIf meant s now' = r.stopIf meant s now := by
  cases hstop : meant && r.status.isActive with
  | true =>
    refine stopIf_of_terminal _ ?_
    rw [status_stopIf, hstop]
    exact hs
  | false =>
    have hsame (now : Instant) : r.stopIf meant s now = r := by
      rw [stopIf, hstop]
      rfl
    rw [hsame, hsame]

end DeviceRecord

namespace Deployment

/-- The deployment with a finish time if all of its devices are at rest. -/
def closeAt (d : Deployment) (now : Instant) : Deployment :=
  if !d.isFinished && d.allDevicesTerminal then d.finishAt now else d

section

variable (d : Deployment) (now : Instant) (st : Stats)

/-- Closing a deployment keeps its counters. -/
@[simp] theorem stats_closeAt : (d.closeAt now).stats = d.stats := by
  rw [closeAt]
  split <;> rfl

/-- Closing a deployment keeps its name. -/
@[simp] theorem id_closeAt : (d.closeAt now).id = d.id := by
  rw [closeAt]
  split <;> rfl

/-- Closing a deployment keeps the number of its devices. -/
@[simp] theorem deviceCount_closeAt : (d.closeAt now).deviceCount = d.deviceCount := by
  rw [closeAt]
  split <;> rfl

/-- Closing a deployment keeps the number of devices that it waits for. -/
@[simp] theorem maxDevices_closeAt : (d.closeAt now).maxDevices = d.maxDevices := by
  rw [closeAt]
  split <;> rfl

/-- Closing a deployment keeps its plan. -/
@[simp] theorem plan_closeAt : (d.closeAt now).plan = d.plan := by
  rw [closeAt]
  split <;> rfl

/-- Closing a deployment keeps its artifacts. -/
@[simp] theorem artifacts_closeAt : (d.closeAt now).artifacts = d.artifacts := by
  rw [closeAt]
  split <;> rfl

/-- Whether all devices are at rest is not touched by closing, which looks at the counters alone. -/
@[simp] theorem allDevicesTerminal_closeAt :
    (d.closeAt now).allDevicesTerminal = d.allDevicesTerminal := by
  rw [allDevicesTerminal, stats_closeAt, maxDevices_closeAt, allDevicesTerminal]

/-- A deployment with a finish time is finished, whichever it is. -/
@[simp] theorem isFinished_finishAt : (d.finishAt now).isFinished = true := rfl

/-- New counters do not finish a deployment by themselves. -/
@[simp] theorem isFinished_withStats : (d.withStats st).isFinished = d.isFinished := rfl

/-- A deployment is finished after it is closed if it was before or if all of its devices are at
rest. -/
theorem isFinished_closeAt :
    (d.closeAt now).isFinished = (d.isFinished || d.allDevicesTerminal) := by
  rw [closeAt]
  cases h : d.isFinished <;> cases h' : d.allDevicesTerminal <;> simp [h]

end

/-! ### One step -/

/-- What one operation at a time can make of a deployment and its records. -/
inductive Progress (now : Instant) (d : Deployment) (l : List DeviceRecord) :
    Deployment → List DeviceRecord → Prop where
  /-- The operation is about something else. -/
  | rest {l' : List DeviceRecord} (same : l'.Perm l) : Progress now d l d l'
  /-- A device moves on and takes its count along. -/
  | moved {r : DeviceRecord} {others l' : List DeviceRecord} {status : DeviceStatus}
      {substate : Option String} (before : l.Perm (r :: others))
      (after : l'.Perm (r.movedTo status substate now :: others))
      (active : r.status.isActive = true) (reportable : status.isReportable = true)
      (changed : r.status ≠ status) :
      Progress now d l ((d.withStats (.tally (statuses l'))).closeAt now) l'
  /-- The deployment is aborted. -/
  | aborted {l' : List DeviceRecord} (unfinished : d.isFinished = false)
      (after : l' = l.map (·.stopIf true .aborted now)) :
      Progress now d l ((d.withStats (.tally (statuses l'))).finishAt now) l'
  /-- A device with work to do is taken out of service. -/
  | decommissioned {device : DeviceId} {r : DeviceRecord} {l' : List DeviceRecord}
      (member : r ∈ l) (own : r.deviceId = device) (active : r.status.isActive = true)
      (after : l' = l.map fun r => r.stopIf (r.deviceId = device) .decommissioned now) :
      Progress now d l ((d.withStats (.tally (statuses l'))).finishAt now) l'
  /-- An active record is given an artifact. -/
  | assigned {r : DeviceRecord} {others l' : List DeviceRecord} {deviceType : String}
      {a : Artifact} (before : l.Perm (r :: others))
      (after : l'.Perm (r.withArtifact deviceType a :: others))
      (active : r.status.isActive = true) : Progress now d l d l'
  /-- A record is marked for its log. -/
  | logged {r : DeviceRecord} {others l' : List DeviceRecord} (before : l.Perm (r :: others))
      (after : l'.Perm (r.withLogMark true :: others)) : Progress now d l d l'

/-- The plan of a deployment and the artifacts that it froze at its creation never change. -/
theorem Progress.frozen {now : Instant} {d d' : Deployment} {l l' : List DeviceRecord}
    (step : d.Progress now l d' l') : d'.plan = d.plan ∧ d'.artifacts = d.artifacts := by
  cases step with
  | moved before after active reportable changed => exact ⟨plan_closeAt _ _, artifacts_closeAt _ _⟩
  | _ => exact ⟨rfl, rfl⟩

/-- A deployment and its records at the time of creation: every device waits for its artifact
or is at rest because there is none. -/
structure Opened (now : Instant) (d : Deployment) (l : List DeviceRecord) : Prop where
  /-- There is a draft whose counters and size are those of the records. -/
  counted : ∃ draft : Deployment, draft.created = now ∧ draft.finished = none ∧
    d = draft.withRecords (.tally (statuses l)) l
  /-- There is a device. -/
  inhabited : l ≠ []
  /-- The counters can hold them. -/
  bounded : l.length < 2 ^ 64
  /-- Each device waits or is at rest without an artifact. -/
  waiting : ∀ r ∈ l, (r.status = .pending ∧ r.finished = none) ∨
    (r.status = .noArtifact ∧ r.finished = some now)

/-- The order of the records does not matter. -/
theorem Opened.perm {now : Instant} {d : Deployment} {l l' : List DeviceRecord}
    (h : Opened now d l) (hl : l.Perm l') : Opened now d l' where
  counted := by
    obtain ⟨draft, hcreated, hfinished, hd⟩ := h.counted
    refine ⟨draft, hcreated, hfinished, hd.trans ?_⟩
    rw [withRecords, withRecords, Stats.tally_congr (statuses_perm hl), hl.length_eq]
  inhabited he := h.inhabited (by rw [he] at hl; exact hl.eq_nil)
  bounded := by rw [← hl.length_eq]; exact h.bounded
  waiting r hr := h.waiting r (hl.mem_iff.2 hr)

/-! ### The counters -/

/-- The counters and the sizes of a deployment are those of its records. -/
structure Counts (d : Deployment) (l : List DeviceRecord) : Prop where
  /-- Each counter is the number of records with its status. -/
  stats : d.stats = .tally (statuses l)
  /-- The number of devices is the number of records. -/
  deviceCount : d.deviceCount = l.length
  /-- The number of devices that must come to rest is the number of records. -/
  maxDevices : d.maxDevices = l.length
  /-- There is a record. -/
  inhabited : 0 < l.length
  /-- No counter can overflow. -/
  bounded : l.length < 2 ^ 64

namespace Counts

variable {d d' : Deployment} {l l' : List DeviceRecord} {now : Instant}

/-- Counters that are counted anew stay right if no record comes or goes. -/
theorem recount (h : d.Counts l) (hstats : d'.stats = .tally (statuses l'))
    (hlength : l'.length = l.length) (hdevices : d'.deviceCount = d.deviceCount)
    (hmax : d'.maxDevices = d.maxDevices) : d'.Counts l' where
  stats := hstats
  deviceCount := by rw [hdevices, h.deviceCount, hlength]
  maxDevices := by rw [hmax, h.maxDevices, hlength]
  inhabited := by rw [hlength]; exact h.inhabited
  bounded := by rw [hlength]; exact h.bounded

/-- A record may change as long as its status stays. -/
theorem exchange (h : d.Counts l) {r r' : DeviceRecord} {others : List DeviceRecord}
    (before : l.Perm (r :: others)) (after : l'.Perm (r' :: others))
    (hstatus : r'.status = r.status) : d.Counts l' := by
  have hstatuses : (statuses l).Perm (statuses l') := by
    refine (statuses_perm before).trans (List.Perm.trans ?_ (statuses_perm after).symm)
    rw [statuses, statuses, List.map_cons, List.map_cons, hstatus]
  have hlength : l'.length = l.length := by
    rw [after.length_eq, before.length_eq, List.length_cons, List.length_cons]
  exact h.recount (by rw [h.stats, Stats.tally_congr hstatuses]) hlength rfl rfl

/-- Every step keeps the counters those of the records. A device that moves takes its count along,
and a stop counts all records anew. -/
theorem progress (h : d.Counts l) (step : d.Progress now l d' l') : d'.Counts l' := by
  cases step with
  | rest same =>
    exact h.recount (by rw [h.stats, Stats.tally_congr (statuses_perm same)]) same.length_eq
      rfl rfl
  | moved before after active reportable changed =>
    have hlength : l'.length = l.length := by
      rw [after.length_eq, before.length_eq, List.length_cons, List.length_cons]
    exact h.recount (stats_closeAt _ _) hlength (deviceCount_closeAt _ _) (maxDevices_closeAt _ _)
  | aborted unfinished after =>
    exact h.recount rfl (by rw [after, List.length_map]) rfl rfl
  | decommissioned member own active after =>
    exact h.recount rfl (by rw [after, List.length_map]) rfl rfl
  | assigned before after active => exact h.exchange before after rfl
  | logged before after => exact h.exchange before after rfl

/-- Every start has the counters of its records. -/
theorem opened (h : Opened now d l) : d.Counts l := by
  obtain ⟨draft, -, -, hd⟩ := h.counted
  have hinhabited : 0 < l.length := List.length_pos_iff.2 h.inhabited
  rw [hd, withRecords]
  dsimp only
  split <;> exact ⟨rfl, rfl, rfl, hinhabited, h.bounded⟩

/-- The number of devices counted is the number of records. -/
theorem total (h : d.Counts l) : d.stats.total.toNat = l.length := by
  rw [h.stats, Stats.toNat_total_tally (by rw [length_statuses]; exact h.bounded), length_statuses]

/-- The stored counters are the ones that a fresh count finds. -/
theorem ofStatuses (h : d.Counts l) : Stats.ofStatuses (statuses l) = .ok d.stats := by
  rw [h.stats, Stats.ofStatuses_eq_tally (by rw [length_statuses]; exact h.bounded)]

/-- Enough devices are at rest when all are. -/
theorem allDevicesTerminal_iff (h : d.Counts l) :
    d.allDevicesTerminal = true ↔ ∀ r ∈ l, r.status.isTerminal = true := by
  have hbounded : (statuses l).length < 2 ^ 64 := by
    rw [length_statuses]
    exact h.bounded
  rw [allDevicesTerminal, decide_eq_true_eq, h.stats, h.maxDevices,
    Stats.toNat_terminalCount_tally hbounded, ← length_statuses]
  -- There are never more devices at rest than devices, so enough of them are all of them.
  have hle : (statuses l).countP (·.isTerminal) ≤ (statuses l).length := List.countP_le_length
  constructor
  · intro hge r hr
    exact List.countP_eq_length.1 (Nat.le_antisymm hle hge) _ (List.mem_map_of_mem hr)
  · intro hall
    refine Nat.le_of_eq (List.countP_eq_length.2 fun s hs => ?_).symm
    obtain ⟨r, hr, rfl⟩ := List.mem_map.1 hs
    exact hall r hr

/-- A device that changes its status finds both counters able to change. -/
theorem transition (h : d.Counts l) {r : DeviceRecord} {others : List DeviceRecord}
    (before : l.Perm (r :: others)) (status : DeviceStatus) :
    d.stats.transition r.status status = .ok (.tally (status :: statuses others)) := by
  rw [h.stats]
  exact Stats.transition_tally status (statuses_perm before)
    (by rw [length_statuses]; exact h.bounded)

end Counts

end Deployment

end Fleet
