import Fleet.Model.Device
import Fleet.Proofs.Deployment.Phase
import Fleet.Proofs.Model.Execution

/-!
# `Fleet.Proofs.Model.Verdict`: what the checks of a report decide

The checks of a report look at its own shape and at the record that is found for the deployment
and the device. A report is refused by the first rule that it breaks (`StatusReport.Refused`),
or it keeps them all (`StatusReport.Accepted`), never both. An accepted report is news if its
status is not the one that the record has.

Each verdict comes with the run that follows from it: `report_refused` and `report_repeated`
leave the world as it is, `report_news` goes on to the writes.
-/

set_option autoImplicit false

namespace Fleet

namespace DeviceStatus

/-- A device may report any status but those that an operator brings about. -/
theorem isReportable_iff {s : DeviceStatus} :
    s.isReportable = true ↔ s ≠ .aborted ∧ s ≠ .decommissioned := by
  cases s <;> simp [isReportable]

/-- A device with work to do has a status that it could report. -/
theorem isReportable_of_isActive {s : DeviceStatus} (h : s.isActive = true) :
    s.isReportable = true := by
  cases s <;> first | rfl | cases h

end DeviceStatus

namespace StatusReport

/-- The remark is absent or has no more than 200 characters. -/
def Fits (s : StatusReport) : Prop := ∀ remark ∈ s.substate, remark.length ≤ 200

/-- A report whose remark is short enough passes its own check. -/
theorem validate_of_fits {s : StatusReport} (h : s.Fits) : s.validate = .ok () := by
  obtain ⟨status, substate⟩ := s
  cases substate with
  | none => rfl
  | some remark =>
    have hlength : remark.length ≤ maxSubstateLength := h remark rfl
    simp [validate, optionalLength, requireLength, require, hlength, bind, Except.bind]

/-- A report with too long a remark is refused with the field and its bounds. -/
theorem validate_of_not_fits {s : StatusReport} (h : ¬s.Fits) :
    s.validate = .error (.length "substate" 0 200) := by
  obtain ⟨status, substate⟩ := s
  cases substate with
  | none => exact absurd (fun remark hremark => nomatch hremark) h
  | some remark =>
    have hlength : ¬remark.length ≤ maxSubstateLength := fun hle =>
      h fun other hother => by
        cases hother
        exact hle
    simp [validate, optionalLength, requireLength, require, hlength, bind, Except.bind]
    rfl

/-- A report that passes its own check has a remark that is short enough. -/
theorem fits_of_validate {s : StatusReport} (h : s.validate = .ok ()) : s.Fits := by
  by_contra hlong
  rw [validate_of_not_fits hlong] at h
  cases h

/-- The error that refuses a report on what was found for the pair of deployment and device. The
rules come in this order: one applies only where those before it let the report pass. -/
inductive Refused (s : StatusReport) : Option DeviceRecord → ModelError → Prop where
  | tooLong {found : Option DeviceRecord} (long : ¬s.Fits) :
      Refused s found (.validation (.length "substate" 0 200))
  | unknown (fits : s.Fits) : Refused s none .deploymentNotFound
  | aborted {r : DeviceRecord} (fits : s.Fits) (stopped : r.status = .aborted) :
      Refused s (some r) .deploymentAborted
  | notForDevices {r : DeviceRecord} (fits : s.Fits) (going : r.status ≠ .aborted)
      (barred : s.status.isReportable = false) : Refused s (some r) (.badStatus s.status)
  | decommissioned {r : DeviceRecord} (fits : s.Fits) (reportable : s.status.isReportable = true)
      (gone : r.status = .decommissioned) : Refused s (some r) .deviceDecommissioned
  | settled {r : DeviceRecord} (fits : s.Fits) (reportable : s.status.isReportable = true)
      (own : r.status.isReportable = true) (changed : r.status ≠ s.status)
      (terminal : r.status.isTerminal = true) :
      Refused s (some r) (.invalidTransition r.status s.status)

/-- A report that keeps all rules on the record that was found. -/
structure Accepted (s : StatusReport) (r : DeviceRecord) : Prop where
  fits : s.Fits
  reportable : s.status.isReportable = true
  /-- The record has the status already, or it can still move. -/
  movable : r.status = s.status ∨ r.status.isActive = true

variable {s : StatusReport} {found : Option DeviceRecord} {r : DeviceRecord} {e : ModelError}

/-- No stop has touched a record that takes a report. -/
theorem Accepted.own (h : s.Accepted r) : r.status.isReportable = true := by
  rcases h.movable with hsame | hactive
  · rw [hsame]
    exact h.reportable
  · exact DeviceStatus.isReportable_of_isActive hactive

/-- A refusal is never about a broken store. -/
theorem Refused.isBookkeeping (h : s.Refused found e) : e.isBookkeeping = false := by
  cases h <;> rfl

/-- No report is both refused and accepted. -/
theorem Refused.not_accepted (h : s.Refused (some r) e) : ¬s.Accepted r := by
  intro haccepted
  have hown := DeviceStatus.isReportable_iff.1 haccepted.own
  cases h with
  | tooLong long => exact long haccepted.fits
  | aborted fits stopped => exact hown.1 stopped
  | notForDevices fits going barred =>
    rw [haccepted.reportable] at barred
    cases barred
  | decommissioned fits reportable gone => exact hown.2 gone
  | settled fits reportable own changed terminal =>
    rcases haccepted.movable with hsame | hactive
    · exact changed hsame
    · rw [DeviceStatus.isTerminal_eq, hactive] at terminal
      cases terminal

/-- A report is refused or accepted. -/
theorem refused_or_accepted (s : StatusReport) (found : Option DeviceRecord) :
    (∃ e, s.Refused found e) ∨ ∃ r, found = some r ∧ s.Accepted r := by
  by_cases hfits : s.Fits
  case neg => exact .inl ⟨_, .tooLong hfits⟩
  cases found with
  | none => exact .inl ⟨_, .unknown hfits⟩
  | some r =>
    by_cases hstopped : r.status = .aborted
    · exact .inl ⟨_, .aborted hfits hstopped⟩
    cases hreportable : s.status.isReportable with
    | false => exact .inl ⟨_, .notForDevices hfits hstopped hreportable⟩
    | true =>
      by_cases hgone : r.status = .decommissioned
      · exact .inl ⟨_, .decommissioned hfits hreportable hgone⟩
      by_cases hsame : r.status = s.status
      · exact .inr ⟨r, rfl, hfits, hreportable, .inl hsame⟩
      by_cases hactive : r.status.isActive = true
      · exact .inr ⟨r, rfl, hfits, hreportable, .inr hactive⟩
      · exact .inl ⟨_, .settled hfits hreportable
          (DeviceStatus.isReportable_iff.2 ⟨hstopped, hgone⟩) hsame
          (DeviceStatus.isTerminal_of_isActive_ne hactive)⟩

/-- An accepted report is news if it is one that a device may send and the record is active with
another status. -/
theorem exists_news_iff :
    (∃ r, found = some r ∧ s.Accepted r ∧ r.status ≠ s.status) ↔
      s.Fits ∧ s.status ≠ .aborted ∧ s.status ≠ .decommissioned ∧
        ∃ r, found = some r ∧ r.status.isActive = true ∧ r.status ≠ s.status := by
  constructor
  · rintro ⟨r, hr, haccepted, changed⟩
    obtain ⟨hgoing, hserving⟩ := DeviceStatus.isReportable_iff.1 haccepted.reportable
    exact ⟨haccepted.fits, hgoing, hserving, r, hr, haccepted.movable.resolve_left changed, changed⟩
  · rintro ⟨hfits, hgoing, hserving, r, hr, hactive, changed⟩
    exact ⟨r, hr, ⟨hfits, DeviceStatus.isReportable_iff.2 ⟨hgoing, hserving⟩, .inr hactive⟩,
      changed⟩

/-- An accepted report is a repetition if it is one that a device may send and the record has its
status. -/
theorem exists_repeated_iff :
    (∃ r, found = some r ∧ s.Accepted r ∧ r.status = s.status) ↔
      s.Fits ∧ s.status ≠ .aborted ∧ s.status ≠ .decommissioned ∧
        ∃ r, found = some r ∧ r.status = s.status := by
  constructor
  · rintro ⟨r, hr, haccepted, same⟩
    obtain ⟨hgoing, hserving⟩ := DeviceStatus.isReportable_iff.1 haccepted.reportable
    exact ⟨haccepted.fits, hgoing, hserving, r, hr, same⟩
  · rintro ⟨hfits, hgoing, hserving, r, hr, same⟩
    exact ⟨r, hr, ⟨hfits, DeviceStatus.isReportable_iff.2 ⟨hgoing, hserving⟩, .inl same⟩, same⟩

end StatusReport

namespace ModelM

variable {ω : Type} {scene : Scene} {w : World MemoryStore ω} {id : DeploymentId}
  {device : DeviceId} {s : StatusReport} {found : Option DeviceRecord} {r : DeviceRecord}

/-- A refused report changes nothing. -/
theorem report_refused (hfaults : w.faults.SparesStore)
    (hfound : (w.part scene.ctx.partition).records.get? (id, device) = found) {e : ModelError}
    (h : s.Refused found e) :
    (report id device s : ModelM MemoryStore ω _) scene w = (.error e, w) := by
  by_cases hfits : s.Fits
  case neg =>
    -- A report that is too long is refused before the record is looked for.
    cases h with
    | tooLong long => rw [report, bind_error (accept_error (StatusReport.validate_of_not_fits long))]
    | _ => contradiction
  rw [report, bind_ok (accept_ok (StatusReport.validate_of_fits hfits)),
    bind_ok (askStore_read _ hfaults rfl rfl rfl), hfound]
  cases h with
  | tooLong long => exact absurd hfits long
  | unknown => rfl
  | aborted fits stopped =>
    dsimp only
    rw [if_pos stopped]
    rfl
  | notForDevices fits going barred =>
    dsimp only
    rw [if_neg going, barred, if_pos (by rfl)]
    rfl
  | decommissioned fits reportable gone =>
    dsimp only
    rw [if_neg (by rw [gone]; decide), reportable, if_neg (by decide), if_pos gone]
    rfl
  | settled fits reportable own changed terminal =>
    have hown := DeviceStatus.isReportable_iff.1 own
    dsimp only
    rw [if_neg hown.1, reportable, if_neg (by decide), if_neg hown.2, if_neg changed,
      if_pos terminal]
    rfl

section

variable (hfaults : w.faults.SparesStore)
  (hr : (w.part scene.ctx.partition).records.get? (id, device) = some r) (h : s.Accepted r)
include hfaults hr h

/-- An accepted report that says what the record says already changes nothing. -/
theorem report_repeated (same : r.status = s.status) :
    (report id device s : ModelM MemoryStore ω _) scene w = (.ok (), w) := by
  have hown := DeviceStatus.isReportable_iff.1 h.own
  rw [report, bind_ok (accept_ok (StatusReport.validate_of_fits h.fits)),
    bind_ok (askStore_read _ hfaults rfl rfl rfl), hr]
  dsimp only
  rw [if_neg hown.1, h.reportable, if_neg (by decide), if_neg hown.2, if_pos same]
  rfl

/-- An accepted report that says something else moves the record. -/
theorem report_news (changed : r.status ≠ s.status) :
    (report id device s : ModelM MemoryStore ω _) scene w = moveRecord id device s scene w := by
  have hown := DeviceStatus.isReportable_iff.1 h.own
  have hactive : r.status.isActive = true := h.movable.resolve_left changed
  rw [report, bind_ok (accept_ok (StatusReport.validate_of_fits h.fits)),
    bind_ok (askStore_read _ hfaults rfl rfl rfl), hr]
  dsimp only
  rw [if_neg hown.1, h.reportable, if_neg (by decide), if_neg hown.2, if_neg changed,
    DeviceStatus.isTerminal_eq, hactive, if_neg (by decide)]

end

end ModelM

end Fleet
