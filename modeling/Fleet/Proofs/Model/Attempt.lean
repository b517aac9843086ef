import Fleet.Proofs.Model.Device
import Fleet.Proofs.Model.Lasting

/-!
# `Fleet.Proofs.Model.Attempt`: what an operation leaves when the data store may fail

A call of the data store that fails changes nothing, but an operation makes several calls, and
what the calls before the failure wrote stays. `ModelM.Ends` follows an operation from one part
of a tenant to another with nothing known about the plan of faults: there is one rule for each
question, and the rule for a question to the data store asks for the case of a failure as well.

* `ReportLeaves` lists what an attempt at a report of a device on the move leaves: nothing, the
  record alone, record and counters without the finish time that may be due, or everything.
* `StopLeaves` lists what an attempt at taking a device out of service leaves: nothing, all
  records at rest with only the first of the affected deployments counted anew, or everything.

Where a report has nothing to move or a device nothing to stop an attempt changes nothing,
whether it fails or not (`report_idle`, `decommission_idle`).
-/

set_option autoImplicit false

namespace Fleet

namespace ModelM

/-- From a world with the part `p` of the tenant, whatever faults are planned, a computation
comes to a result `x` and a part `p'` with `Q x p'`, and the other parts stay. -/
def Ends {ω α : Type} (scene : Scene) (p : Partition) (m : ModelM MemoryStore ω α)
    (Q : Except ModelError α → Partition → Prop) : Prop :=
  ∀ w : World MemoryStore ω, w.part scene.ctx.partition = p → ∃ p',
    (m scene w).2.store = w.store.withPartition scene.ctx.partition p' ∧ Q (m scene w).1 p'

namespace Ends

variable {ω α β : Type} {scene : Scene} {p : Partition}
  {P : Except ModelError α → Partition → Prop} {Q : Except ModelError β → Partition → Prop}

/-! ### Rules -/

/-- An answer ends where the part is. -/
theorem pure {a : α} (h : P (.ok a) p) :
    Ends scene p (pure a : ModelM MemoryStore ω α) P := by
  intro w hw
  refine ⟨p, ?_, h⟩
  simp [← hw, World.part, pure_run]

/-- An error ends where the part is. -/
theorem throw {e : ModelError} (h : P (.error e) p) :
    Ends scene p (throw e : ModelM MemoryStore ω α) P := by
  intro w hw
  refine ⟨p, ?_, h⟩
  simp [← hw, World.part, throw_run]

/-- Computations in a row end where the second one does, or where the first one does if it fails. -/
theorem bind {m : ModelM MemoryStore ω α} {f : α → ModelM MemoryStore ω β}
    (first : Ends scene p m P) (failed : ∀ e p', P (.error e) p' → Q (.error e) p')
    (rest : ∀ a p', P (.ok a) p' → Ends scene p' (f a) Q) : Ends scene p (m >>= f) Q := by
  intro w hw
  obtain ⟨p₁, hstore₁, hP⟩ := first w hw
  cases hm : m scene w with
  | mk x w₁ =>
    rw [hm] at hstore₁ hP
    dsimp only at hstore₁ hP
    cases x with
    | error e =>
      rw [bind_error hm]
      exact ⟨p₁, hstore₁, failed e p₁ hP⟩
    | ok a =>
      have hpart : w₁.part scene.ctx.partition = p₁ := by simp [World.part, hstore₁]
      obtain ⟨p₂, hstore₂, hQ⟩ := rest a p₁ hP w₁ hpart
      rw [bind_ok hm]
      refine ⟨p₂, ?_, hQ⟩
      simp [hstore₂, hstore₁]

/-- What a computation comes to may be said with less detail. -/
theorem mono {m : ModelM MemoryStore ω α} (h : Ends scene p m P)
    {P' : Except ModelError α → Partition → Prop} (hP : ∀ x p', P x p' → P' x p') :
    Ends scene p m P' := by
  intro w hw
  obtain ⟨p', hstore, hx⟩ := h w hw
  exact ⟨p', hstore, hP _ _ hx⟩

/-- A decision ends where the branch that is taken does. -/
theorem ite {c : Prop} [Decidable c] {m m' : ModelM MemoryStore ω α}
    (h : c → Ends scene p m P) (h' : ¬c → Ends scene p m' P) :
    Ends scene p (if c then m else m') P := by
  by_cases hc : c
  · simpa only [if_pos hc] using h hc
  · simpa only [if_neg hc] using h' hc

/-- Nothing comes after an error. -/
theorem refuse {e : ModelError} {f : α → ModelM MemoryStore ω β} (h : Q (.error e) p) :
    Ends scene p (MonadExcept.throw e >>= f) Q := by
  intro w hw
  rw [bind_error (throw_run e)]
  exact ⟨p, by simp [← hw, World.part], h⟩

/-- A computation that goes on unless it is stopped by an error. -/
theorem stopIf {c : Prop} [Decidable c] {e : ModelError} {f : Unit → ModelM MemoryStore ω β}
    (h : c → Q (.error e) p) (h' : ¬c → Ends scene p (f ()) Q) :
    Ends scene p (if c then MonadExcept.throw e >>= f else f ()) Q :=
  .ite (fun hc => refuse (h hc)) h'

/-- A computation that begins by looking at its scene ends where it does with that scene. -/
theorem of_read {f : Scene → ModelM MemoryStore ω β} (h : Ends scene p (f scene) Q) :
    Ends scene p (read >>= f) Q :=
  h

/-- A call of the data store fails, or the part answers it. -/
theorem askStore {activity : String} {c : StoreCall}
    {Q : Except ModelError c.Answer → Partition → Prop} (failed : ∀ e, Q (.error e) p)
    (answered : ∀ a p', p.run c = .ok (a, p') → Q (.ok a) p') :
    Ends (ω := ω) scene p (askStore activity c) Q := by
  intro w hw
  cases hcall : w.callStore scene.ctx.partition c with
  | mk x w₁ =>
    have houtcome := w.callStore_outcome scene.ctx.partition c
    rw [hcall] at houtcome
    rw [ModelM.askStore, bind_ok (tryStore_run hcall)]
    cases houtcome with
    | refused same =>
      refine ⟨p, ?_, failed _⟩
      simp [throw_run, same, ← hw, World.part]
    | answered run stored =>
      rw [hw] at run
      exact ⟨_, stored, answered _ _ run⟩

/-- A call of the data store with more to come. -/
theorem ask {activity : String} {c : StoreCall} {f : c.Answer → ModelM MemoryStore ω β}
    (failed : ∀ e, Q (.error e) p)
    (answered : ∀ a p', p.run c = .ok (a, p') → Ends scene p' (f a) Q) :
    Ends scene p (ModelM.askStore activity c >>= f) Q :=
  .bind (P := fun x p' => match x with
      | .error _ => p' = p
      | .ok a => p.run c = .ok (a, p'))
    (askStore (fun _ => rfl) fun _ _ run => run)
    (fun e p' same => by
      dsimp only at same
      rw [same]
      exact failed e)
    answered

/-- An event changes no part. -/
theorem emit {event : AuditKind} {id : DeploymentId} {details : AuditEvent → AuditEvent} :
    Ends (ω := ω) scene p (emit event id details) fun x p' => x = .ok () ∧ p' = p := by
  intro w hw
  refine ⟨p, ?_, rfl, rfl⟩
  simp [ModelM.emit, ← hw, World.part]

/-- A check that is broken ends the computation with the part as it is. -/
theorem accept {r : Except ValidationError Unit} {f : Unit → ModelM MemoryStore ω β}
    (refused : ∀ e, r = .error e → Q (.error (.validation e)) p)
    (accepted : r = .ok () → Ends scene p (f ()) Q) : Ends scene p (accept r >>= f) Q := by
  cases r with
  | error e => exact refuse (refused e rfl)
  | ok u => exact accepted rfl

end Ends

/-! ### Reports -/

section

variable {ω : Type} {scene : Scene} {p : Partition} {id : DeploymentId} {device : DeviceId}
  {d : Deployment} {r : DeviceRecord}

/-- The end of a report changes nothing, or it closes the deployment. -/
theorem finishIfDone_ends (hd : p.deployments.get? id = some d) :
    Ends (ω := ω) scene p (finishIfDone id) fun x p' =>
      ((∃ e, x = .error e) ∧ p' = p) ∨
      (x = .ok () ∧ p' = p.withDeployment id (d.closeAt scene.now)) := by
  refine .ask (fun e => .inl ⟨⟨_, rfl⟩, rfl⟩) fun found p' run => ?_
  cases run
  rw [hd]
  dsimp only
  rw [Deployment.closeAt]
  refine .ite (fun hdone => ?_) fun hopen => ?_
  · rw [if_pos hdone]
    refine .of_read (.ask (fun e => .inl ⟨⟨_, rfl⟩, rfl⟩) fun u p' run => ?_)
    rw [Partition.run_finishDeployment _ hd] at run
    cases run
    exact Ends.emit.mono fun x p' hx => .inr hx
  · rw [if_neg hopen, Partition.withDeployment_self hd]
    exact .pure (.inr ⟨rfl, rfl⟩)

end

end ModelM

/-- A report has a record to move: the device is active and says something new. -/
structure Partition.Moves (p : Partition) (id : DeploymentId) (device : DeviceId)
    (s : StatusReport) (r : DeviceRecord) : Prop where
  valid : s.validate = .ok ()
  record : p.records.get? (id, device) = some r
  active : r.status.isActive = true
  reportable : s.status.isReportable = true
  changed : r.status ≠ s.status

/-- The part after the first write of a report. -/
def Partition.withMoved (p : Partition) (r : DeviceRecord) (s : StatusReport) (now : Time.Instant) :
    Partition :=
  p.withRecord r.key (r.movedTo s.status s.substate now)

/-- The part after the second write of a report. -/
def Partition.withMovedCount (p : Partition) (d : Deployment) (r : DeviceRecord)
    (s : StatusReport) (now : Time.Instant) : Partition :=
  (p.withMoved r s now).withDeployment d.id (d.withStats ((p.withMoved r s now).tallyOf d.id))

/-- What an attempt leaves at the report of a device that has a record to move. -/
inductive ReportLeaves (scene : Scene) (p : Partition) (s : StatusReport) (r : DeviceRecord)
    (d : Deployment) : Except ModelError Unit → Partition → Prop where
  | nothing {e : ModelError} : ReportLeaves scene p s r d (.error e) p
  | recorded {e : ModelError} :
      ReportLeaves scene p s r d (.error e) (p.withMoved r s scene.now)
  | counted {e : ModelError} :
      ReportLeaves scene p s r d (.error e) (p.withMovedCount d r s scene.now)
  | everything : ReportLeaves scene p s r d (.ok ())
      (p.afterReport d r s.status s.substate scene.now)

namespace ModelM

variable {ω : Type} {scene : Scene} {p : Partition} {id : DeploymentId} {device : DeviceId}
  {d : Deployment} {r : DeviceRecord} {s : StatusReport}

/-- An attempt to move a record leaves nothing, the record alone, record and counters without the
finish time that is due, or everything. -/
theorem moveRecord_ends (h : p.Consistent) (hr : p.records.get? (id, device) = some r)
    (hd : p.deployments.get? id = some d) :
    Ends (ω := ω) scene p (moveRecord id device s) (ReportLeaves scene p s r d) := by
  have hkey : r.key = (id, device) := h.keyed.record hr
  have hid : d.id = id := h.keyed.deployment hd
  refine .of_read (.ask (fun e => .nothing) fun old p₁ run => ?_)
  rw [Partition.run_updateStatus _ _ _ hr] at run
  obtain ⟨rfl, rfl⟩ := Prod.mk.inj (Except.ok.inj run)
  have hfirst : p.withRecord (id, device) (r.withStatus s.status s.substate
      (if s.status.isTerminal then some scene.now else none)) = p.withMoved r s scene.now := by
    rw [Partition.withMoved, hkey]
    rfl
  rw [hfirst]
  refine .ask (fun e => .recorded) fun u p₂ run => ?_
  -- The record has moved and the counters have not: here an attempt can stop half-way.
  have hmoved := h.transition_moved hr hd s.status s.substate scene.now
  rw [← hkey, ← Partition.withMoved] at hmoved
  rw [Partition.run_moveDevice (p := p.withMoved r s scene.now) hd hmoved, ← hid] at run
  obtain ⟨-, rfl⟩ := Prod.mk.inj (Except.ok.inj run)
  have hcounted : (p.withMovedCount d r s scene.now).deployments.get? id
      = some (d.withStats ((p.withMoved r s scene.now).tallyOf d.id)) := by
    rw [Partition.withMovedCount, Partition.get?_withDeployment, if_pos hid]
  refine .bind Ends.emit (fun e p' hx => nomatch hx.1) fun u p' hx => ?_
  rw [hx.2]
  refine (finishIfDone_ends hcounted).mono fun x p' hend => ?_
  rcases hend with ⟨⟨e, rfl⟩, rfl⟩ | ⟨rfl, rfl⟩
  · exact .counted
  · -- The two writes to the deployment come to one.
    rw [Partition.withMovedCount, hid, Partition.withDeployment_withDeployment, ← hid]
    exact .everything

/-- A report without a record to move changes nothing. -/
theorem report_idle (h : ∀ r, ¬p.Moves id device s r) :
    Ends (ω := ω) scene p (report id device s) fun _ p' => p' = p := by
  refine .accept (fun e _ => rfl) fun hvalid => .ask (fun e => rfl) fun found p' run => ?_
  cases run
  cases hr : p.records.get? (id, device) with
  | none => exact .throw rfl
  | some r =>
    refine .stopIf (fun _ => rfl) fun _ => .stopIf (fun _ => rfl) fun hreportable =>
      .stopIf (fun _ => rfl) fun _ => .ite (fun _ => .pure rfl) fun hchanged =>
      .stopIf (fun _ => rfl) fun hactive => ?_
    -- A report that comes so far has a record to move.
    rw [DeviceStatus.isTerminal_eq] at hactive
    exact absurd ⟨hvalid, hr, by simpa using hactive, by simpa using hreportable, hchanged⟩ (h r)

/-- A report with a record to move starts to write. -/
theorem report_ends (h : p.Consistent) (hmoves : p.Moves id device s r)
    (hd : p.deployments.get? id = some d) :
    Ends (ω := ω) scene p (report id device s) (ReportLeaves scene p s r d) := by
  refine .accept (fun e _ => .nothing) fun _ => .ask (fun e => .nothing) fun found p' run => ?_
  cases run
  rw [hmoves.record]
  refine .stopIf (fun _ => .nothing) fun _ => .stopIf (fun _ => .nothing) fun _ =>
    .stopIf (fun _ => .nothing) fun _ => .ite (fun hsame => absurd hsame hmoves.changed) fun _ =>
    .stopIf (fun _ => .nothing) fun _ => moveRecord_ends h hmoves.record hd

end ModelM

/-! ### Taking a device out of service -/

/-- What an attempt leaves when a device with work to do is taken out of service. -/
inductive StopLeaves (scene : Scene) (p : Partition) (device : DeviceId) :
    Except ModelError Unit → Partition → Prop where
  | nothing {e : ModelError} : StopLeaves scene p device (.error e) p
  /-- The records are at rest, but only some of the deployments were counted anew. -/
  | counted {e : ModelError} {before after : List DeploymentId}
      (split : p.affected device = before ++ after) (missed : after ≠ []) :
      StopLeaves scene p device (.error e) (before.foldl (fun p id => p.recounted id scene.now)
        (p.stopRecords (·.deviceId = device) .decommissioned scene.now))
  | everything : StopLeaves scene p device (.ok ()) (p.afterDecommission device scene.now)

namespace ModelM

variable {ω : Type} {scene : Scene} {p : Partition} {id : DeploymentId} {device : DeviceId}

/-- To finish a deployment changes nothing, or it counts the deployment anew. -/
theorem finishRecounted_ends (hbounded : (p.recordsOf id).length < 2 ^ 64) :
    Ends (ω := ω) scene p (finishRecounted id) fun x p' =>
      ((∃ e, x = .error e) ∧ p' = p) ∨ (x = .ok () ∧ p' = p.recounted id scene.now) := by
  refine .ask (fun e => .inl ⟨⟨_, rfl⟩, rfl⟩) fun stats p' run => ?_
  rw [Partition.run_countByStatus hbounded] at run
  obtain ⟨rfl, rfl⟩ := Prod.mk.inj (Except.ok.inj run)
  refine .of_read (.askStore (fun e => .inl ⟨⟨_, rfl⟩, rfl⟩) fun u p' run => .inr ⟨rfl, ?_⟩)
  obtain ⟨d, hd, rfl⟩ := Partition.of_run_finishWithStats run
  rw [Partition.recounted, hd]
  rfl

/-- The deployments are finished one after the other, up to the first failure. -/
theorem finishWithout_ends (ids : List DeploymentId)
    (hbounded : ∀ id, (p.recordsOf id).length < 2 ^ 64) :
    Ends (ω := ω) scene p (finishWithout device ids) fun x p' =>
      ((∃ e, x = .error e) ∧ ∃ before after, ids = before ++ after ∧ after ≠ [] ∧
        p' = before.foldl (fun p id => p.recounted id scene.now) p) ∨
      (x = .ok () ∧ p' = ids.foldl (fun p id => p.recounted id scene.now) p) := by
  induction ids generalizing p with
  | nil => exact .pure (.inr ⟨rfl, rfl⟩)
  | cons id rest ih =>
    refine .bind (finishRecounted_ends (hbounded id)) (fun e p' hend => ?_) fun u p₁ hend => ?_
    · rcases hend with ⟨-, rfl⟩ | ⟨hok, -⟩
      · exact .inl ⟨⟨_, rfl⟩, [], id :: rest, rfl, List.cons_ne_nil _ _, rfl⟩
      · cases hok
    · rcases hend with ⟨⟨e, he⟩, -⟩ | ⟨-, rfl⟩
      · cases he
      refine .bind Ends.emit (fun e p' hx => nomatch hx.1) fun u p' hx => ?_
      rw [hx.2]
      -- Counting anew leaves all records, so the rest is counted as it would be alone.
      have hbounded' (id' : DeploymentId) :
          ((p.recounted id scene.now).recordsOf id').length < 2 ^ 64 := by
        rw [Partition.recordsOf, Partition.records_recounted]
        exact hbounded id'
      refine (ih hbounded').mono fun x p' hend => ?_
      rcases hend with ⟨hx, before, after, rfl, hmissed, rfl⟩ | ⟨hx, rfl⟩
      · exact .inl ⟨hx, id :: before, after, rfl, hmissed, rfl⟩
      · exact .inr ⟨hx, rfl⟩

/-- To take a device out of service starts to write where the device has work to do. -/
theorem decommission_ends (h : p.Consistent) (device : DeviceId) :
    Ends (ω := ω) scene p (decommission device) (StopLeaves scene p device) := by
  refine .of_read (.ask (fun e => .nothing) fun affected p₁ run => ?_)
  obtain ⟨rfl, rfl⟩ := Prod.mk.inj (Except.ok.inj run)
  have hbounded (id : DeploymentId) : ((p.stopRecords (·.deviceId = device) .decommissioned
      scene.now).recordsOf id).length < 2 ^ 64 := by
    rw [Partition.recordsOf_stopRecords, List.length_map]
    exact h.bounded id
  refine (finishWithout_ends _ hbounded).mono fun x p' hend => ?_
  rcases hend with ⟨⟨e, rfl⟩, before, after, hsplit, hmissed, rfl⟩ | ⟨rfl, rfl⟩
  · exact .counted hsplit hmissed
  · exact .everything

end ModelM

/-- A stop that finds no active record leaves the part. -/
theorem Partition.stopRecords_eq_self {p : Partition} {device : DeviceId} (s : DeviceStatus)
    (now : Time.Instant) (h : p.affected device = []) :
    p.stopRecords (·.deviceId = device) s now = p := by
  -- Where no deployment is affected the device has no active record.
  have hrest : ∀ k r, p.records.get? k = some r → r.deviceId = device →
      r.status.isActive = false := by
    intro k r hr hdevice
    by_contra hactive
    have hmem : r ∈ p.activeOf device := by
      refine List.mem_filter.2 ⟨Table.mem_values_iff.2 ⟨k, hr⟩, ?_⟩
      simpa [hdevice] using hactive
    have hname : r.deploymentId ∈ p.affected device :=
      mem_sortedNames.2 (List.mem_map_of_mem hmem)
    rw [h] at hname
    cases hname
  have htable : (p.stopRecords (·.deviceId = device) s now).records = p.records := by
    refine Table.ext_get? fun k => ?_
    rw [get?_stopRecords]
    cases hr : p.records.get? k with
    | none => rfl
    | some r =>
      rw [Option.map_some]
      by_cases hdevice : r.deviceId = device
      · rw [DeviceRecord.stopIf_of_terminal _ (hrest k r hr hdevice)]
      · rw [decide_eq_false hdevice]
        rfl
  calc p.stopRecords (·.deviceId = device) s now
      = { p with records := (p.stopRecords (·.deviceId = device) s now).records } := rfl
    _ = p := by rw [htable]

namespace ModelM

/-- Where a device has nothing to stop, taking it out of service changes nothing. -/
theorem decommission_idle {ω : Type} {scene : Scene} {p : Partition} {device : DeviceId}
    (h : p.affected device = []) :
    Ends (ω := ω) scene p (decommission device) fun _ p' => p' = p := by
  refine .of_read (.ask (fun e => rfl) fun affected p' run => ?_)
  obtain ⟨rfl, rfl⟩ := Prod.mk.inj (Except.ok.inj run)
  rw [Partition.stopRecords_eq_self _ _ h]
  show Ends scene p (finishWithout device (p.affected device)) _
  rw [h]
  exact .pure rfl

end ModelM

end Fleet
