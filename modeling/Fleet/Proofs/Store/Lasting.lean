import Fleet.Proofs.Store.Partition

/-!
# `Fleet.Proofs.Store.Lasting`: what is stored stays

`Partition.Lasts` compares the part of a tenant with a later one. Every deployment is still
there, with all that was settled at its creation and with its finish time if it had one. Every
record is still there under its names, and a record that was at rest is the same but for the
mark of its log. The relation is reflexive and transitive, so it passes from single calls to
whole runs.

`run_lasts` says which store calls leave a part that lasts: all but one. Deleting takes a
deployment away. Two more calls, the change of a status and the gift of an artifact, must be
asked of an active record, since the store itself changes whatever it finds
(`StoreCall.Sparing`). Whether the store agrees to a call does not matter here, because a call
that is refused changes nothing. What an answer tells of the part is said by
`updateDeployment_eq_ok_iff` and the lemmas on single calls (`of_run_moveDevice` and its like).
-/

set_option autoImplicit false

namespace Fleet

open Fleet.Time

/-! ### One record, one deployment -/

/-- A record and the same record later. -/
structure DeviceRecord.Lasts (r r' : DeviceRecord) : Prop where
  id : r'.id = r.id
  deploymentId : r'.deploymentId = r.deploymentId
  deviceId : r'.deviceId = r.deviceId
  created : r'.created = r.created
  /-- A record at rest changes the mark of its log only. -/
  settled : r.status.isTerminal = true → r' = r.withLogMark r'.isLogAvailable

namespace DeviceRecord.Lasts

variable {r r' r'' : DeviceRecord}

/-- A record lasts as it is. -/
theorem refl (r : DeviceRecord) : r.Lasts r := ⟨rfl, rfl, rfl, rfl, fun _ => rfl⟩

/-- A record that lasts twice lasts. -/
theorem trans (h : r.Lasts r') (h' : r'.Lasts r'') : r.Lasts r'' where
  id := h'.id.trans h.id
  deploymentId := h'.deploymentId.trans h.deploymentId
  deviceId := h'.deviceId.trans h.deviceId
  created := h'.created.trans h.created
  settled hrest := by
    have hr' := h.settled hrest
    -- The later record is at rest too, because its status is the same.
    have hrest' : r'.status.isTerminal = true := by
      rw [hr']
      exact hrest
    have hr'' := h'.settled hrest'
    rw [hr'] at hr''
    exact hr''

/-- The mark of a log is what a record at rest may change. -/
theorem withLogMark (r : DeviceRecord) (available : Bool) : r.Lasts (r.withLogMark available) :=
  ⟨rfl, rfl, rfl, rfl, fun _ => rfl⟩

/-- An active record has nothing settled but its names and its creation. -/
theorem of_active (active : r.status.isActive = true) (hid : r'.id = r.id)
    (hkey : r'.key = r.key) (hcreated : r'.created = r.created) : r.Lasts r' where
  id := hid
  deploymentId := (Prod.mk.inj hkey).1
  deviceId := (Prod.mk.inj hkey).2
  created := hcreated
  settled hrest := by
    rw [DeviceStatus.isTerminal, active] at hrest
    cases hrest

/-- A stop passes over records at rest. -/
theorem stopIf (r : DeviceRecord) (meant : Bool) (s : DeviceStatus) (now : Instant) :
    r.Lasts (r.stopIf meant s now) := by
  rw [DeviceRecord.stopIf]
  split
  · next hstop =>
    rw [Bool.and_eq_true] at hstop
    exact of_active hstop.2 rfl rfl rfl
  · exact refl r

end DeviceRecord.Lasts

/-- A deployment and the same deployment later. -/
structure Deployment.Lasts (d d' : Deployment) : Prop where
  id : d'.id = d.id
  plan : d'.plan = d.plan
  created : d'.created = d.created
  artifacts : d'.artifacts = d.artifacts
  deviceCount : d'.deviceCount = d.deviceCount
  maxDevices : d'.maxDevices = d.maxDevices
  /-- The first finish time stays. -/
  finished : ∀ {t}, d.finished = some t → d'.finished = some t

namespace Deployment.Lasts

variable {d d' d'' : Deployment}

/-- A deployment lasts as it is. -/
theorem refl (d : Deployment) : d.Lasts d := ⟨rfl, rfl, rfl, rfl, rfl, rfl, fun ht => ht⟩

/-- A deployment that lasts twice lasts. -/
theorem trans (h : d.Lasts d') (h' : d'.Lasts d'') : d.Lasts d'' where
  id := h'.id.trans h.id
  plan := h'.plan.trans h.plan
  created := h'.created.trans h.created
  artifacts := h'.artifacts.trans h.artifacts
  deviceCount := h'.deviceCount.trans h.deviceCount
  maxDevices := h'.maxDevices.trans h.maxDevices
  finished ht := h'.finished (h.finished ht)

/-- Counters are not settled at creation, so they may change. -/
theorem withStats (d : Deployment) (st : Stats) : d.Lasts (d.withStats st) :=
  ⟨rfl, rfl, rfl, rfl, rfl, rfl, fun ht => ht⟩

/-- A deployment keeps its first finish time. -/
theorem finishAt (d : Deployment) (now : Instant) : d.Lasts (d.finishAt now) where
  id := rfl
  plan := rfl
  created := rfl
  artifacts := rfl
  deviceCount := rfl
  maxDevices := rfl
  finished ht := by rw [Deployment.finishAt, ht, Option.getD_some]

end Deployment.Lasts

/-! ### The part of a tenant -/

/-- No record at rest stands under the key. -/
def Partition.ActiveAt (p : Partition) (k : DeploymentId × DeviceId) : Prop :=
  ∀ r, p.records.get? k = some r → r.status.isActive = true

/-- A call that takes no deployment away, and that asks for no change of a record at rest. -/
def StoreCall.Sparing (p : Partition) : StoreCall → Prop
  | .deleteDeployment _ => False
  | .updateStatus id device .. => p.ActiveAt (id, device)
  | .assignArtifact id device .. => p.ActiveAt (id, device)
  | _ => True

namespace Partition

/-- A part and the same part later. -/
structure Lasts (p p' : Partition) : Prop where
  /-- What stood under its own names does so still. -/
  keyed : p.Keyed → p'.Keyed
  deployment : ∀ {id d}, p.deployments.get? id = some d →
    ∃ d', p'.deployments.get? id = some d' ∧ d.Lasts d'
  record : ∀ {k r}, p.records.get? k = some r → ∃ r', p'.records.get? k = some r' ∧ r.Lasts r'

namespace Lasts

variable {p p' p'' : Partition}

/-- A part lasts as it is. -/
theorem refl (p : Partition) : p.Lasts p where
  keyed h := h
  deployment hd := ⟨_, hd, .refl _⟩
  record hr := ⟨_, hr, .refl _⟩

/-- A part that lasts twice lasts. -/
theorem trans (h : p.Lasts p') (h' : p'.Lasts p'') : p.Lasts p'' where
  keyed hkeyed := h'.keyed (h.keyed hkeyed)
  deployment hd := by
    obtain ⟨d', hd', hlasts⟩ := h.deployment hd
    obtain ⟨d'', hd'', hlasts'⟩ := h'.deployment hd'
    exact ⟨d'', hd'', hlasts.trans hlasts'⟩
  record hr := by
    obtain ⟨r', hr', hlasts⟩ := h.record hr
    obtain ⟨r'', hr'', hlasts'⟩ := h'.record hr'
    exact ⟨r'', hr'', hlasts.trans hlasts'⟩

/-- One deployment is written, in place of one that it continues if there is one. -/
theorem withDeployment {id : DeploymentId} {d' : Deployment} (hid : p.Keyed → d'.id = id)
    (h : ∀ d, p.deployments.get? id = some d → d.Lasts d') : p.Lasts (p.withDeployment id d') where
  keyed hkeyed := hkeyed.withDeployment (hid hkeyed)
  deployment {id' d} hd := by
    rw [get?_withDeployment]
    split
    · next hid =>
      subst hid
      exact ⟨d', rfl, h d hd⟩
    · exact ⟨d, hd, .refl d⟩
  record hr := ⟨_, hr, .refl _⟩

/-- One record is written, in place of one that it continues if there is one. -/
theorem withRecord {k : DeploymentId × DeviceId} {r' : DeviceRecord} (hkey : p.Keyed → r'.key = k)
    (h : ∀ r, p.records.get? k = some r → r.Lasts r') : p.Lasts (p.withRecord k r') where
  keyed hkeyed := hkeyed.withRecord (hkey hkeyed)
  deployment hd := ⟨_, hd, .refl _⟩
  record {k' r} hr := by
    rw [get?_withRecord]
    split
    · next hk =>
      subst hk
      exact ⟨r', rfl, h r hr⟩
    · exact ⟨r, hr, .refl r⟩

/-- Saving a log leaves deployments and records alone. -/
theorem withLog (p : Partition) (log : DeploymentLog) : p.Lasts (p.withLog log) where
  keyed hkeyed := hkeyed.withLog log
  deployment hd := ⟨_, hd, .refl _⟩
  record hr := ⟨_, hr, .refl _⟩

/-- Stopping records leaves those at rest as they are, and keeps the names of all. -/
theorem stopRecords (p : Partition) (test : DeviceRecord → Bool) (s : DeviceStatus)
    (now : Instant) : p.Lasts (p.stopRecords test s now) where
  keyed hkeyed := hkeyed.stopRecords test s now
  deployment hd := ⟨_, hd, .refl _⟩
  record {k r} hr := by
    refine ⟨r.stopIf (test r) s now, ?_, .stopIf r _ s now⟩
    rw [get?_stopRecords, hr]
    rfl

end Lasts

/-! ### Calls -/

/-- A deployment is changed where there is one and the change is possible. -/
theorem updateDeployment_eq_ok_iff {p p' : Partition} {id : DeploymentId}
    {f : Deployment → Except StoreError Deployment} :
    p.updateDeployment id f = .ok p' ↔
      ∃ d d', p.deployments.get? id = some d ∧ f d = .ok d' ∧ p' = p.withDeployment id d' := by
  rw [updateDeployment]
  cases p.deployments.get? id with
  | none => simp
  | some d =>
    cases hd : f d with
    | error e => simp [hd, Except.map]
    | ok d' => simp [hd, Except.map, withDeployment, eq_comm]

/-- A changed deployment was found under its name. -/
theorem updateDeployment_lasts {p p' : Partition} {id : DeploymentId}
    {f : Deployment → Except StoreError Deployment} (hf : ∀ d d', f d = .ok d' → d.Lasts d')
    (h : p.updateDeployment id f = .ok p') : p.Lasts p' := by
  obtain ⟨d, d', hd, hfd, rfl⟩ := updateDeployment_eq_ok_iff.1 h
  have hlasts := hf d d' hfd
  refine .withDeployment (fun hkeyed => hlasts.id.trans (hkeyed.deployment hd)) fun e he => ?_
  rw [hd] at he
  cases he
  exact hlasts

/-- A changed record was found under its names. -/
theorem updateRecord_lasts {p p' : Partition} {id : DeploymentId} {device : DeviceId}
    {f : DeviceRecord → DeviceRecord} {r : DeviceRecord}
    (hf : ∀ r, p.records.get? (id, device) = some r → r.Lasts (f r))
    (h : p.updateRecord id device f = .ok (r, p')) : p.Lasts p' := by
  rw [updateRecord] at h
  cases hr : p.records.get? (id, device) with
  | none =>
    rw [hr] at h
    cases h
  | some s =>
    rw [hr] at h
    cases h
    have hlasts := hf r hr
    refine .withRecord (fun hkeyed => ?_) fun s hs => ?_
    · rw [DeviceRecord.key, hlasts.deploymentId, hlasts.deviceId]
      exact hkeyed.record hr
    · rw [hr] at hs
      cases hs
      exact hlasts

/-- Added records take free keys. -/
theorem foldlM_addRecord_lasts {p p' : Partition} {l : List DeviceRecord}
    (h : l.foldlM addRecord p = .ok p') : p.Lasts p' := by
  induction l generalizing p with
  | nil =>
    cases h
    exact .refl _
  | cons r rest ih =>
    rw [List.foldlM_cons, addRecord] at h
    split at h
    · cases h
    · next hfree =>
      have hone : p.Lasts (p.withRecord r.key r) := by
        refine .withRecord (fun _ => rfl) fun s hs => ?_
        exact absurd (Table.contains_iff.2 ⟨s, hs⟩) hfree
      exact hone.trans (ih h)

/-- A mapped outcome that succeeds comes from one that does. -/
theorem map_eq_ok {ε α β : Type} {f : α → β} {x : Except ε α} {b : β} (h : x.map f = .ok b) :
    ∃ a, x = .ok a ∧ f a = b := by
  cases x with
  | error e => cases h
  | ok a => exact ⟨a, rfl, Except.ok.inj h⟩

/-- A deployment is added under a free name. -/
theorem of_run_insertDeployment {p p' : Partition} {d : Deployment} {u : Unit}
    (h : p.run (.insertDeployment d) = .ok (u, p')) :
    p.deployments.get? d.id = none ∧ p' = p.withDeployment d.id d := by
  rw [run] at h
  split at h
  · cases h
  · next hfree =>
    cases h
    exact ⟨Table.contains_eq_false_iff.1 (Bool.eq_false_iff.2 hfree), rfl⟩

/-- The counters that move are those of a deployment, and they can move so. -/
theorem of_run_moveDevice {p p' : Partition} {id : DeploymentId} {old new : DeviceStatus} {u : Unit}
    (h : p.run (.moveDevice id old new) = .ok (u, p')) :
    ∃ d st, p.deployments.get? id = some d ∧ d.stats.transition old new = .ok st ∧
      p' = p.withDeployment id (d.withStats st) := by
  obtain ⟨q, hq, hpair⟩ := map_eq_ok h
  cases hpair
  obtain ⟨d, d', hd, hmoved, rfl⟩ := updateDeployment_eq_ok_iff.1 hq
  cases hst : d.stats.transition old new with
  | error e => simp [hst] at hmoved
  | ok st =>
    simp only [hst, Except.ok.injEq] at hmoved
    exact ⟨d, st, hd, hst, by rw [hmoved]⟩

/-- A recount that the store agrees to is about a deployment that is there, and finishes it with the
new counters. -/
theorem of_run_finishWithStats {p p' : Partition} {id : DeploymentId} {stats : Stats}
    {now : Instant} {u : Unit} (h : p.run (.finishWithStats id stats now) = .ok (u, p')) :
    ∃ d, p.deployments.get? id = some d ∧
      p' = p.withDeployment id ((d.withStats stats).finishAt now) := by
  obtain ⟨q, hq, hpair⟩ := map_eq_ok h
  cases hpair
  obtain ⟨d, d', hd, hfinished, rfl⟩ := updateDeployment_eq_ok_iff.1 hq
  cases hfinished
  exact ⟨d, hd, rfl⟩

/-- A call that only asks leaves the part as it is. -/
theorem run_of_not_mutating {p p' : Partition} {c : StoreCall} {a : c.Answer}
    (hc : c.isMutating = false) (h : p.run c = .ok (a, p')) : p' = p := by
  cases c with
  | countByStatus id =>
    rw [run] at h
    split at h
    · cases h
      rfl
    · cases h
  | insertDeployment | deleteDeployment | moveDevice | finishWithStats | finishDeployment
  | insertRecords | updateStatus | assignArtifact | abortRecords | decommissionRecords | markLog
  | saveLog => cases hc
  | _ =>
    cases h
    rfl

/-- A sparing call that is answered leaves a part that lasts. -/
theorem run_lasts {p p' : Partition} {c : StoreCall} {a : c.Answer} (hc : c.Sparing p)
    (h : p.run c = .ok (a, p')) : p.Lasts p' := by
  cases c with
  | insertDeployment d =>
    obtain ⟨hfree, rfl⟩ := of_run_insertDeployment h
    -- The name was free, so there is no earlier deployment to keep.
    refine .withDeployment (fun _ => rfl) fun e he => ?_
    rw [hfree] at he
    cases he
  -- Only taking back a deployment that was just stored deletes; a sparing call does not.
  | deleteDeployment id => exact hc.elim
  | moveDevice id old new =>
    obtain ⟨q, hq, he⟩ := map_eq_ok h
    cases he
    refine updateDeployment_lasts (fun d d' hd => ?_) hq
    split at hd
    · cases hd
      exact .withStats d _
    · cases hd
  | finishWithStats id stats finished =>
    obtain ⟨q, hq, he⟩ := map_eq_ok h
    cases he
    refine updateDeployment_lasts (fun d d' hd => ?_) hq
    cases hd
    exact (Deployment.Lasts.withStats d stats).trans (.finishAt _ finished)
  | finishDeployment id finished =>
    obtain ⟨q, hq, he⟩ := map_eq_ok h
    cases he
    refine updateDeployment_lasts (fun d d' hd => ?_) hq
    cases hd
    exact .finishAt d finished
  | insertRecords records =>
    obtain ⟨q, hq, he⟩ := map_eq_ok h
    cases he
    exact foldlM_addRecord_lasts hq
  | updateStatus id device status substate finished =>
    obtain ⟨⟨r, q⟩, hq, he⟩ := map_eq_ok h
    cases he
    refine updateRecord_lasts (fun r hr => ?_) hq
    exact .of_active (hc r hr) rfl rfl rfl
  | assignArtifact id device deviceType artifact =>
    obtain ⟨⟨r, q⟩, hq, he⟩ := map_eq_ok h
    cases he
    refine updateRecord_lasts (fun r hr => ?_) hq
    exact .of_active (hc r hr) rfl rfl rfl
  | abortRecords id finished =>
    cases h
    exact .stopRecords p _ _ _
  | decommissionRecords device finished =>
    cases h
    exact .stopRecords p _ _ _
  | markLog id device available =>
    obtain ⟨⟨r, q⟩, hq, he⟩ := map_eq_ok h
    cases he
    exact updateRecord_lasts (fun r _ => .withLogMark r available) hq
  | saveLog log =>
    cases h
    exact .withLog p log
  | _ =>
    rw [run_of_not_mutating rfl h]
    exact .refl p

end Partition

end Fleet
