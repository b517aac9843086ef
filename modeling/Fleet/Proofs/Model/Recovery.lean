import Fleet.Proofs.Deployment.Stamps
import Fleet.Proofs.Model.Failing
import Fleet.Proofs.Model.Runs

/-!
# `Fleet.Proofs.Model.Recovery`: an abort that fails can be repeated

An abort makes four calls of the data store: it looks the deployment up, stops the records, counts
them and finishes the deployment. Whichever call fails, the deployment is still unfinished. So the
next attempt is not turned away. It finds the records as they were or already stopped
(`HalfAborted`), and a second stop changes nothing. It counts them anew in any case.

`ModelM.Tries` follows a computation that stops at its first failing call. Unlike `ModelM.Ends` it
minds the trail and the plan of faults as well as the part: whatever part the failure leaves, nothing
has been told by then, and a planned failure has been used up. So there can be no more failed
attempts than planned failures.

`abort_retries` is the main theorem: the attempt that succeeds after others have failed leaves what
a single attempt would have left, except that the finish times may differ.
-/

set_option autoImplicit false

namespace Fleet

open Fleet.Time

/-! ### Planned failures -/

namespace FaultPlan

/-- How many calls a plan makes fail, at most. -/
def failures (plan : FaultPlan) : Nat := (plan.map (·.times)).sum

/-- A call that is struck uses up one failure, any other call none. -/
theorem failures_strike (target : String) (plan : FaultPlan) :
    (strike target plan).2.failures + (if (strike target plan).1.isSome then 1 else 0)
      = plan.failures := by
  induction plan with
  | nil => rfl
  | cons f rest ih =>
    have hcons (g : Fault) (tail : FaultPlan) :
        failures (g :: tail) = g.times + failures tail := by
      rw [failures, List.map_cons, List.sum_cons, failures]
    rw [strike]
    split
    · dsimp only
      rw [hcons, hcons, ← ih, Nat.add_assoc]
    · split
      · next hstrikes =>
        dsimp only
        rw [hcons, hcons, Option.isSome_some, if_pos rfl, Nat.add_right_comm,
          Nat.sub_add_cancel hstrikes.2]
      · dsimp only
        rw [hcons, hcons, ← ih, Nat.add_assoc]

end FaultPlan

namespace World

variable {ω : Type} {w w' w'' : World MemoryStore ω} {tenant : TenantId} {p p' : Partition}
  {events : List AuditEvent}

/-- Some steps gave a tenant another part and told of events, and used up some planned failures
or none. -/
structure Turned (w : World MemoryStore ω) (tenant : TenantId) (p : Partition)
    (events : List AuditEvent) (w' : World MemoryStore ω) : Prop where
  store : w'.store = w.store.withPartition tenant p
  trail : w'.trail = w.trail ++ events
  failures : w'.faults.failures ≤ w.faults.failures

namespace Turned

/-- A world where nothing happens has turned to its own part. -/
theorem refl (w : World MemoryStore ω) (tenant : TenantId) :
    w.Turned tenant (w.part tenant) [] w where
  store := by rw [World.part, MemoryStore.withPartition_partition]
  trail := (List.append_nil _).symm
  failures := Nat.le_refl _

/-- A world that turns without an event and turns again has turned, with the events of the second
turn. -/
theorem trans (h : w.Turned tenant p [] w') (h' : w'.Turned tenant p' events w'') :
    w.Turned tenant p' events w'' where
  store := by rw [h'.store, h.store, MemoryStore.withPartition_withPartition]
  trail := by rw [h'.trail, h.trail, List.append_nil]
  failures := Nat.le_trans h'.failures h.failures

/-- The part that a world has turned to is that of the tenant. -/
theorem part (h : w.Turned tenant p events w') : w'.part tenant = p := by
  rw [World.part, h.store, MemoryStore.partition_withPartition_self]

/-- The parts of other tenants stay. -/
theorem part_of_ne (h : w.Turned tenant p events w') {t : TenantId} (ht : t ≠ tenant) :
    w'.part t = w.part t := by
  rw [World.part, h.store, MemoryStore.partition_withPartition_of_ne _ _ ht]
  rfl

end Turned

/-- What comes of steps that stop at the first failing call of the data store. -/
inductive Tried {α : Type} (w : World MemoryStore ω) (tenant : TenantId)
    (left : Partition → Prop) (a : α) (p : Partition) (events : List AuditEvent) :
    Except ModelError α × World MemoryStore ω → Prop where
  /-- No call failed. -/
  | done {w' : World MemoryStore ω} (turned : w.Turned tenant p events w') :
      Tried w tenant left a p events (.ok a, w')
  /-- A planned failure struck, and nothing was told. -/
  | failed {activity : String} {e : StoreError} {q : Partition} {w' : World MemoryStore ω}
      (leaves : left q) (turned : w.Turned tenant q [] w')
      (used : w'.faults.failures < w.faults.failures) :
      Tried w tenant left a p events (.error (.store activity e), w')

end World

namespace ModelM

/-- From the part `p` of the tenant, whatever faults are planned, a computation comes to its answer
and to a part, and tells of some events. Or a call fails, and then the part is one of those it may
be left with. -/
def Tries {ω α : Type} (scene : Scene) (p : Partition) (m : ModelM MemoryStore ω α)
    (left : Partition → Prop) (a : α) (p' : Partition) (events : List AuditEvent) : Prop :=
  ∀ w : World MemoryStore ω, w.part scene.ctx.partition = p →
    w.Tried scene.ctx.partition left a p' events (m scene w)

namespace Tries

variable {ω α β : Type} {scene : Scene} {p p' p'' : Partition} {left : Partition → Prop}
  {events : List AuditEvent}

/-- Nothing may have been told before the last failing call. -/
theorem bind {m : ModelM MemoryStore ω α} {f : α → ModelM MemoryStore ω β} {a : α} {b : β}
    (first : Tries scene p m left a p' []) (rest : Tries scene p' (f a) left b p'' events) :
    Tries scene p (m >>= f) left b p'' events := by
  intro w hw
  have hfirst := first w hw
  cases hm : m scene w with
  | mk x w₁ =>
    rw [hm] at hfirst
    cases hfirst with
    | failed leaves turned used =>
      rw [bind_error hm]
      -- What a failure of the first part leaves is what a failure of the whole may leave.
      exact .failed leaves turned used
    | done turned =>
      have hrest := rest w₁ turned.part
      rw [bind_ok hm]
      cases hf : f a scene w₁ with
      | mk y w₂ =>
        rw [hf] at hrest
        cases hrest with
        | done turned' => exact .done (turned.trans turned')
        | failed leaves turned' used =>
          -- The first part was done, and its turn counts for the second as well.
          exact .failed leaves (turned.trans turned') (Nat.lt_of_lt_of_le used turned.failures)

/-- A computation that begins by looking at its scene tries what it does with that scene. -/
theorem of_read {f : Scene → ModelM MemoryStore ω β} {b : β}
    (h : Tries scene p (f scene) left b p' events) : Tries scene p (read >>= f) left b p' events :=
  h

/-- A call that the part answers fails by a planned failure only. -/
theorem askStore (activity : String) {c : StoreCall} {a : c.Answer} (run : p.run c = .ok (a, p'))
    (leaves : left p) : Tries (ω := ω) scene p (askStore activity c) left a p' [] := by
  intro w hw
  cases hcall : w.callStore scene.ctx.partition c with
  | mk x w' =>
    have hanswer := w.answer_callStore scene.ctx.partition c
    rw [hcall, hw, run] at hanswer
    have hspent := FaultPlan.failures_strike c.name w.faults
    rw [← World.faults_of_callStore hcall] at hspent
    have htrail := World.trail_of_callStore hcall
    rw [askStore_run activity hcall]
    -- The call fails by the plan, or it does what it does on the part.
    cases hstruck : (FaultPlan.strike c.name w.faults).1 with
    | some f =>
      rw [hstruck] at hanswer hspent
      dsimp only at hanswer
      subst hanswer
      have hsame := World.store_of_callStore hcall
      refine .failed leaves ⟨?_, ?_, ?_⟩ ?_
      · rw [hsame, ← hw, World.part, MemoryStore.withPartition_partition]
      · rw [htrail, List.append_nil]
      · exact Nat.le.intro hspent
      · exact Nat.lt_of_succ_le (Nat.le_of_eq hspent)
    | none =>
      rw [hstruck] at hanswer hspent
      dsimp only [Except.map] at hanswer
      subst hanswer
      obtain ⟨q, hrun, hstore⟩ := World.run_of_callStore hcall
      rw [hw, run] at hrun
      cases hrun
      refine .done ⟨hstore, ?_, ?_⟩
      · rw [htrail, List.append_nil]
      · exact Nat.le_of_eq hspent

/-- Recording an event does not fail. -/
theorem emit (kind : AuditKind) (id : DeploymentId) :
    Tries (ω := ω) scene p (emit kind id) left () p [.of scene.ctx scene.now kind id] := by
  intro w hw
  have hrefl := World.Turned.refl w scene.ctx.partition
  rw [hw] at hrefl
  exact .done { store := hrefl.store, trail := rfl, failures := hrefl.failures }

end Tries

end ModelM

/-! ### Stopping twice -/

namespace Partition

variable {p q : Partition} {id : DeploymentId} {d : Deployment}

/-- The part after the records of a deployment were aborted, before they are counted. -/
def withAborted (p : Partition) (id : DeploymentId) (now : Instant) : Partition :=
  p.stopRecords (·.deploymentId = id) .aborted now

/-- A second stop changes nothing, since no record is active any more. The finish times are those of
the first one. -/
theorem withAborted_withAborted (p : Partition) (id : DeploymentId) (now now' : Instant) :
    (p.withAborted id now).withAborted id now' = p.withAborted id now := by
  have hrecords : ((p.withAborted id now).withAborted id now').records
      = (p.withAborted id now).records := by
    refine Table.ext_get? fun k => ?_
    rw [withAborted, get?_stopRecords, withAborted, get?_stopRecords, Option.map_map]
    refine congrArg (Option.map · _) (funext fun r => ?_)
    -- A stop leaves a record with the deployment that it is for.
    have hid : (r.stopIf (decide (r.deploymentId = id)) .aborted now).deploymentId
        = r.deploymentId :=
      congrArg Prod.fst (r.key_stopIf ..)
    show (r.stopIf _ _ _).stopIf (decide (_ = id)) _ _ = _
    rw [hid, DeviceRecord.stopIf_stopIf _ _ rfl]
  exact congrArg (fun t => { p with records := t }) hrecords

/-- When the records were aborted does not show in their statuses. -/
theorem map_status_withAborted (p : Partition) (id : DeploymentId) (now now' : Instant)
    (k : DeploymentId × DeviceId) :
    ((p.withAborted id now).records.get? k).map (·.status)
      = ((p.withAborted id now').records.get? k).map (·.status) := by
  rw [withAborted, withAborted, get?_stopRecords, get?_stopRecords, Option.map_map, Option.map_map]
  refine congrArg (Option.map · _) (funext fun r => ?_)
  show (r.stopIf _ _ _).status = (r.stopIf _ _ _).status
  rw [DeviceRecord.status_stopIf, DeviceRecord.status_stopIf]

/-- Nor does it show in the counters. -/
theorem tallyOf_withAborted (p : Partition) (id : DeploymentId) (now now' : Instant) :
    (p.withAborted id now).tallyOf id = (p.withAborted id now').tallyOf id := by
  rw [tallyOf, tallyOf, withAborted, withAborted, recordsOf_stopRecords, recordsOf_stopRecords]
  refine congrArg Stats.tally ?_
  rw [statuses, statuses, List.map_map, List.map_map]
  refine List.map_congr_left fun r _ => ?_
  show (r.stopIf _ _ _).status = (r.stopIf _ _ _).status
  rw [DeviceRecord.status_stopIf, DeviceRecord.status_stopIf]

/-- Counting the records anew and finishing the deployment. -/
theorem get?_recounted_withAborted (hd : p.deployments.get? id = some d)
    (unfinished : d.isFinished = false) (stop now : Instant) :
    ((p.withAborted id stop).recounted id now).deployments.get? id
      = some { d with stats := (p.withAborted id stop).tallyOf id, finished := some now } := by
  have hget : (p.withAborted id stop).deployments.get? id = some d := hd
  have hfinished := (d.withStats ((p.withAborted id stop).tallyOf id)).finished_finishAt_of_open now
    unfinished
  rw [get?_recounted, if_pos rfl, hget, Option.map_some]
  exact congrArg
    (fun t => some { d with stats := (p.withAborted id stop).tallyOf id, finished := t }) hfinished

/-- An abort leaves the records of other deployments alone. -/
theorem get?_withAborted_of_ne (hkeyed : p.Keyed) {k : DeploymentId × DeviceId} (hk : k.1 ≠ id)
    (stop : Instant) : (p.withAborted id stop).records.get? k = p.records.get? k := by
  rw [withAborted, get?_stopRecords]
  cases hr : p.records.get? k with
  | none => rfl
  | some r =>
    have hother : decide (r.deploymentId = id) = false := by
      rw [← hkeyed.record hr] at hk
      exact decide_eq_false hk
    rw [Option.map_some, hother]
    rfl

/-- A deployment that an abort is for. -/
structure Abortable (p : Partition) (id : DeploymentId) (d : Deployment) : Prop where
  found : p.deployments.get? id = some d
  unfinished : d.isFinished = false
  bounded : (p.recordsOf id).length < 2 ^ 64

/-- What attempts at an abort can leave before one succeeds. -/
inductive HalfAborted (p : Partition) (id : DeploymentId) : Partition → Prop where
  | untouched : HalfAborted p id p
  | stopped (now : Instant) : HalfAborted p id (p.withAborted id now)

namespace HalfAborted

/-- The deployment can be aborted still. -/
theorem abortable (h : p.HalfAborted id q) (hd : p.Abortable id d) : q.Abortable id d := by
  cases h with
  | untouched => exact hd
  | stopped now =>
    refine ⟨hd.found, hd.unfinished, ?_⟩
    rw [withAborted, recordsOf_stopRecords, List.length_map]
    exact hd.bounded

/-- The next attempt stops the records, or they have been stopped already. -/
theorem exists_withAborted (h : p.HalfAborted id q) (now : Instant) :
    ∃ stop, q.withAborted id now = p.withAborted id stop := by
  cases h with
  | untouched => exact ⟨now, rfl⟩
  | stopped stop => exact ⟨stop, withAborted_withAborted ..⟩

end HalfAborted

end Partition

/-! ### Attempts -/

namespace ModelM

open Fleet.Partition (Abortable HalfAborted)

variable {ω : Type} {scene : Scene} {p q : Partition} {id : DeploymentId} {d : Deployment}
  {left : Partition → Prop}

/-- Counting and finishing an abortable deployment succeeds or fails at one of two calls, and a
failure leaves the part as it was. -/
theorem finishRecounted_tries (hd : p.Abortable id d) (leaves : left p) :
    Tries (ω := ω) scene p (finishRecounted id) left () (p.recounted id scene.now) [] :=
  .bind (.askStore _ (Partition.run_countByStatus hd.bounded) leaves)
    (.of_read (.askStore _ (Partition.run_finishWithTally scene.now hd.found) leaves))

/-- One attempt, after others have failed. -/
theorem abort_tries (hd : p.Abortable id d) (hq : p.HalfAborted id q) :
    Tries (ω := ω) scene q (abort id) (p.HalfAborted id) () (q.afterAbort id scene.now)
      [.of scene.ctx scene.now .deploymentAborted id] := by
  have hstopped : p.HalfAborted id (q.withAborted id scene.now) := by
    obtain ⟨stop, hstop⟩ := hq.exists_withAborted scene.now
    rw [hstop]
    exact .stopped stop
  have hfind : q.run (.findDeployment id) = .ok (some d, q) := by
    rw [Partition.run, (hq.abortable hd).found]
  refine .bind (.askStore _ hfind hq) ?_
  dsimp only
  -- The deployment is finished by the last call only, so an attempt is not turned away.
  rw [hd.unfinished, if_neg Bool.false_ne_true]
  have hstop : q.run (.abortRecords id scene.now) = .ok ((), q.withAborted id scene.now) := rfl
  exact .of_read (.bind (.askStore _ hstop hq)
    (.bind (finishRecounted_tries (hstopped.abortable hd) hstopped) (.emit _ _)))

end ModelM

namespace World

open Fleet.Partition (Abortable HalfAborted)

variable {ω : Type} {start w : World MemoryStore ω} {tenant : TenantId} {id : DeploymentId}
  {d : Deployment}

/-- What holds between attempts at an abort that fail. -/
structure Retrying (start : World MemoryStore ω) (tenant : TenantId) (id : DeploymentId)
    (w : World MemoryStore ω) : Prop where
  half : (start.part tenant).HalfAborted id (w.part tenant)
  turned : start.Turned tenant (w.part tenant) [] w

/-- Nothing has been tried at the start. -/
theorem Retrying.refl (start : World MemoryStore ω) (tenant : TenantId) (id : DeploymentId) :
    start.Retrying tenant id start where
  half := .untouched
  turned := .refl start tenant

variable [LinkIssuer ω]

namespace Retrying

variable (h : start.Retrying tenant id w) (hd : (start.part tenant).Abortable id d)
include h hd

/-- One attempt at an abort: it fails and leaves the records as they were or stopped, or it does all
that an abort does. -/
theorem tried {scene : Scene} (hscene : scene.ctx.partition = tenant) :
    w.Tried tenant ((start.part tenant).HalfAborted id) ()
      ((w.part tenant).afterAbort id scene.now)
      [.of scene.ctx scene.now .deploymentAborted id] (w.perform scene (.abort id)) := by
  subst hscene
  exact ModelM.abort_tries hd h.half w rfl

/-- A failed attempt is the store's failure, and the next one starts where it might have. -/
theorem failed {scene : Scene} (hscene : scene.ctx.partition = tenant) {e : ModelError}
    (he : (w.perform scene (.abort id)).1 = .error e) :
    (∃ activity cause, e = .store activity cause) ∧
      start.Retrying tenant id (w.perform scene (.abort id)).2 ∧
      (w.perform scene (.abort id)).2.faults.failures < w.faults.failures := by
  have htried := h.tried hd hscene
  generalize w.perform scene (.abort id) = x at he htried
  cases htried with
  | done turned => cases he
  | failed leaves turned used =>
    cases he
    have hpart := turned.part
    refine ⟨⟨_, _, rfl⟩, ⟨?_, ?_⟩, used⟩
    · rw [hpart]
      exact leaves
    · rw [hpart]
      exact h.turned.trans turned

/-- As long as attempts fail it is the store that fails them, and each uses up a failure. -/
theorem run (attempts : List Scene) (hscenes : ∀ s ∈ attempts, s.ctx.partition = tenant)
    (hfailed : ∀ a ∈ w.answers (attempts.map (·, .abort id)), ∃ e, a.2 = .error e) :
    (∀ a ∈ w.answers (attempts.map (·, .abort id)),
      ∃ activity cause, a.2 = .error (.store activity cause)) ∧
    start.Retrying tenant id (w.run (attempts.map (·, .abort id))) ∧
    (w.run (attempts.map (·, .abort id))).faults.failures + attempts.length
      ≤ w.faults.failures := by
  induction attempts generalizing w with
  | nil => exact ⟨fun a ha => absurd ha List.not_mem_nil, h, Nat.le_refl _⟩
  | cons scene rest ih =>
    obtain ⟨e, he⟩ := hfailed _ List.mem_cons_self
    obtain ⟨⟨activity, cause, hcause⟩, hnext, hused⟩ :=
      h.failed hd (hscenes scene List.mem_cons_self) he
    obtain ⟨hrest, hlast, hlength⟩ := ih hnext
      (fun s hs => hscenes s (List.mem_cons_of_mem _ hs))
      (fun a ha => hfailed a (List.mem_cons_of_mem _ ha))
    refine ⟨fun a ha => ?_, hlast, ?_⟩
    · rcases List.mem_cons.1 ha with rfl | ha
      · exact ⟨activity, cause, by rw [← hcause]; exact he⟩
      · exact hrest a ha
    · exact Nat.lt_of_le_of_lt hlength hused

/-- The attempt that succeeds stops the records, unless one before it did. -/
theorem succeeded {scene : Scene} (hscene : scene.ctx.partition = tenant)
    (hok : (w.perform scene (.abort id)).1 = .ok ()) :
    ∃ stop, start.Turned tenant
      (((start.part tenant).withAborted id stop).recounted id scene.now)
      [.of scene.ctx scene.now .deploymentAborted id] (w.perform scene (.abort id)).2 := by
  have htried := h.tried hd hscene
  generalize w.perform scene (.abort id) = x at hok htried
  cases htried with
  | failed leaves turned used => cases hok
  | done turned =>
    obtain ⟨stop, hstop⟩ := h.half.exists_withAborted scene.now
    refine ⟨stop, ?_⟩
    rw [← hstop]
    exact h.turned.trans turned

end Retrying

/-- Where nothing fails a single attempt succeeds. -/
theorem abort_flawless (hsteady : start.Steady) {scene : Scene}
    (hscene : scene.ctx.partition = tenant)
    (hd : (start.part tenant).deployments.get? id = some d) (unfinished : d.isFinished = false) :
    (start.perform scene (.abort id)).1 = .ok () ∧
      (start.perform scene (.abort id)).2.part tenant
        = (start.part tenant).afterAbort id scene.now := by
  subst hscene
  rcases ModelM.abort_run hsteady.spares rfl (hsteady.consistent _) id with
    ⟨hnone, -⟩ | ⟨d', hd', ⟨hfinished, -⟩ | ⟨-, calls, hrun⟩⟩
  · rw [hd] at hnone
    cases hnone
  · rw [hd] at hd'
    cases hd'
    rw [unfinished] at hfinished
    cases hfinished
  · have hx : start.perform scene (.abort id) = _ := hrun
    rw [hx]
    exact ⟨rfl, part_turn ..⟩

/-- An abort that fails can be repeated until it succeeds. Attempts fail because of the store only,
and no more often than failures are planned. The one that succeeds leaves every record with the
status that a single abort gives it, and the deployment with the same counters and finished, and
the event is told once. Nothing else in the store has changed. -/
theorem abort_retries {w : World MemoryStore ω} (hstore : w.store = {})
    (hfaults : w.faults.SparesStore) (steps : List Step)
    (hbounded : ∀ step ∈ steps, step.2.Bounded step.1)
    (hd : ((w.run steps).part tenant).deployments.get? id = some d)
    (unfinished : d.isFinished = false) (plan : FaultPlan) (attempts : List Scene)
    (last ideal : Scene)
    (hscenes : ∀ s ∈ last :: ideal :: attempts, s.ctx.partition = tenant)
    (hfailed : ∀ a ∈ ((w.run steps).withFaults plan).answers (attempts.map (·, .abort id)),
      ∃ e, a.2 = .error e) :
    let start := w.run steps
    let failing := start.withFaults plan
    let x := (failing.run (attempts.map (·, .abort id))).perform last (.abort id)
    let goal := start.perform ideal (.abort id)
    (∀ a ∈ failing.answers (attempts.map (·, .abort id)),
      ∃ activity cause, a.2 = .error (.store activity cause)) ∧
    attempts.length ≤ plan.failures ∧
    goal.1 = .ok () ∧
    (x.1 = .ok () →
      (∀ k, ((x.2.part tenant).records.get? k).map (·.status)
        = ((goal.2.part tenant).records.get? k).map (·.status)) ∧
      (∃ g, (goal.2.part tenant).deployments.get? id = some g ∧ g.isFinished = true ∧
        (x.2.part tenant).deployments.get? id = some { g with finished := some last.now }) ∧
      (∀ k, k.1 ≠ id →
        (x.2.part tenant).records.get? k = (start.part tenant).records.get? k) ∧
      (∀ id', id' ≠ id →
        (x.2.part tenant).deployments.get? id' = (start.part tenant).deployments.get? id') ∧
      (x.2.part tenant).logs = (start.part tenant).logs ∧
      (∀ t, t ≠ tenant → x.2.part t = start.part t) ∧
      x.2.trail = start.trail ++ [.of last.ctx last.now .deploymentAborted id]) := by
  intro start failing x goal
  have hsteady : start.Steady := (Steady.of_empty hstore hfaults).run steps hbounded
  have hconsistent := hsteady.consistent tenant
  have habortable : (failing.part tenant).Abortable id d :=
    ⟨hd, unfinished, hconsistent.bounded id⟩
  -- The failed attempts first: each uses up a failure and stops records at most.
  obtain ⟨hstores, hretrying, hused⟩ := (Retrying.refl failing tenant id).run habortable attempts
    (fun s hs => hscenes s (List.mem_cons_of_mem _ (List.mem_cons_of_mem _ hs))) hfailed
  obtain ⟨hgoal, hgoalPart⟩ := abort_flawless hsteady
    (hscenes ideal (List.mem_cons_of_mem _ List.mem_cons_self)) hd unfinished
  refine ⟨hstores, Nat.le_trans (Nat.le_add_left _ _) hused, hgoal, fun hok => ?_⟩
  -- The records may have been stopped by an earlier attempt, at its own time.
  obtain ⟨stop, hturned⟩ := hretrying.succeeded habortable (hscenes last List.mem_cons_self) hok
  have hpart : x.2.part tenant
      = ((start.part tenant).withAborted id stop).recounted id last.now :=
    hturned.part
  refine ⟨fun k => ?_, ?_, fun k hk => ?_, fun id' hid => ?_, ?_, fun t ht => ?_, ?_⟩
  · rw [hpart, hgoalPart, Partition.afterAbort, Partition.records_recounted,
      Partition.records_recounted]
    exact Partition.map_status_withAborted ..
  · have hmeant := Partition.get?_recounted_withAborted hd unfinished ideal.now ideal.now
    rw [hgoalPart]
    refine ⟨_, hmeant, rfl, ?_⟩
    rw [hpart, Partition.get?_recounted_withAborted hd unfinished,
      Partition.tallyOf_withAborted _ _ stop ideal.now]
  · rw [hpart, Partition.records_recounted]
    exact Partition.get?_withAborted_of_ne hconsistent.keyed hk stop
  · rw [hpart, Partition.get?_recounted, if_neg fun he => hid he.symm]
    rfl
  · rw [hpart, Partition.recounted]
    split <;> rfl
  · exact hturned.part_of_ne ht
  · exact hturned.trail

/-- The last write of an abort fails once. With no other failure planned the second attempt
succeeds. -/
theorem abort_retries_sample :
    let start := sampleWorld.run (sampleSteps.take 1)
    let failing := start.withFaults
      [{ target := "update_stats_and_finish_deployment", detail := "full" }]
    let x := (failing.run [(sampleScene, .abort "update")]).perform sampleScene (.abort "update")
    x.1 = .ok () ∧ (∃ d, (x.2.part "").deployments.get? "update" = some d ∧ d.isFinished = true) ∧
      x.2.trail = start.trail ++ [.of {} (.ofUnix 0) .deploymentAborted "update"] := by
  intro start failing x
  have hbounded : ∀ step ∈ sampleSteps.take 1, step.2.Bounded step.1 := fun step hstep =>
    admissible_sampleSteps.forall_bounded step (List.mem_of_mem_take hstep)
  have hfirst : (failing.perform sampleScene (.abort "update")).1
      = .error (.store "updating deployment stats and finish time" ⟨.io, "full"⟩) := rfl
  obtain ⟨d, hd, unfinished⟩ : ∃ d, (start.part "").deployments.get? "update" = some d ∧
      d.isFinished = false :=
    ⟨_, rfl, rfl⟩
  have hretries := fun attempts => abort_retries (w := sampleWorld) rfl FaultPlan.sparesStore_nil
    (sampleSteps.take 1) hbounded hd unfinished failing.faults attempts sampleScene sampleScene
  have hok : x.1 = .ok () := by
    cases hx : x.1 with
    | ok u => rfl
    | error e =>
      -- Two failed attempts would use up two failures.
      obtain ⟨-, hlength, -⟩ := hretries [sampleScene, sampleScene] (by decide) (by
        intro a ha
        rcases List.mem_cons.1 ha with rfl | ha
        · exact ⟨_, hfirst⟩
        · rw [List.mem_singleton.1 ha]
          exact ⟨e, hx⟩)
      exact absurd hlength (by decide)
  obtain ⟨-, -, -, hx⟩ := hretries [sampleScene] (by decide) (by
    intro a ha
    rw [List.mem_singleton.1 ha]
    exact ⟨_, hfirst⟩)
  obtain ⟨-, ⟨g, -, -, hg⟩, -, -, -, -, htrail⟩ := hx hok
  exact ⟨hok, ⟨_, hg, rfl⟩, htrail⟩

end World

end Fleet
