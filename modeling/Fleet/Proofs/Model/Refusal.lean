import Fleet.Proofs.Model.Lasting

/-!
# `Fleet.Proofs.Model.Refusal`: a refused request leaves no trace

An error of an operation is a refusal (`ModelError.IsRefusal`) or speaks of a collaborator that
failed. A caller that is refused may take it that nothing happened: no call that changes the
store was made, the store is as it was, no event was recorded (`World.Untouched`).

`ModelM.Careful` is the statement of a small program logic. A computation refuses only in worlds
that have a property `R`, and its answers have a property `Q`. The rule for a refusal asks for
`R` at that place, the rules for questions say which worlds they lead to. So an operation is
followed along its text from a world that `R` holds of, and each place where it may refuse is
met either while the world is still untouched or not at all.

Of the places that come after a write only one could refuse, the end of a report
(`Careful.finishIfDone`). It looks for the deployment whose counters the report has just moved.
No call of another operation comes in between, so the deployment is there, and `R` is not
needed: `Careful.moveRecord` holds for every `R`, also for the one that no world has.

Nothing is asked of the store before the operation, nor of the plan of faults.
-/

set_option autoImplicit false

namespace Fleet

/-- The errors that speak of the request: it is malformed, does not suit the present state, or
is about something that does not exist. -/
def ModelError.IsRefusal (e : ModelError) : Prop :=
  e.errorClass ∈ [ErrorClass.validation, .conflict, .notFound]

/-- All other errors speak of a collaborator. -/
theorem ModelError.not_isRefusal {e : ModelError} (h : e.errorClass = .internal) :
    ¬e.IsRefusal := by
  simp [ModelError.IsRefusal, h]

namespace World

variable {ω : Type}

/-- No call that may change the store was made between two worlds, and no event recorded. -/
structure Untouched (w w' : World MemoryStore ω) : Prop where
  store : w'.store = w.store
  journal : w'.journal = w.journal
  trail : w'.trail = w.trail

namespace Untouched

variable {w w' w'' : World MemoryStore ω}

/-- A world is untouched as it is. -/
@[simp] theorem refl (w : World MemoryStore ω) : w.Untouched w := ⟨rfl, rfl, rfl⟩

/-- A world that is left untouched twice is untouched. -/
theorem trans (h : w.Untouched w') (h' : w'.Untouched w'') : w.Untouched w'' where
  store := h'.store.trans h.store
  journal := h'.journal.trans h.journal
  trail := h'.trail.trans h.trail

end Untouched

/-- A call that only asks leaves no trace, whether a fault strikes it or not. -/
theorem untouched_callStore (w : World MemoryStore ω) (tenant : TenantId) {c : StoreCall}
    (hc : c.isMutating = false) : w.Untouched (w.callStore tenant c).2 := by
  have hnoted : w.noted c = w := by simp [noted, hc]
  have hstore : (w.callStore tenant c).2.store = w.store := by
    cases hcall : w.callStore tenant c with
    | mk x w' =>
      have houtcome := w.callStore_outcome tenant c
      rw [hcall] at houtcome
      cases houtcome with
      | refused same => exact same
      | answered run stored =>
        rw [Partition.run_of_not_mutating hc run] at stored
        simpa [part] using stored
  refine ⟨hstore, ?_, ?_⟩ <;> simp only [callStore, hnoted] <;> split <;> rfl

end World

namespace ModelM

/-- A computation refuses only in worlds that have a property `R`. Its answer, if there is one,
has a property `Q`. -/
structure Careful {ω α : Type} (R : World MemoryStore ω → Prop) (scene : Scene)
    (w : World MemoryStore ω) (m : ModelM MemoryStore ω α) (Q : α → World MemoryStore ω → Prop) :
    Prop where
  refusal : ∀ e, (m scene w).1 = .error e → e.IsRefusal → R (m scene w).2
  answer : ∀ a, (m scene w).1 = .ok a → Q a (m scene w).2

namespace Careful

variable {ω α β : Type} {R : World MemoryStore ω → Prop} {scene : Scene}
  {w : World MemoryStore ω} {P : α → World MemoryStore ω → Prop}
  {Q : β → World MemoryStore ω → Prop}

/-! ### Rules -/

/-- An answer refuses nothing. -/
theorem pure {a : α} (h : P a w) : Careful R scene w (pure a) P where
  refusal e he := by cases he
  answer b hb := by
    cases hb
    exact h

/-- A refusal needs a world that has the property. -/
theorem refuse {e : ModelError} (h : R w) :
    Careful R scene w (throw e : ModelM MemoryStore ω α) P where
  refusal _ _ _ := h
  answer b hb := by cases hb

/-- An error of a collaborator is none. -/
theorem fail {e : ModelError} (he : e.errorClass = .internal) :
    Careful R scene w (throw e : ModelM MemoryStore ω α) P where
  refusal e' he' hrefusal := by
    cases he'
    exact absurd hrefusal (ModelError.not_isRefusal he)
  answer b hb := by cases hb

/-- Computations in a row are careful if each is, from the worlds that the first one leads to. -/
theorem bind {m : ModelM MemoryStore ω α} {f : α → ModelM MemoryStore ω β}
    (first : Careful R scene w m P) (rest : ∀ a w', P a w' → Careful R scene w' (f a) Q) :
    Careful R scene w (m >>= f) Q := by
  cases hm : m scene w with
  | mk x w' =>
    have hrefusal := first.refusal
    have hanswer := first.answer
    rw [hm] at hrefusal hanswer
    cases x with
    | error e =>
      refine ⟨fun e' he' => ?_, fun b hb => ?_⟩
      · rw [bind_error hm] at he' ⊢
        cases he'
        exact hrefusal e rfl
      · rw [bind_error hm] at hb
        cases hb
    | ok a =>
      have hrest := rest a w' (hanswer a rfl)
      refine ⟨?_, ?_⟩
      · rw [bind_ok hm]
        exact hrest.refusal
      · rw [bind_ok hm]
        exact hrest.answer

/-- What is known of the answers may be said with less detail. -/
theorem mono {P' : α → World MemoryStore ω → Prop} {m : ModelM MemoryStore ω α}
    (h : Careful R scene w m P) (hP : ∀ a w', P a w' → P' a w') : Careful R scene w m P' :=
  ⟨h.refusal, fun a ha => hP a _ (h.answer a ha)⟩

/-- What is answered may be forgotten. -/
theorem forget {m : ModelM MemoryStore ω α} (h : Careful R scene w m P) :
    Careful R scene w m fun _ _ => True :=
  h.mono fun _ _ _ => trivial

/-- A decision is careful if its branches are. -/
theorem ite {c : Prop} [Decidable c] {m m' : ModelM MemoryStore ω α}
    (h : c → Careful R scene w m P) (h' : ¬c → Careful R scene w m' P) :
    Careful R scene w (if c then m else m') P := by
  by_cases hc : c
  · simpa only [if_pos hc] using h hc
  · simpa only [if_neg hc] using h' hc

/-- A computation that goes on unless it refuses. -/
theorem stopIf {c : Prop} [Decidable c] {e : ModelError} {f : Unit → ModelM MemoryStore ω β}
    (hR : R w) (h : Careful R scene w (f ()) Q) :
    Careful R scene w (if c then MonadExcept.throw e >>= f else f ()) Q :=
  .ite (fun _ => .bind (refuse (P := fun _ _ => False) hR) fun _ _ hnever => hnever.elim)
    fun _ => h

/-- A computation that begins by looking at its scene is careful if it is with that scene. -/
theorem of_read {f : Scene → ModelM MemoryStore ω β} (h : Careful R scene w (f scene) Q) :
    Careful R scene w (read >>= f) Q :=
  ⟨h.refusal, h.answer⟩

/-- A check may refuse, so `R` must hold there. It leaves the world as it is. -/
theorem accept (hR : R w) (r : Except ValidationError Unit) :
    Careful R scene w (accept r) fun _ w' => w' = w := by
  cases r with
  | ok u => exact .pure rfl
  | error e => exact .refuse hR

/-- The catalog and the inventory leave no trace, and their failures are no refusals. -/
theorem consult (target : String) {failure : String → ModelError}
    (hfailure : ∀ detail, (failure detail).errorClass = .internal) (a : α) :
    Careful R scene w (consult target failure a) fun b w' => b = a ∧ w.Untouched w' := by
  cases hstruck : (FaultPlan.strike target w.faults).1 with
  | some fault =>
    refine ⟨fun e he hrefusal => ?_, fun b hb => ?_⟩ <;>
      simp only [ModelM.consult, hstruck] at *
    · cases he
      exact absurd hrefusal (ModelError.not_isRefusal (hfailure _))
    · cases hb
  | none =>
    refine ⟨fun e he => ?_, fun b hb => ?_⟩ <;> simp only [ModelM.consult, hstruck] at *
    · cases he
    · cases hb
      exact ⟨rfl, ⟨rfl, rfl, rfl⟩⟩

/-- Recording an event refuses nothing and leaves the store alone. -/
theorem emit (event : AuditKind) (id : DeploymentId) (details : AuditEvent → AuditEvent) :
    Careful R scene w (emit event id details) fun _ w' => w'.store = w.store where
  refusal e he := by cases he
  answer u _ := rfl

/-- The data store fails, it does not refuse. -/
theorem tryStore (c : StoreCall) :
    Careful R scene w (tryStore c) fun x w' =>
      w.CallOutcome scene.ctx.partition c (x, w') ∧
        (c.isMutating = false → w.Untouched w') := by
  cases hcall : w.callStore scene.ctx.partition c with
  | mk x w' =>
    have houtcome := w.callStore_outcome scene.ctx.partition c
    have huntouched := w.untouched_callStore scene.ctx.partition (c := c)
    rw [hcall] at houtcome huntouched
    refine ⟨fun e he => ?_, fun y hy => ?_⟩
    · rw [tryStore_run hcall] at he
      cases he
    · rw [tryStore_run hcall] at hy ⊢
      cases hy
      exact ⟨houtcome, huntouched⟩

/-- A failing call of the store is no refusal. An answered one leads to the part that it leaves. -/
theorem askStore (activity : String) (c : StoreCall) :
    Careful R scene w (askStore activity c) fun a w' =>
      (w.part scene.ctx.partition).run c = .ok (a, w'.part scene.ctx.partition) := by
  refine .bind (tryStore c) fun answer w' ⟨houtcome, _⟩ => ?_
  cases houtcome with
  | refused same => exact .fail rfl
  | answered run stored =>
    refine .pure ?_
    rw [run, World.part, stored, MemoryStore.partition_withPartition_self]

/-- A call that only asks. -/
theorem look (activity : String) {c : StoreCall} (hc : c.isMutating = false) :
    Careful R scene w (ModelM.askStore activity c) fun a w' =>
      (w.part scene.ctx.partition).run c = .ok (a, w'.part scene.ctx.partition) ∧
        w.Untouched w' := by
  have hask : Careful R scene w (ModelM.askStore activity c) fun _ w' => w.Untouched w' := by
    refine .bind (tryStore c) fun answer w' ⟨_, huntouched⟩ => ?_
    cases answer with
    | error e => exact .fail rfl
    | ok a => exact .pure (huntouched hc)
  exact ⟨hask.refusal, fun a ha => ⟨(askStore (R := R) activity c).answer a ha, hask.answer a ha⟩⟩

/-! ### Looking at deployments and stopping them -/

/-- Telling the counters of a deployment refuses nothing. -/
theorem getStats (id : DeploymentId) : Careful R scene w (getStats id) fun _ _ => True := by
  refine .bind (look _ rfl) fun found w' _ => ?_
  cases found with
  | none => exact .pure trivial
  | some d => exact .bind (askStore _ _) fun _ _ _ => .pure trivial

/-- Telling whether a deployment is finished refuses nothing. -/
theorem isFinished (id : DeploymentId) : Careful R scene w (isFinished id) fun _ _ => True :=
  .bind (askStore _ _) fun _ _ _ => .pure trivial

/-- Counting the devices of deployments refuses nothing. -/
theorem recountDevices (l : List Deployment) :
    Careful R scene w (recountDevices l) fun _ _ => True := by
  induction l generalizing w with
  | nil => exact .pure trivial
  | cons d rest ih => exact .bind (askStore _ _) fun _ _ _ => .bind ih fun _ _ _ => .pure trivial

/-- A search may be refused by a rule of queries, before anything is asked. -/
theorem lookup (hR : R w) (q : Query) : Careful R scene w (lookup q) fun _ _ => True :=
  .bind (accept hR _) fun _ _ _ => .bind (askStore _ _) fun found _ _ => recountDevices found

/-- Counting a deployment anew and finishing it refuses nothing. -/
theorem finishRecounted (id : DeploymentId) :
    Careful R scene w (finishRecounted id) fun _ _ => True :=
  .bind (askStore _ _) fun _ _ _ => .of_read (askStore _ _).forget

/-- The property is needed at the look for the deployment only. -/
theorem abort (hR : ∀ w', w.Untouched w' → R w') (id : DeploymentId) :
    Careful R scene w (abort id) fun _ _ => True := by
  refine .bind (look _ rfl) fun found w' ⟨_, huntouched⟩ => ?_
  cases found with
  | none => exact .refuse (hR w' huntouched)
  | some d =>
    refine .stopIf (hR w' huntouched) (.of_read ?_)
    exact .bind (askStore _ _) fun _ _ _ => .bind (finishRecounted id) fun _ _ _ =>
      (emit _ _ _).forget

/-- Counting anew and finishing the deployments of a device refuses nothing. -/
theorem finishWithout (device : DeviceId) (ids : List DeploymentId) :
    Careful R scene w (finishWithout device ids) fun _ _ => True := by
  induction ids generalizing w with
  | nil => exact .pure trivial
  | cons id rest ih =>
    exact .bind (finishRecounted id) fun _ _ _ => .bind (emit _ _ _) fun _ _ _ => ih

/-- Taking a device out of service refuses nothing. -/
theorem decommission (device : DeviceId) :
    Careful R scene w (decommission device) fun _ _ => True :=
  .of_read (.bind (askStore _ _) fun affected _ _ => finishWithout device affected)

/-- Telling the records of a deployment is refused if there is none, before any write. -/
theorem getRecords (hR : ∀ w', w.Untouched w' → R w') (id : DeploymentId) :
    Careful R scene w (getRecords id) fun _ _ => True := by
  refine .bind (look _ rfl) fun found w' ⟨_, huntouched⟩ => ?_
  cases found with
  | none => exact .refuse (hR w' huntouched)
  | some d => exact (askStore _ _).forget

/-! ### Reports -/

/-- The property is not needed if the deployment is there. -/
theorem finishIfDone {id : DeploymentId} {d : Deployment}
    (hd : (w.part scene.ctx.partition).deployments.get? id = some d) :
    Careful R scene w (finishIfDone id) fun _ _ => True := by
  refine .bind (look _ rfl) fun found w' ⟨hrun, _⟩ => ?_
  have hfound : found = some d := by
    rw [← hd]
    exact (Prod.mk.inj (Except.ok.inj hrun)).1.symm
  subst hfound
  exact .ite (fun _ => .of_read (.bind (askStore _ _) fun _ _ _ => (emit _ _ _).forget))
    fun _ => .pure trivial

/-- A report that has begun to write does not refuse any more. -/
theorem moveRecord (id : DeploymentId) (device : DeviceId) (r : StatusReport) :
    Careful R scene w (moveRecord id device r) fun _ _ => True := by
  refine .of_read (.bind (askStore _ _) fun old w₁ _ => ?_)
  refine .bind (askStore _ _) fun u w₂ hmoved => ?_
  refine .bind (emit _ _ _) fun u w₃ hsame => ?_
  -- The counters that have just moved are those of the deployment looked for at the end.
  obtain ⟨d, st, hd, -, hpart⟩ := Partition.of_run_moveDevice hmoved
  have hd₃ : (w₃.part scene.ctx.partition).deployments.get? id = some (d.withStats st) := by
    rw [World.part, hsame, ← World.part, hpart, Partition.get?_withDeployment, if_pos rfl]
  exact finishIfDone hd₃

/-- All refusals of a report come before its first write. -/
theorem report (hR : ∀ w', w.Untouched w' → R w') (id : DeploymentId) (device : DeviceId)
    (r : StatusReport) : Careful R scene w (report id device r) fun _ _ => True := by
  refine .bind (accept (hR w (.refl w)) _) fun _ w₁ hsame => ?_
  subst hsame
  refine .bind (look _ rfl) fun found w₂ ⟨_, huntouched⟩ => ?_
  have hR₂ := hR w₂ huntouched
  cases found with
  | none => exact .refuse hR₂
  | some current =>
    exact .stopIf hR₂ (.stopIf hR₂ (.stopIf hR₂
      (.ite (fun _ => .pure trivial) fun _ => .stopIf hR₂ (moveRecord id device r))))

/-! ### Polls and logs -/

/-- The search for an artifact by name refuses nothing and leaves the world untouched. -/
theorem artifactByName (activity name deviceType : String) :
    Careful R scene w (artifactByName activity name deviceType) fun _ w' => w.Untouched w' :=
  .of_read ((consult _ (fun _ => rfl) _).mono fun _ _ h => h.2)

/-- A record is left alone where no artifact is found for it. -/
theorem reassign (d : Deployment) (r : DeviceRecord) (installed : Installed) :
    Careful R scene w (reassign d r installed) fun a w' => a = none → w.Untouched w' := by
  rw [ModelM.reassign]
  cases (if installed.deviceType.isEmpty then r.deviceType else some installed.deviceType) with
  | none => exact .pure fun _ => .refl w
  | some t =>
    refine .bind (.of_read (consult _ (fun _ => rfl) _)) fun frozen w₁ h₁ => ?_
    cases frozen
    case' some a =>
      refine .bind (P := fun _ w₂ => w₁.Untouched w₂) (.pure (.refl _)) fun found w₂ h₂ => ?_
    case' none => refine .bind (artifactByName _ _ _) fun found w₂ h₂ => ?_
    all_goals
      cases found with
      | none => exact .pure fun _ => h₁.2.trans h₂
      | some a =>
        exact .bind (askStore _ _) fun _ _ _ => .pure fun hnone =>
          absurd hnone (Option.some_ne_none _)

/-- The search for the artifact of a record refuses nothing, and where it finds none it has left the
world untouched. -/
theorem artifactFor (d : Deployment) (r : DeviceRecord) (installed : Installed) :
    Careful R scene w (artifactFor d r installed) fun a w' => a = none → w.Untouched w' := by
  rw [ModelM.artifactFor]
  cases r.artifact with
  | none => exact reassign d r installed
  | some a =>
    exact .ite (fun _ => reassign d r installed) fun _ => .pure fun hnone =>
      absurd hnone (Option.some_ne_none _)

/-- Telling whether there is a record refuses nothing and leaves the world untouched. -/
theorem hasRecord (id : DeploymentId) (device : DeviceId) :
    Careful R scene w (hasRecord id device) fun _ w' => w.Untouched w' :=
  (look _ rfl).mono fun _ _ h => h.2

/-- The property is needed at the check that the device takes part. -/
theorem saveLog (hR : ∀ w', w.Untouched w' → R w') (log : DeploymentLog) :
    Careful R scene w (saveLog log) fun _ _ => True := by
  refine .bind (accept (hR w (.refl w)) _) fun _ w₁ hsame => ?_
  subst hsame
  refine .bind (hasRecord _ _) fun b w₂ huntouched => ?_
  exact .stopIf (hR w₂ huntouched) (.bind (askStore _ _) fun _ _ _ => (askStore _ _).forget)

section

variable [LinkIssuer ω]

/-- The object storage fails, it does not refuse. -/
theorem downloadLink (activity path filename : String) :
    Careful R scene w (downloadLink activity path filename) fun _ _ => True := by
  refine ⟨fun e he hrefusal => ?_, fun _ _ => trivial⟩
  rw [ModelM.downloadLink] at he
  dsimp only at he
  split at he
  · cases he
  · cases he
    exact absurd hrefusal (ModelError.not_isRefusal rfl)

/-- Instructions refuse nothing: a link that is not issued is a failure of the object storage. -/
theorem instruct (id : DeploymentId) (a : Artifact) :
    Careful R scene w (instruct id a) fun _ _ => True :=
  .of_read (.bind (downloadLink _ _ _) fun _ _ _ => .pure trivial)

/-- A poll reports on its own only where nothing was written. -/
theorem poll (hR : ∀ w', w.Untouched w' → R w') (device : DeviceId) (installed : Installed) :
    Careful R scene w (poll device installed) fun _ _ => True := by
  refine .bind (look _ rfl) fun found w₁ ⟨_, h₁⟩ => ?_
  cases found with
  | none => exact .pure trivial
  | some r =>
    refine .bind (look _ rfl) fun found w₂ ⟨_, h₂⟩ => ?_
    cases found with
    | none => exact .pure trivial
    | some d =>
      refine .ite (fun _ => ?_) fun _ => ?_
      · refine .bind (report (fun w' h => hR w' ?_) _ _ _) fun _ _ _ => .pure trivial
        exact (h₁.trans h₂).trans h
      · refine .bind (artifactFor d r installed) fun found w₃ h₃ => ?_
        cases found with
        | none =>
          refine .bind (report (fun w' h => hR w' ?_) _ _ _) fun _ _ _ => .pure trivial
          exact ((h₁.trans h₂).trans (h₃ rfl)).trans h
        | some a => exact .bind (instruct d.id a) fun _ _ _ => .pure trivial

end

/-! ### Creations -/

/-- The targets of a plan may be missing, which is told in an untouched world. -/
theorem resolveDevices (hR : ∀ w', w.Untouched w' → R w') (p : Plan) :
    Careful R scene w (resolveDevices p) fun _ w' => w.Untouched w' := by
  rw [ModelM.resolveDevices]
  cases p.target with
  | devices ids =>
    refine .bind (P := fun _ w' => w.Untouched w') (.pure (.refl w)) fun candidates w' h => ?_
    exact .stopIf (hR w' h) (.pure h)
  | group name =>
    refine .bind (.of_read (consult _ (fun _ => rfl) _)) fun candidates w' h => ?_
    exact .stopIf (hR w' h.2) (.pure h.2)

/-- A new record refuses nothing and leaves the world untouched. -/
theorem newRecordFor (d : Deployment) (device : DeviceId) (id : RecordId) :
    Careful R scene w (newRecordFor d device id) fun _ w' => w.Untouched w' := by
  refine .bind (.of_read (consult _ (fun _ => rfl) _)) fun deviceType w₁ ⟨_, h₁⟩ => ?_
  cases deviceType with
  | none => exact .bind (P := fun _ w' => w.Untouched w') (.pure h₁) fun _ _ h => .pure h
  | some t => exact .bind (artifactByName _ _ _) fun _ _ h => .pure (h₁.trans h)

/-- New records refuse nothing and leave the world untouched. -/
theorem newRecords (d : Deployment) (position : Nat) (devices : List DeviceId) :
    Careful R scene w (newRecords d position devices) fun _ w' => w.Untouched w' := by
  induction devices generalizing position w with
  | nil => exact .pure (.refl w)
  | cons device rest ih =>
    exact .of_read (.bind (newRecordFor d device _) fun _ _ h =>
      .bind (ih _) fun _ _ h' => .pure (h.trans h'))

/-- A creation that is taken back speaks of the data store. -/
theorem storeNew (d : Deployment) (records : List DeviceRecord) :
    Careful R scene w (storeNew d records) fun _ _ => True := by
  refine .bind (askStore _ _) fun _ _ _ => .bind (tryStore _) fun answer _ _ => ?_
  cases answer with
  | ok u => exact .pure trivial
  | error cause =>
    refine .bind (tryStore _) fun answer _ _ => ?_
    cases answer with
    | ok u => exact .fail rfl
    | error e => exact .fail rfl

/-- A creation is refused by the rules of plans or for want of targets, before any write. -/
theorem create (hR : ∀ w', w.Untouched w' → R w') (p : Plan) :
    Careful R scene w (create p) fun _ _ => True := by
  refine .bind (accept (hR w (.refl w)) _) fun _ w₁ hsame => ?_
  subst hsame
  refine .bind (resolveDevices hR p) fun devices w₂ _ => .of_read ?_
  refine .bind (.of_read (consult _ (fun _ => rfl) _)) fun artifacts w₃ _ => ?_
  refine .bind (newRecords _ _ _) fun records w₄ _ => ?_
  cases Stats.ofStatuses (records.map (·.status)) with
  | error e => exact .fail rfl
  | ok stats =>
    exact .bind (storeNew _ _) fun _ _ _ => .bind (emit _ _ _) fun _ _ _ =>
      .ite (fun _ => .bind (emit _ _ _) fun _ _ _ => .pure trivial) fun _ => .pure trivial

end Careful

end ModelM

section

variable {ω : Type} [LinkIssuer ω]

/-- Every operation is careful about a property that worlds keep while they are untouched. -/
theorem ModelCall.careful {R : World MemoryStore ω → Prop} {scene : Scene}
    {w : World MemoryStore ω} (hR : ∀ w', w.Untouched w' → R w') (c : ModelCall) :
    ModelM.Careful R scene w c.run fun _ _ => True := by
  cases c with
  | create p => exact .create hR p
  | get id => exact (ModelM.Careful.askStore _ _).forget
  | stats id => exact .getStats id
  | isFinished id => exact .isFinished id
  | lookup q => exact .lookup (hR w (.refl w)) q
  | abort id => exact .abort hR id
  | decommission device => exact .decommission device
  | poll device installed => exact .poll hR device installed
  | report id device r => exact .report hR id device r
  | records id => exact .getRecords hR id
  | hasRecord id device => exact (ModelM.Careful.hasRecord id device).forget
  | saveLog log => exact .saveLog hR log
  | getLog id device => exact (ModelM.Careful.askStore _ _).forget

namespace World

/-- An operation that refuses has made no call that may change the store and recorded no event,
and the store is as before. A report that has begun to write never finds its deployment
missing. Neither asks anything of what is stored. -/
theorem refusals_leave_all (w : World MemoryStore ω) (scene : Scene) :
    (∀ (c : ModelCall) (e : ModelError), (w.perform scene c).1 = .error e → e.IsRefusal →
      (w.perform scene c).2.journal = w.journal ∧ (w.perform scene c).2.store = w.store ∧
        (w.perform scene c).2.trail = w.trail) ∧
    ∀ (id : DeploymentId) (device : DeviceId) (r : StatusReport),
      (ModelM.moveRecord id device r scene w).1 ≠ .error .deploymentNotFound := by
  refine ⟨fun c e he hrefusal => ?_, fun id device r hmissing => ?_⟩
  · have hcareful : ModelM.Careful w.Untouched scene w c.run fun _ _ => True :=
      c.careful fun _ h => h
    have huntouched := hcareful.refusal e he hrefusal
    exact ⟨huntouched.journal, huntouched.store, huntouched.trail⟩
  · -- A property that no world has: the report may refuse nowhere.
    have hcareful : ModelM.Careful (fun _ => False) scene w
        (ModelM.moveRecord id device r) fun _ _ => True := .moveRecord id device r
    exact hcareful.refusal _ hmissing (by simp [ModelError.IsRefusal, ModelError.errorClass])

end World

end

/-- A device that has succeeded reports a failure. -/
theorem World.refusals_leave_all_sample :
    let w := sampleWorld.run sampleSteps
    let x := w.perform sampleScene (.report "update" "left" { status := .failure })
    x.1 = .error (.invalidTransition .success .failure) ∧ x.2.journal = w.journal ∧
      x.2.store = w.store ∧ x.2.trail = w.trail := by
  refine ⟨rfl, (refusals_leave_all (sampleWorld.run sampleSteps) sampleScene).1
    (.report "update" "left" { status := .failure }) _ rfl ?_⟩
  simp [ModelError.IsRefusal, ModelError.errorClass]

end Fleet
