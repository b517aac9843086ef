import Fleet.Model.Run
import Fleet.Store.Memory

/-!
# `Fleet.Proofs.Model.Execution`: running operations step by step

An operation is a chain of questions to collaborators. `bind_ok` and `bind_error` run the
first question of a chain. Over a data store of tables a question has one of two outcomes:

* `askStore_ok`: the store answers. The world takes a `turn`: the tenant has another part,
  the journal names the call if it may change the store, the trail has the given events.
* `Consults`: the catalog or the inventory is asked. It gives the answer that the scene
  determines, or a fault strikes and the operation ends with the collaborator's error. Only
  the plan of faults changes, and not for calls of the data store (`FaultPlan.Consulted`).

`FaultPlan.SparesStore` says that no planned fault names a call of the data store. Faults of
the other collaborators are free.
-/

set_option autoImplicit false

namespace Fleet

/-! ### Faults that leave the data store alone -/

/-- The data store shares no name of a call with the catalog and the inventory. -/
theorem StoreCall.name_ne {target : String}
    (h : target ∈ ["image_by_name_and_device_type", "image_by_ids_and_device_type",
      "images_by_name", "device_type", "devices_in_group"]) (c : StoreCall) :
    c.name ≠ target := by
  rintro rfl
  cases c <;> simp [name] at h

namespace FaultPlan

/-- No fault of the plan is for a call of the data store. -/
def SparesStore (plan : FaultPlan) : Prop := ∀ f ∈ plan, ∀ c : StoreCall, f.target ≠ c.name

/-- Without planned faults the store is spared. -/
theorem sparesStore_nil : SparesStore [] := fun _ hf => absurd hf List.not_mem_nil

/-- A call that no fault names passes, and the plan stays. -/
theorem strike_of_forall_ne {plan : FaultPlan} {target : String}
    (h : ∀ f ∈ plan, f.target ≠ target) : strike target plan = (none, plan) := by
  induction plan with
  | nil => rfl
  | cons f rest ih =>
    have hf : f.target ≠ target := h f List.mem_cons_self
    rw [strike, if_neg (fun hc => hf hc.1), if_neg (fun hc => hf hc.1),
      ih fun g hg => h g (List.mem_cons_of_mem _ hg)]

/-- A call counts faults down, it never gives one another name. -/
theorem map_target_strike (target : String) (plan : FaultPlan) :
    (strike target plan).2.map (·.target) = plan.map (·.target) := by
  induction plan with
  | nil => rfl
  | cons f rest ih =>
    rw [strike]
    split
    · exact congrArg (f.target :: ·) ih
    · split
      · rfl
      · exact congrArg (f.target :: ·) ih

/-- A call does not change what strikes calls of another name. -/
theorem strike_strike_of_ne {t t' : String} (h : t ≠ t') (plan : FaultPlan) :
    (strike t (strike t' plan).2).1 = (strike t plan).1 := by
  induction plan with
  | nil => rfl
  | cons f rest ih =>
    by_cases hf : f.target = t
    · -- The other call passes over this fault.
      have hf' : f.target ≠ t' := by
        rw [hf]
        exact h
      rw [strike, if_neg (fun hc => hf' hc.1), if_neg (fun hc => hf' hc.1)]
      dsimp only
      rw [strike, strike]
      split
      · exact ih
      · split
        · rfl
        · exact ih
    · -- Whatever the other call makes of this fault, it is none for this call.
      have hskip (g : Fault) (hg : g.target = f.target) (tail : FaultPlan) :
          (strike t (g :: tail)).1 = (strike t tail).1 := by
        have hg' : g.target ≠ t := by
          rw [hg]
          exact hf
        rw [strike, if_neg (fun hc => hg' hc.1), if_neg (fun hc => hg' hc.1)]
      rw [hskip f rfl, strike.eq_def t']
      dsimp only
      split
      · exact (hskip { f with after := f.after - 1 } rfl _).trans ih
      · split
        · exact hskip { f with times := f.times - 1 } rfl rest
        · exact (hskip f rfl _).trans ih

/-- A fault that strikes is taken off the plan, so the store is spared further on. -/
theorem SparesStore.strike {plan : FaultPlan} (h : plan.SparesStore) (target : String) :
    SparesStore (FaultPlan.strike target plan).2 := by
  intro f hf c
  have hmem : f.target ∈ plan.map (·.target) := by
    rw [← map_target_strike target plan]
    exact List.mem_map_of_mem hf
  obtain ⟨g, hg, hgf⟩ := List.mem_map.1 hmem
  rw [← hgf]
  exact h g hg c

/-- What calls of other collaborators than the data store leave of a plan. -/
inductive Consulted (plan : FaultPlan) : FaultPlan → Prop where
  | refl : Consulted plan plan
  | strike {plan' : FaultPlan} (h : Consulted plan plan') {target : String}
      (other : ∀ c : StoreCall, c.name ≠ target) :
      Consulted plan (FaultPlan.strike target plan').2

namespace Consulted

variable {plan plan' plan'' : FaultPlan}

/-- A plan that is consulted twice has been consulted. -/
theorem trans (h : Consulted plan plan') (h' : Consulted plan' plan'') :
    Consulted plan plan'' := by
  induction h' with
  | refl => exact h
  | strike _ other ih => exact ih.strike other

/-- A plan that was consulted spares the store if it did before. -/
theorem spares (h : Consulted plan plan') (hspares : plan.SparesStore) : plan'.SparesStore := by
  induction h with
  | refl => exact hspares
  | strike _ other ih => exact ih.strike _

/-- Where no fault is planned, none is left. -/
theorem eq_nil (h : Consulted [] plan) : plan = [] := by
  induction h with
  | refl => rfl
  | strike _ other ih => rw [ih, strike_nil]

/-- A plan that still has faults after it was consulted had some before. -/
theorem ne_nil (h : Consulted plan plan') (hleft : plan' ≠ []) : plan ≠ [] := by
  rintro rfl
  exact hleft h.eq_nil

/-- A call of the data store is struck as before. -/
theorem strike_name (h : Consulted plan plan') (c : StoreCall) :
    (FaultPlan.strike c.name plan').1 = (FaultPlan.strike c.name plan).1 := by
  induction h with
  | refl => rfl
  | strike _ other ih => rw [strike_strike_of_ne (other c), ih]

end Consulted

end FaultPlan

/-- The errors that speak of a broken store: of its own, of counters that do not fit, and of a
deployment taken back. -/
def ModelError.isBookkeeping : ModelError → Bool
  | .store .. | .stats _ | .createRolledBack .. => true
  | _ => false

namespace World

variable {ω : Type}

/-- To enter a call in the journal does nothing to the store. -/
@[simp] theorem store_noted {σ : Type} (w : World σ ω) (c : StoreCall) :
    (w.noted c).store = w.store := by
  rw [noted]
  split <;> rfl

/-- What a tenant has stored. -/
def part (w : World MemoryStore ω) (tenant : TenantId) : Partition := w.store.partition tenant

/-- What the part of the tenant answers is the answer of the data store. -/
theorem run_store {w : World MemoryStore ω} {tenant : TenantId} {c : StoreCall} {a : c.Answer}
    {p : Partition} (h : (w.part tenant).run c = .ok (a, p)) :
    DataStore.run tenant c w.store = (.ok a, w.store.withPartition tenant p) := by
  rw [part] at h
  simp only [DataStore.run, h]

/-- A call that the part of its tenant refuses leaves the store as it was. -/
theorem run_store_error {w : World MemoryStore ω} {tenant : TenantId} {c : StoreCall}
    {e : StoreError} (h : (w.part tenant).run c = .error e) :
    DataStore.run tenant c w.store = (.error e, w.store) := by
  rw [part] at h
  simp only [DataStore.run, h]

/-- The world after store calls that gave a tenant another part, and after events. -/
def turn (w : World MemoryStore ω) (tenant : TenantId) (p : Partition) (calls : List StoreCall)
    (events : List AuditEvent) : World MemoryStore ω :=
  { w with
    store := w.store.withPartition tenant p
    journal := w.journal ++ calls.filter (·.isMutating)
    trail := w.trail ++ events }

/-- The world with another plan of faults. -/
def withFaults (w : World MemoryStore ω) (plan : FaultPlan) : World MemoryStore ω :=
  { w with faults := plan }

/-- The world with another object storage. -/
def withObjects (w : World MemoryStore ω) (o : ω) : World MemoryStore ω :=
  { w with objects := o }

variable (w : World MemoryStore ω) (tenant : TenantId) (p p' : Partition)
  (calls calls' : List StoreCall) (events events' : List AuditEvent)

/-- After a turn the tenant has the part that it took the turn to. -/
@[simp] theorem part_turn : (w.turn tenant p calls events).part tenant = p :=
  MemoryStore.partition_withPartition_self _ _ _

/-- The plan of faults has nothing to do with what is stored. -/
@[simp] theorem part_withFaults (plan : FaultPlan) (t : TenantId) :
    (w.withFaults plan).part t = w.part t :=
  rfl

/-- The plan that was put in is the one that is there. -/
@[simp] theorem faults_withFaults (plan : FaultPlan) : (w.withFaults plan).faults = plan := rfl

/-- Two turns of one tenant are one. -/
@[simp] theorem turn_turn : (w.turn tenant p calls events).turn tenant p' calls' events'
    = w.turn tenant p' (calls ++ calls') (events ++ events') := by
  rw [turn, turn, turn]
  simp only [MemoryStore.withPartition_withPartition, List.filter_append, List.append_assoc]

/-- Before anything happened the world has taken an empty turn. -/
theorem eq_turn {w : World MemoryStore ω} {tenant : TenantId} {p : Partition}
    (h : w.part tenant = p) : w = w.turn tenant p [] [] := by
  rw [turn, ← h, part, MemoryStore.withPartition_partition, List.filter_nil, List.append_nil,
    List.append_nil]

/-- To enter a call in the journal is a turn that changes nothing else. -/
theorem noted_eq_turn (w : World MemoryStore ω) (tenant : TenantId) (c : StoreCall) :
    w.noted c = w.turn tenant (w.part tenant) [c] [] := by
  rw [noted, turn, part, MemoryStore.withPartition_partition, List.append_nil]
  by_cases hc : c.isMutating = true
  · rw [if_pos hc, List.filter_cons_of_pos hc, List.filter_nil]
  · rw [if_neg hc, List.filter_cons_of_neg hc, List.filter_nil, List.append_nil]

end World

namespace ModelM

/-! ### The first question of a chain -/

section

variable {σ ω α β : Type} {m : ModelM σ ω α} {f : α → ModelM σ ω β} {scene : Scene}
  {w w' : World σ ω}

/-- A computation goes on after a question that is answered, from the world that the question
leaves. -/
theorem bind_ok {a : α} (h : m scene w = (.ok a, w')) : (m >>= f) scene w = f a scene w' := by
  show ExceptT.bindCont (fun a => f a scene) (m scene w).1 (m scene w).2 = _
  rw [h]
  rfl

/-- A question that fails ends the computation, in the world that the question leaves. -/
theorem bind_error {e : ModelError} (h : m scene w = (.error e, w')) :
    (m >>= f) scene w = (.error e, w') := by
  show ExceptT.bindCont (fun a => f a scene) (m scene w).1 (m scene w).2 = _
  rw [h]
  rfl

/-- An answer leaves the world as it is. -/
theorem pure_run (a : α) : (pure a : ModelM σ ω α) scene w = (.ok a, w) := rfl

/-- An error leaves the world as it is. -/
theorem throw_run (e : ModelError) : (throw e : ModelM σ ω α) scene w = (.error e, w) := rfl

/-- Looking at the scene leaves the world as it is. -/
theorem read_run : (read : ModelM σ ω Scene) scene w = (.ok scene, w) := rfl

/-- A check that passes leaves the world as it is. -/
theorem accept_ok {r : Except ValidationError Unit} (h : r = .ok ()) :
    (accept r : ModelM σ ω Unit) scene w = (.ok (), w) := by
  rw [h]
  rfl

/-- A check that is broken ends the computation with its rule and leaves the world as it is. -/
theorem accept_error {r : Except ValidationError Unit} {e : ValidationError}
    (h : r = .error e) : (accept r : ModelM σ ω Unit) scene w = (.error (.validation e), w) := by
  rw [h]
  rfl

end

/-! ### Questions to a data store of tables -/

section

variable {ω : Type} {scene : Scene} {w : World MemoryStore ω}

/-- An operation starts as an empty turn. -/
theorem of_turn {α : Type} {m : ModelM MemoryStore ω α} {p : Partition}
    {x : Except ModelError α × World MemoryStore ω} (hp : w.part scene.ctx.partition = p)
    (h : m scene (w.turn scene.ctx.partition p [] []) = x) : m scene w = x :=
  (congrArg (m scene) (World.eq_turn hp)).trans h

/-- A call that no fault strikes is answered by the part of the tenant. -/
theorem callStore_ok {c : StoreCall} {a : c.Answer} {p : Partition} {tenant : TenantId}
    (hfaults : w.faults.SparesStore) (h : (w.part tenant).run c = .ok (a, p)) :
    w.callStore tenant c = (.ok a, w.turn tenant p [c] []) := by
  have hstrike : FaultPlan.strike c.name w.faults = (none, w.faults) :=
    FaultPlan.strike_of_forall_ne fun f hf => hfaults f hf c
  rw [World.callStore, hstrike, World.noted_eq_turn w tenant c]
  dsimp only [World.turn]
  rw [World.part, MemoryStore.withPartition_partition, World.run_store h]

/-- A call that no fault strikes and the part refuses is noted, and that is all. -/
theorem callStore_error {c : StoreCall} {e : StoreError} {p : Partition} {tenant : TenantId}
    (hfaults : w.faults.SparesStore) (hp : w.part tenant = p) (h : p.run c = .error e) :
    w.callStore tenant c = (.error e, w.turn tenant p [c] []) := by
  have hstrike : FaultPlan.strike c.name w.faults = (none, w.faults) :=
    FaultPlan.strike_of_forall_ne fun f hf => hfaults f hf c
  rw [← hp] at h ⊢
  rw [World.callStore, hstrike, World.noted_eq_turn w tenant c]
  dsimp only [World.turn]
  rw [World.part, MemoryStore.withPartition_partition, World.run_store_error h]

/-- A further call in a turn. -/
theorem tryStore_ok {c : StoreCall} {a : c.Answer} {p p' : Partition} {calls : List StoreCall}
    {events : List AuditEvent} (hfaults : w.faults.SparesStore) (h : p.run c = .ok (a, p')) :
    (tryStore c : ModelM MemoryStore ω _) scene (w.turn scene.ctx.partition p calls events)
      = (.ok (.ok a), w.turn scene.ctx.partition p' (calls ++ [c]) events) := by
  have hcall : (w.turn scene.ctx.partition p calls events).callStore scene.ctx.partition c
      = (.ok a, (w.turn scene.ctx.partition p calls events).turn scene.ctx.partition p' [c] []) :=
    callStore_ok hfaults (by rw [World.part_turn]; exact h)
  rw [tryStore, hcall, World.turn_turn, List.append_nil]

/-- A call that the part answers takes a turn: the part is the new one, and the journal names the
call. -/
theorem askStore_ok {c : StoreCall} {a : c.Answer} {p p' : Partition} {calls : List StoreCall}
    {events : List AuditEvent} (activity : String) (hfaults : w.faults.SparesStore)
    (h : p.run c = .ok (a, p')) :
    (askStore activity c : ModelM MemoryStore ω _) scene
        (w.turn scene.ctx.partition p calls events)
      = (.ok a, w.turn scene.ctx.partition p' (calls ++ [c]) events) := by
  rw [askStore, bind_ok (tryStore_ok hfaults h)]
  rfl

/-- A call that the part refuses ends the operation. -/
theorem askStore_error {c : StoreCall} {e : StoreError} {p : Partition} {calls : List StoreCall}
    {events : List AuditEvent} (activity : String) (hfaults : w.faults.SparesStore)
    (h : p.run c = .error e) :
    (askStore activity c : ModelM MemoryStore ω _) scene
        (w.turn scene.ctx.partition p calls events)
      = (.error (.store activity e), w.turn scene.ctx.partition p (calls ++ [c]) events) := by
  have hcall : (w.turn scene.ctx.partition p calls events).callStore scene.ctx.partition c
      = (.error e, (w.turn scene.ctx.partition p calls events).turn scene.ctx.partition p [c] []) :=
    callStore_error hfaults (World.part_turn ..) h
  have htry : (tryStore c : ModelM MemoryStore ω _) scene
      (w.turn scene.ctx.partition p calls events)
        = (.ok (.error e), w.turn scene.ctx.partition p (calls ++ [c]) events) := by
    rw [tryStore, hcall, World.turn_turn, List.append_nil]
  rw [askStore, bind_ok htry]
  rfl

/-- A call that changes nothing leaves the world as it is. -/
theorem askStore_read {c : StoreCall} {a : c.Answer} {p : Partition} (activity : String)
    (hfaults : w.faults.SparesStore) (hp : w.part scene.ctx.partition = p)
    (hc : c.isMutating = false) (h : p.run c = .ok (a, p)) :
    (askStore activity c : ModelM MemoryStore ω _) scene w = (.ok a, w) := by
  -- The journal leaves such calls out.
  have hturn : w.turn scene.ctx.partition p [c] [] = w := by
    refine Eq.trans ?_ (World.eq_turn hp).symm
    rw [World.turn, World.turn, List.filter_cons_of_neg (by rw [hc]; exact Bool.false_ne_true)]
  have hask : (askStore activity c : ModelM MemoryStore ω _) scene
      (w.turn scene.ctx.partition p [] []) = (.ok a, w.turn scene.ctx.partition p [c] []) :=
    askStore_ok activity hfaults h
  rwa [hturn, ← World.eq_turn hp] at hask

/-- A further event in a turn. -/
theorem emit_run {p : Partition} {calls : List StoreCall} {events : List AuditEvent}
    (kind : AuditKind) (id : DeploymentId) (details : AuditEvent → AuditEvent) :
    (emit kind id details : ModelM MemoryStore ω Unit) scene
        (w.turn scene.ctx.partition p calls events)
      = (.ok (), w.turn scene.ctx.partition p calls
          (events ++ [details (.of scene.ctx scene.now kind id)])) := by
  rw [emit, World.turn, World.turn, ← List.append_assoc]

end

/-! ### Questions to the catalog and the inventory -/

/-- The error of a failed catalog or inventory. -/
def IsCollaboratorError : ModelError → Prop
  | .catalog .. | .inventory .. => True
  | _ => False

/-- The failure of a collaborator does not speak of a broken store. -/
theorem IsCollaboratorError.isBookkeeping {e : ModelError} (h : IsCollaboratorError e) :
    e.isBookkeeping = false := by
  cases e <;> first | rfl | exact h.elim

/-- A computation that asks the catalog and the inventory only: it gives the answer `a` unless
one of them fails by a planned fault, and it changes nothing but the plan of faults. -/
def Consults {ω α : Type} (m : ModelM MemoryStore ω α) (scene : Scene) (a : α) : Prop :=
  ∀ w : World MemoryStore ω, ∃ plan : FaultPlan, w.faults.Consulted plan ∧
    (m scene w = (.ok a, w.withFaults plan) ∨
      w.faults ≠ [] ∧ ∃ e, IsCollaboratorError e ∧ m scene w = (.error e, w.withFaults plan))

namespace Consults

variable {ω α β : Type} {scene : Scene}

/-- An answer consults nobody. -/
theorem of_pure (a : α) : Consults (pure a : ModelM MemoryStore ω α) scene a :=
  fun w => ⟨w.faults, .refl, .inl rfl⟩

/-- Computations in a row consult if each does, and end with the failure that comes first. -/
theorem bind {m : ModelM MemoryStore ω α} {f : α → ModelM MemoryStore ω β} {a : α} {b : β}
    (hm : Consults m scene a) (hf : Consults (f a) scene b) : Consults (m >>= f) scene b := by
  intro w
  obtain ⟨plan, hplan, hok | ⟨hfaults, e, he, herror⟩⟩ := hm w
  · obtain ⟨plan', hplan', hrest⟩ := hf (w.withFaults plan)
    refine ⟨plan', hplan.trans hplan', ?_⟩
    rw [bind_ok hok]
    exact hrest.imp id fun ⟨hfaults', herror⟩ => ⟨hplan.ne_nil hfaults', herror⟩
  · exact ⟨plan, hplan, .inr ⟨hfaults, e, he, bind_error herror⟩⟩

/-- A computation that begins by looking at its scene consults if it does with that scene. -/
theorem of_read {f : Scene → ModelM MemoryStore ω β} {b : β} (h : Consults (f scene) scene b) :
    Consults (read >>= f) scene b :=
  h

/-- A question to a collaborator other than the store consults it: the fault that strikes is none of
the store. -/
theorem of_consult {target : String} (failure : String → ModelError)
    (other : ∀ c : StoreCall, c.name ≠ target)
    (h : ∀ detail, IsCollaboratorError (failure detail)) (a : α) :
    Consults (consult target failure a : ModelM MemoryStore ω α) scene a := by
  intro w
  refine ⟨(FaultPlan.strike target w.faults).2, .strike .refl other, ?_⟩
  cases hstruck : (FaultPlan.strike target w.faults).1 with
  | none =>
    refine .inl ?_
    rw [consult]
    dsimp only
    rw [hstruck]
    rfl
  | some fault =>
    refine .inr ⟨fun hnil => ?_, failure fault.detail, h _, ?_⟩
    · rw [hnil, FaultPlan.strike_nil] at hstruck
      cases hstruck
    · rw [consult]
      dsimp only
      rw [hstruck]
      rfl

/-- Where no fault is planned for the data store, none is planned for it afterwards. -/
theorem outcome {m : ModelM MemoryStore ω α} {a : α} (h : Consults m scene a)
    {w : World MemoryStore ω} (hfaults : w.faults.SparesStore) :
    ∃ plan : FaultPlan, plan.SparesStore ∧
      (m scene w = (.ok a, w.withFaults plan) ∨
        ∃ e, IsCollaboratorError e ∧ m scene w = (.error e, w.withFaults plan)) := by
  obtain ⟨plan, hplan, hrun⟩ := h w
  exact ⟨plan, hplan.spares hfaults, hrun.imp id And.right⟩

variable (scene) (activity : String)

/-- The search for an artifact by name consults the catalog. -/
theorem artifactByName (name deviceType : String) :
    Consults (artifactByName activity name deviceType : ModelM MemoryStore ω _) scene
      (scene.catalog.findByName name deviceType) :=
  of_read (of_consult (.catalog activity) (StoreCall.name_ne (by simp)) (fun _ => trivial) _)

/-- The search for an artifact among given ones consults the catalog. -/
theorem artifactByIds (ids : List ArtifactId) (deviceType : String) :
    Consults (artifactByIds activity ids deviceType : ModelM MemoryStore ω _) scene
      (scene.catalog.findByIds ids deviceType) :=
  of_read (of_consult (.catalog activity) (StoreCall.name_ne (by simp)) (fun _ => trivial) _)

/-- The list of artifacts of a name consults the catalog. -/
theorem artifactsByName (name : String) :
    Consults (artifactsByName activity name : ModelM MemoryStore ω _) scene
      (scene.catalog.allByName name) :=
  of_read (of_consult (.catalog activity) (StoreCall.name_ne (by simp)) (fun _ => trivial) _)

/-- The type of a device consults the inventory. -/
theorem typeOfDevice (device : DeviceId) :
    Consults (typeOfDevice activity device : ModelM MemoryStore ω _) scene
      (scene.inventory.deviceType device) :=
  of_read (of_consult (.inventory activity) (StoreCall.name_ne (by simp)) (fun _ => trivial) _)

/-- The devices of a group consult the inventory. -/
theorem devicesOfGroup (group : String) :
    Consults (devicesOfGroup activity group : ModelM MemoryStore ω _) scene
      (scene.inventory.devicesInGroup group) :=
  of_read (of_consult (.inventory activity) (StoreCall.name_ne (by simp)) (fun _ => trivial) _)

end Consults

end ModelM

end Fleet
