import Fleet.Proofs.Model.Runs
import Fleet.Proofs.Store.Sessions

/-!
# `Fleet.Proofs.Model.Agreement`: operations over two data stores

Two worlds are `Alike` if their stores are in related states and all else is equal. `Agree`
compares one computation over two stores: from worlds that are alike it comes to the same
answer or the same error, and to worlds that are alike. What an answer has in any case is
carried along, since some of it is written to the store later.

If the relation between the stores is one under which storable calls get the same answers
(`DataStore.Simulates`), every operation agrees in a scene whose time and catalog can be
stored: all that it writes is storable. It does not matter which faults are planned.
-/

set_option autoImplicit false

namespace Fleet

open Fleet.Time

/-- Two worlds with related stores in which all else is equal. -/
structure World.Alike {σ τ ω : Type} (R : σ → τ → Prop) (w : World σ ω) (v : World τ ω) :
    Prop where
  store : R w.store v.store
  objects : w.objects = v.objects
  faults : w.faults = v.faults
  journal : w.journal = v.journal
  trail : w.trail = v.trail

namespace World.Alike

variable {σ τ ω : Type} {R : σ → τ → Prop} {w : World σ ω} {v : World τ ω}

/-- Worlds that are alike stay so when both note the same call. -/
theorem noted (h : Alike R w v) (c : StoreCall) : Alike R (w.noted c) (v.noted c) := by
  rw [World.noted, World.noted]
  split
  · exact ⟨h.store, h.objects, h.faults, congrArg (· ++ [c]) h.journal, h.trail⟩
  · exact h

/-- A call that a fault strikes reaches neither store, any other call reaches both. -/
theorem callStore [DataStore σ] [DataStore τ] (h : Alike R w v) {tenant : TenantId}
    {c : StoreCall}
    (hcall : (DataStore.run tenant c w.store).1 = (DataStore.run tenant c v.store).1 ∧
      R (DataStore.run tenant c w.store).2 (DataStore.run tenant c v.store).2) :
    (w.callStore tenant c).1 = (v.callStore tenant c).1 ∧
      Alike R (w.callStore tenant c).2 (v.callStore tenant c).2 := by
  have hnoted := h.noted c
  obtain ⟨hanswer, hstore⟩ := hcall
  rw [World.callStore, World.callStore, h.faults]
  dsimp only
  -- The plans of faults are equal, so a fault strikes both calls or none.
  cases (FaultPlan.strike c.name v.faults).1 with
  | some f =>
    exact ⟨rfl, hnoted.store, hnoted.objects, rfl, hnoted.journal, hnoted.trail⟩
  | none =>
    dsimp only
    rw [store_noted, store_noted]
    exact ⟨hanswer, hstore, hnoted.objects, rfl, hnoted.journal, hnoted.trail⟩

end World.Alike

namespace ModelM

/-- A computation over one store and one over another come to the same in worlds that are alike.
An answer satisfies `P`. -/
def Agree {σ τ ω α : Type} (R : σ → τ → Prop) (scene : Scene) (m₁ : ModelM σ ω α)
    (m₂ : ModelM τ ω α) (P : α → Prop) : Prop :=
  ∀ w v, World.Alike R w v → ∃ x w' v', m₁ scene w = (x, w') ∧ m₂ scene v = (x, v') ∧
    World.Alike R w' v' ∧ ∀ a, x = .ok a → P a

namespace Agree

variable {σ τ ω α β : Type} {R : σ → τ → Prop} {scene : Scene}

/-- The same answer agrees, with all that it has. -/
theorem pure {P : α → Prop} {a : α} (h : P a) :
    Agree R scene (Pure.pure a : ModelM σ ω α) (Pure.pure a) P := by
  intro w v halike
  refine ⟨.ok a, w, v, rfl, rfl, halike, fun b hb => ?_⟩
  cases hb
  exact h

/-- The same error agrees. Nothing is asked of an answer that is not given. -/
theorem throw {P : α → Prop} (e : ModelError) :
    Agree R scene (throw e : ModelM σ ω α) (throw e) P := by
  intro w v halike
  exact ⟨.error e, w, v, rfl, rfl, halike, fun b hb => by cases hb⟩

/-- Computations in a row agree if each does, and the second may rely on what the answer of the
first has. -/
theorem bind {P : α → Prop} {Q : β → Prop} {m₁ : ModelM σ ω α} {m₂ : ModelM τ ω α}
    {f₁ : α → ModelM σ ω β} {f₂ : α → ModelM τ ω β} (hm : Agree R scene m₁ m₂ P)
    (hf : ∀ a, P a → Agree R scene (f₁ a) (f₂ a) Q) :
    Agree R scene (m₁ >>= f₁) (m₂ >>= f₂) Q := by
  intro w v halike
  obtain ⟨x, w', v', hw, hv, halike', hP⟩ := hm w v halike
  cases x with
  | error e =>
    refine ⟨.error e, w', v', bind_error hw, bind_error hv, halike', ?_⟩
    intro b hb
    cases hb
  | ok a =>
    rw [bind_ok hw, bind_ok hv]
    exact hf a (hP a rfl) w' v' halike'

/-- The scene is the same for both worlds. -/
theorem read : Agree R scene (read : ModelM σ ω Scene) read (· = scene) := by
  intro w v halike
  refine ⟨.ok scene, w, v, rfl, rfl, halike, fun b hb => ?_⟩
  cases hb
  rfl

/-- Computations that decide alike agree if those of each branch do. -/
theorem ite {P : α → Prop} {c : Prop} [Decidable c] {m₁ m₁' : ModelM σ ω α}
    {m₂ m₂' : ModelM τ ω α} (h : c → Agree R scene m₁ m₂ P)
    (h' : ¬c → Agree R scene m₁' m₂' P) :
    Agree R scene (if c then m₁ else m₁') (if c then m₂ else m₂') P := by
  split
  · next hc => exact h hc
  · next hc => exact h' hc

/-- A computation that goes on unless it is stopped by an error. -/
theorem stopIf {P : β → Prop} {c : Prop} [Decidable c] {e : ModelError} {f₁ : Unit → ModelM σ ω β}
    {f₂ : Unit → ModelM τ ω β} (h : ¬c → Agree R scene (f₁ ()) (f₂ ()) P) :
    Agree R scene (if c then MonadExcept.throw e >>= f₁ else f₁ ())
      (if c then MonadExcept.throw e >>= f₂ else f₂ ()) P :=
  .ite (fun _ => .bind (throw (P := fun _ => False) e) fun _ hnever => hnever.elim) h

/-! ### Questions -/

/-- A check does not look at the world, so it agrees. -/
theorem accept (r : Except ValidationError Unit) :
    Agree R scene (accept r : ModelM σ ω Unit) (accept r) fun _ => True := by
  cases r with
  | ok => exact .pure trivial
  | error e => exact .throw _

/-- An event is recorded in both trails. -/
theorem emit (kind : AuditKind) (id : DeploymentId) (details : AuditEvent → AuditEvent) :
    Agree R scene (emit kind id details : ModelM σ ω Unit) (emit kind id details)
      fun _ => True := by
  intro w v halike
  refine ⟨.ok (), _, _, rfl, rfl, ⟨halike.store, halike.objects, halike.faults, halike.journal, ?_⟩,
    fun _ _ => trivial⟩
  exact congrArg (· ++ _) halike.trail

/-- A collaborator other than the store answers the same, or the same fault strikes it. -/
theorem consult {P : α → Prop} (target : String) (failure : String → ModelError) {a : α}
    (h : P a) :
    Agree R scene (consult target failure a : ModelM σ ω α) (consult target failure a) P := by
  intro w v halike
  have hfaults := halike.faults
  rw [ModelM.consult, ModelM.consult, hfaults]
  dsimp only
  cases (FaultPlan.strike target v.faults).1 with
  | none =>
    exact ⟨.ok a, _, _, rfl, rfl,
      ⟨halike.store, halike.objects, rfl, halike.journal, halike.trail⟩, fun b hb => by
        cases hb
        exact h⟩
  | some f =>
    exact ⟨.error _, _, _, rfl, rfl,
      ⟨halike.store, halike.objects, rfl, halike.journal, halike.trail⟩, fun b hb => by cases hb⟩

/-- A link is issued by the same service over the same network. -/
theorem downloadLink [LinkIssuer ω] (activity path filename : String) :
    Agree R scene (downloadLink activity path filename : ModelM σ ω Link)
      (downloadLink activity path filename) fun _ => True := by
  intro w v halike
  have hobjects := halike.objects
  rw [ModelM.downloadLink, ModelM.downloadLink, hobjects]
  exact ⟨_, _, _, rfl, rfl, ⟨halike.store, rfl, halike.faults, halike.journal, halike.trail⟩,
    fun _ _ => trivial⟩

variable [DataStore σ] [DataStore τ]

/-- One call, if it gets the same answer in related states and leads to related states. -/
theorem of_call {c : StoreCall}
    (hcall : ∀ s t, R s t → (DataStore.run scene.ctx.partition c s).1
      = (DataStore.run scene.ctx.partition c t).1 ∧
        R (DataStore.run scene.ctx.partition c s).2 (DataStore.run scene.ctx.partition c t).2) :
    Agree R scene (tryStore c : ModelM σ ω _) (tryStore c) fun _ => True := by
  intro w v halike
  obtain ⟨hanswer, halike'⟩ := halike.callStore (hcall w.store v.store halike.store)
  refine ⟨.ok (w.callStore scene.ctx.partition c).1, _, _, rfl, ?_, halike', fun _ _ => trivial⟩
  rw [hanswer]
  rfl

variable (hR : DataStore.Simulates R)
include hR

/-- A storable call gets the same answer from both stores, or the same error. -/
theorem tryStore {c : StoreCall} (hc : c.Storable) :
    Agree R scene (tryStore c : ModelM σ ω _) (tryStore c) fun _ => True :=
  of_call fun s t h => hR s t h _ c hc

/-- A storable call gets the same answer from both stores, or ends both operations with the same
error. -/
theorem askStore (activity : String) {c : StoreCall} (hc : c.Storable) :
    Agree R scene (askStore activity c : ModelM σ ω _) (askStore activity c) fun _ => True := by
  refine .bind (tryStore hR hc) fun answer _ => ?_
  cases answer with
  | ok a => exact .pure trivial
  | error e => exact .throw _

end Agree

end ModelM

end Fleet
