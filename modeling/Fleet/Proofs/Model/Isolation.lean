import Fleet.Proofs.Model.Agreement
import Fleet.Proofs.Model.Questions
import Fleet.Proofs.Model.Refinement
import Fleet.Proofs.Store.Isolation

/-!
# `Fleet.Proofs.Model.Isolation`: tenants of one store do not notice each other

A run is a list of `Act`s, operations and calls of the data store, by any number of tenants. An
act brings all that it meets besides the store: who acts, the time, the catalog, the inventory,
the names to be given, the object storage and the faults. `answers_isolated` compares a run with
the one in which a single tenant acts. It is an induction over the acts with a relation that
isolates the tenant (`DataStore.Isolates`): an act of the tenant is compared with itself
(`Agree.of_asks`), an act of another tenant with nothing (`Asks.keeps`). Operations need no look
at their texts for that, since they are chains of questions (`ModelM.Asks`).

`tenants_isolated` is the main theorem, over stores of tables and stores in files.
-/

set_option autoImplicit false

namespace Fleet

namespace ModelM

variable {σ ω α : Type} [DataStore σ] [LinkIssuer ω] {kind : StoreCall → Prop} {scene : Scene}
  {m : ModelM σ ω α}

/-- A computation agrees with itself under a relation that its calls preserve. -/
theorem Agree.of_asks {R : σ → σ → Prop} (h : Asks kind m)
    (hcall : ∀ c, kind c → ∀ s t, R s t → (DataStore.run scene.ctx.partition c s).1
      = (DataStore.run scene.ctx.partition c t).1 ∧
        R (DataStore.run scene.ctx.partition c s).2 (DataStore.run scene.ctx.partition c t).2) :
    Agree R scene m m fun _ => True := by
  induction h with
  | pure a => exact .pure trivial
  | throw e => exact .throw e
  | read => exact fun w v halike => ⟨.ok scene, w, v, rfl, rfl, halike, fun _ _ => trivial⟩
  | bind first rest ih ih' => exact .bind ih fun a _ => ih' a
  | tryStore hc => exact .of_call (hcall _ hc)
  | consult target failure a => exact .consult target failure trivial
  | downloadLink activity path filename => exact .downloadLink activity path filename
  | emit event id details => exact .emit event id details

/-- What every call of a computation preserves, the computation preserves. -/
theorem Asks.keeps {P : σ → Prop} (h : Asks kind m)
    (hcall : ∀ c, kind c → ∀ s, P s → P (DataStore.run scene.ctx.partition c s).2)
    {w : World σ ω} (hw : P w.store) : P (m scene w).2.store := by
  induction h generalizing w with
  | pure a => exact hw
  | throw e => exact hw
  | read => exact hw
  | @bind _ _ m f first rest ih ih' =>
    have hfirst := ih hw
    cases hm : m scene w with
    | mk x w' =>
      rw [hm] at hfirst
      cases x with
      | error e =>
        rw [bind_error hm]
        exact hfirst
      | ok a =>
        rw [bind_ok hm]
        exact ih' a hfirst
  | @tryStore c hc =>
    -- A call that a fault strikes does not reach the store.
    rw [← w.store_noted c] at hw
    rw [ModelM.tryStore, World.callStore]
    dsimp only
    cases (FaultPlan.strike c.name w.faults).1 with
    | some fault => exact hw
    | none => exact hcall c hc _ hw
  | consult target failure a =>
    rw [ModelM.consult]
    dsimp only
    split <;> exact hw
  | downloadLink activity path filename => exact hw
  | emit event id details => exact hw

end ModelM

/-- Requests without a tenant act for the empty one, all others for their own. -/
theorem Context.partition_eq_iff (ctx : Context) (tenant : TenantId) :
    ctx.partition = tenant ↔ ctx.tenant = some tenant ∨ (ctx.tenant = none ∧ tenant = "") := by
  rw [partition]
  cases ctx.tenant with
  | some t => exact ⟨fun h => .inl (congrArg some h), fun h => h.elim Option.some.inj fun h => by
      cases h.1⟩
  | none => exact ⟨fun h => .inr ⟨rfl, h.symm⟩, fun h => h.elim (fun h => by cases h) (·.2.symm)⟩

/-- What is done with a store: an operation, or a single call. -/
inductive Act (ω : Type) where
  /-- An operation in a scene, with the object storage and the faults that it meets. -/
  | operation (scene : Scene) (objects : ω) (faults : FaultPlan) (c : ModelCall)
  | call (ctx : Context) (c : StoreCall)

namespace Act

variable {σ ω : Type}

/-- The tenant that acts. -/
def tenant : Act ω → TenantId
  | .operation scene .. => scene.ctx.partition
  | .call ctx _ => ctx.partition

/-- What an act is answered. -/
abbrev Answer : Act ω → Type
  | .operation _ _ _ c => Except ModelError c.Answer
  | .call _ c => Except StoreError c.Answer

variable [DataStore σ] [LinkIssuer ω]

/-- The answer to an act on a store, and the store after it. -/
def perform (s : σ) : (a : Act ω) → a.Answer × σ
  | .operation scene objects faults c =>
    let (answer, w) := World.perform { store := s, objects, faults } scene c
    (answer, w.store)
  | .call ctx c => DataStore.run ctx.partition c s

/-- The store after acts. -/
def run (s : σ) (acts : List (Act ω)) : σ := acts.foldl (fun s a => (a.perform s).2) s

/-- What acts are answered, in order. -/
def answers (s : σ) : List (Act ω) → List (Σ a : Act ω, a.Answer)
  | [] => []
  | a :: rest => ⟨a, (a.perform s).1⟩ :: answers (a.perform s).2 rest

/-! ### One act -/

variable {tenant : TenantId} {R : σ → σ → Prop} {s s' : σ} {a : Act ω}

/-- An act of the tenant gets the same answer in related states and leads to related states. -/
theorem perform_own (hR : DataStore.Isolates tenant R) (h : R s s') (ha : a.tenant = tenant) :
    (a.perform s).1 = (a.perform s').1 ∧ R (a.perform s).2 (a.perform s').2 := by
  subst ha
  cases a with
  | call ctx c => exact hR.own h c
  | operation scene objects faults c =>
    -- The two worlds differ in their stores alone.
    have hagree : ModelM.Agree R scene (c.run : ModelM σ ω c.Answer) c.run fun _ => True :=
      .of_asks c.asks fun c _ s t hst => hR.own hst c
    obtain ⟨x, w, w', hw, hw', halike, -⟩ := hagree { store := s, objects, faults }
      { store := s', objects, faults } ⟨h, rfl, rfl, rfl, rfl⟩
    simp only [perform, World.perform, hw, hw']
    exact ⟨trivial, halike.store⟩

/-- An act of another tenant leads to a state that is related to the same ones as before. -/
theorem perform_other (hR : DataStore.Isolates tenant R) (h : R s s') (ha : a.tenant ≠ tenant) :
    R (a.perform s).2 s' := by
  cases a with
  | call ctx c => exact hR.other h ha c
  | operation scene objects faults c =>
    have hkeeps : R ((c.run : ModelM σ ω c.Answer) scene { store := s, objects, faults }).2.store
        s' :=
      c.asks.keeps (P := (R · s')) (fun c _ s hs => hR.other hs ha c) h
    exact hkeeps

/-! ### Runs -/

/-- To a tenant that a relation isolates, a run is the run of the tenant's own acts. -/
theorem answers_isolated (hR : DataStore.Isolates tenant R) (h : R s s') (acts : List (Act ω)) :
    (answers s acts).filter (·.1.tenant = tenant)
      = answers s' (acts.filter (·.tenant = tenant)) ∧
    R (run s acts) (run s' (acts.filter (·.tenant = tenant))) := by
  induction acts generalizing s s' with
  | nil => exact ⟨rfl, h⟩
  | cons a rest ih =>
    by_cases ha : a.tenant = tenant
    -- Both runs make the act, and it cannot tell them apart.
    · obtain ⟨hanswer, hnext⟩ := perform_own hR h ha
      obtain ⟨hanswers, hrun⟩ := ih hnext
      simp only [answers, List.filter_cons, decide_eq_true_eq, if_pos ha]
      rw [hanswer, hanswers]
      exact ⟨rfl, hrun⟩
    -- Only the first run makes the act; the second one stays where it is.
    · obtain ⟨hanswers, hrun⟩ := ih (perform_other hR h ha)
      simp only [answers, List.filter_cons, decide_eq_true_eq, if_neg ha]
      exact ⟨hanswers, hrun⟩

/-- A tenant does not notice what other tenants do with the store: in any run it gets the answers,
and in the end has the deployments, records and logs, of the run in which it acts alone. That
holds for stores of tables, and for stores in files whatever is in them and whenever they are
closed and opened. Requests without a tenant act for the empty one, all others for their own. -/
theorem tenants_isolated (tenant : TenantId) (acts : List (Act ω)) :
    let own := acts.filter (·.tenant = tenant)
    (∀ s : MemoryStore,
      (answers s acts).filter (·.1.tenant = tenant) = answers s own ∧
      (run s acts).partition tenant = (run s own).partition tenant) ∧
    (∀ (before s : FileStore) (reopenings : List Bool), before.opened = .ok s →
      let alone := { s with reopenings }
      (answers s acts).filter (·.1.tenant = tenant) = answers alone own ∧
      (run s acts).database.part tenant = (run alone own).database.part tenant) ∧
    ∀ ctx : Context, ctx.partition = tenant ↔
      ctx.tenant = some tenant ∨ (ctx.tenant = none ∧ tenant = "") := by
  refine ⟨fun s => ?_, fun before s reopenings hopen => ?_, fun ctx => ctx.partition_eq_iff tenant⟩
  · exact answers_isolated (MemoryStore.isolates tenant) rfl acts
  -- The file stays ready in both runs, so that other reopenings make no difference.
  · obtain ⟨hready, -⟩ := FileStore.ready_of_opened hopen
    have halone : FileStore.Ready { s with reopenings } := ⟨hready.opens, hready.version⟩
    obtain ⟨hanswers, -, -, hrows⟩ :=
      answers_isolated (FileStore.isolates tenant) ⟨hready, halone, rfl⟩ acts
    exact ⟨hanswers, hrows⟩

/-- A request of another tenant. -/
def northern : Context := { identity := some { subject := "operator", tenant := some "north" } }

/-- Two tenants update devices of the same names under the same name. The one in the north takes a
device out of service and deletes its deployment. -/
def sampleActs : List (Act ObjectSite) :=
  let scene := World.sampleScene
  let north : Scene := { scene with ctx := northern }
  let objects := World.sampleWorld.objects
  let create : ModelCall :=
    .create { name := "all", artifactName := "app", devices := ["left", "right"] }
  [.operation scene objects [] create, .operation north objects [] create,
    .operation north objects [] (.decommission "left"),
    .operation scene objects [] (.report "update" "left" { status := .downloading }),
    .call northern (.deleteDeployment "update"), .call scene.ctx (.hasRecord "update" "left")]

/-- Two tenants with deployments and devices of the same names. What the first one sees, over tables
and over a file, is what it would see alone. -/
theorem tenants_isolated_sample :
    let own := sampleActs.filter (·.tenant = "")
    ((answers ({} : MemoryStore) sampleActs).filter (·.1.tenant = "")
        = answers ({} : MemoryStore) own ∧
      (((run ({} : MemoryStore) sampleActs).partition "").records.get? ("update", "left")).map
        (·.status) = some .downloading ∧
      (((run ({} : MemoryStore) sampleActs).partition "north").records.get? ("update", "left")).map
        (·.status) = some .decommissioned) ∧
    (answers FileStore.sampleFile sampleActs).filter (·.1.tenant = "")
      = answers { FileStore.sampleFile with reopenings := [] } own ∧
    ({} : Context).partition = "" := by
  obtain ⟨htables, hfiles, hcontext⟩ := tenants_isolated "" sampleActs
  obtain ⟨hanswers, hpart⟩ := htables {}
  have hopen : FileStore.opened { FileStore.sampleFile with version := none }
      = .ok FileStore.sampleFile := rfl
  refine ⟨⟨hanswers, ?_, rfl⟩, (hfiles _ _ [] hopen).1, (hcontext {}).2 (.inr ⟨rfl, rfl⟩)⟩
  rw [hpart]
  rfl

end Act

end Fleet
