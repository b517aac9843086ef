import Fleet.Proofs.Store.Refinement
import Fleet.Store.File

/-!
# `Fleet.Proofs.Store.Sessions`: whole stores, and files that are opened again

`DataStore.Simulates` says of a relation between the states of two stores that storable calls
get the same answers in related states and lead to related states. Then a list of calls
gets the same answers (`Simulates.answers_eq`).

A file store is `Ready` if its file can be opened. It stays so because the version in the file
is the one that is looked for when it is opened again. Then a call is a call on the database in
the file (`Ready.run`). A ready store `Holds` what a store of tables has if its database mirrors
every part; this is such a relation (`simulates_holds`).
-/

set_option autoImplicit false

namespace Fleet

namespace DataStore

/-- What a list of calls is answered, in order. -/
def answers {σ : Type} [DataStore σ] (s : σ) :
    List (TenantId × StoreCall) → List (Σ c : StoreCall, Except StoreError c.Answer)
  | [] => []
  | (tenant, c) :: rest => ⟨c, (run tenant c s).1⟩ :: answers (run tenant c s).2 rest

/-- In related states, storable calls get the same answers and lead to related states. -/
def Simulates {σ τ : Type} [DataStore σ] [DataStore τ] (R : σ → τ → Prop) : Prop :=
  ∀ s t, R s t → ∀ tenant (c : StoreCall), c.Storable →
    (run tenant c s).1 = (run tenant c t).1 ∧ R (run tenant c s).2 (run tenant c t).2

/-- Stores that simulate one another give the same answers throughout a session, by induction on its
calls. -/
theorem Simulates.answers_eq {σ τ : Type} [DataStore σ] [DataStore τ] {R : σ → τ → Prop}
    (h : Simulates R) {s : σ} {t : τ} (hst : R s t) (calls : List (TenantId × StoreCall))
    (hcalls : ∀ call ∈ calls, call.2.Storable) : answers s calls = answers t calls := by
  induction calls generalizing s t with
  | nil => rfl
  | cons call rest ih =>
    obtain ⟨hanswer, hnext⟩ := h s t hst call.1 call.2 (hcalls call List.mem_cons_self)
    rw [answers, answers, hanswer, ih hnext fun c hc => hcalls c (List.mem_cons_of_mem _ hc)]

end DataStore

/-- Calls on a database and on a store of tables whose parts it mirrors. -/
theorem Database.run_mirrors {db : Database} {m : MemoryStore}
    (h : ∀ t, db.Mirrors t (m.partition t)) (tenant : TenantId) {c : StoreCall}
    (hc : c.Storable) :
    (DataStore.run tenant c m).1 = (DataStore.run tenant c db).1 ∧
      ∀ t, (DataStore.run tenant c db).2.Mirrors t ((DataStore.run tenant c m).2.partition t) := by
  simp only [DataStore.run]
  have hfollows := (h tenant).run_follows hc
  generalize (m.partition tenant).run c = x at hfollows
  generalize db.run tenant c = y at hfollows
  cases hfollows with
  | error => exact ⟨rfl, h⟩
  | @ok a p db' hmoves =>
    refine ⟨rfl, fun t => ?_⟩
    by_cases ht : tenant = t
    · subst ht
      rw [MemoryStore.partition_withPartition_self]
      exact hmoves.mirrors
    · rw [MemoryStore.partition_withPartition_of_ne _ _ (Ne.symm ht)]
      exact hmoves.other ht (h t)

/-! ### Files -/

/-- What it takes to open a file. -/
theorem StoreConfig.openFile_eq_ok_iff {c : StoreConfig} {disk : Disk} :
    c.openFile disk = .ok () ↔
      checkStorePath disk c.path = .ok () ∧ disk.canHold c.path = true ∧
        disk.canOpen c.path = true ∧ ∀ v, disk.version c.path = some v → v = layoutVersion := by
  rw [openFile]
  cases checkStorePath disk c.path with
  | error e => exact ⟨fun h => (by cases h), fun h => by cases h.1⟩
  | ok u =>
    cases disk.canHold c.path with
    | false => exact ⟨fun h => (by cases h), fun h => by cases h.2.1⟩
    | true =>
      cases disk.canOpen c.path with
      | false => exact ⟨fun h => (by cases h), fun h => by cases h.2.2.1⟩
      | true =>
        -- The version is the last thing that is looked at.
        cases disk.version c.path with
        | none => exact ⟨fun _ => ⟨rfl, rfl, rfl, (fun v hv => by cases hv)⟩, fun _ => rfl⟩
        | some v =>
          by_cases hv : v = layoutVersion
          · exact ⟨fun _ => ⟨rfl, rfl, rfl, fun v' hv' => Option.some.inj hv' ▸ hv⟩,
              fun _ => if_neg (not_not_intro hv)⟩
          · refine ⟨fun h => ?_, fun h => absurd (h.2.2.2 v rfl) hv⟩
            cases (if_pos hv).symm.trans h

namespace FileStore

/-- The file can be opened again, and will be. -/
structure Ready (s : FileStore) : Prop where
  opens : s.config.openFile s.surroundings = .ok ()
  version : s.version = some layoutVersion

/-- A file store has what a store of tables has, and its file can be opened. -/
structure Holds (s : FileStore) (m : MemoryStore) : Prop extends s.Ready where
  mirrors : ∀ t, s.database.Mirrors t (m.partition t)

/-- A file that was opened can be opened again, and its contents are what they were. -/
theorem ready_of_opened {s s' : FileStore} (h : s.opened = .ok s') :
    s'.Ready ∧ s'.database = s.database := by
  rw [opened] at h
  cases hopen : s.config.openFile s.surroundings with
  | error e =>
    rw [hopen] at h
    cases h
  | ok u =>
    rw [hopen] at h
    cases h
    obtain ⟨hpath, hhold, hcan, hpresent⟩ := StoreConfig.openFile_eq_ok_iff.1 hopen
    have hversion : s.version.getD layoutVersion = layoutVersion := by
      cases hv : s.version with
      | none => rfl
      | some v => exact hpresent v ((if_pos rfl).trans hv)
    refine ⟨⟨StoreConfig.openFile_eq_ok_iff.2 ⟨hpath, hhold, hcan, fun v hv => ?_⟩,
      congrArg some hversion⟩, rfl⟩
    exact (Option.some.inj ((if_pos rfl).symm.trans hv)).symm.trans hversion

/-- A new file has nothing, as an empty store of tables has. -/
theorem holds_of_opened {config : StoreConfig} {disk : Disk} {reopenings : List Bool}
    {s : FileStore} (h : opened { config, disk, reopenings } = .ok s) : s.Holds {} := by
  obtain ⟨hready, hsame⟩ := ready_of_opened h
  refine ⟨hready, fun t => ?_⟩
  rw [hsame]
  exact Database.mirrors_empty t

/-- Opening the file again loses nothing. -/
theorem Ready.turned {s : FileStore} (h : s.Ready) :
    ∃ s', s.turned = .ok s' ∧ s'.Ready ∧ s'.database = s.database := by
  rw [FileStore.turned]
  split
  · exact ⟨s, rfl, h, rfl⟩
  · next again rest _ =>
    have hrest : Ready { s with reopenings := rest } := ⟨h.opens, h.version⟩
    cases again with
    | false => exact ⟨_, rfl, hrest, rfl⟩
    | true =>
      have hopen : ({ s with reopenings := rest } : FileStore).opened
          = .ok { s with version := some (s.version.getD layoutVersion), reopenings := rest } := by
        rw [opened]
        show (s.config.openFile s.surroundings).map _ = _
        rw [h.opens]
        rfl
      obtain ⟨hready, hsame⟩ := ready_of_opened hopen
      exact ⟨_, by rw [if_pos rfl, hopen], hready, hsame⟩

/-- A call on a file that can be opened is a call on what is in it. -/
theorem Ready.run {s : FileStore} (h : s.Ready) (tenant : TenantId) (c : StoreCall) :
    (DataStore.run tenant c s).1 = (DataStore.run tenant c s.database).1 ∧
      (DataStore.run tenant c s).2.Ready ∧
      (DataStore.run tenant c s).2.database = (DataStore.run tenant c s.database).2 := by
  obtain ⟨s', hturned, hready, hsame⟩ := h.turned
  have hrun : DataStore.run tenant c s = ((DataStore.run tenant c s'.database).1,
      { s' with database := (DataStore.run tenant c s'.database).2 }) := by
    simp only [DataStore.run, hturned]
  rw [hrun, hsame]
  exact ⟨rfl, ⟨hready.opens, hready.version⟩, rfl⟩

end FileStore

/-- A file store answers as a store of tables does. -/
theorem simulates_holds :
    DataStore.Simulates fun (m : MemoryStore) (s : FileStore) => s.Holds m := by
  intro m s h tenant c hc
  obtain ⟨hfile, hready, hdatabase⟩ := h.toReady.run tenant c
  obtain ⟨hanswer, hmirrors⟩ := Database.run_mirrors h.mirrors tenant hc
  exact ⟨hanswer.trans hfile.symm, hready, hdatabase ▸ hmirrors⟩

end Fleet
