import Fleet.Proofs.Store.Mirror
import Fleet.Proofs.Store.Statements

/-!
# `Fleet.Proofs.Store.Atomicity`: a failed call changes nothing

A call that fails leaves every deployment, record and log as it was.

* In tables, the program of a call is an equation away from `DataStore.run`, which keeps the store
  on an error (`MemoryStore.steps_eq`).
* In a database, a call that writes is a single statement or a transaction
  (`Database.steps_allOrNothing`). That is enough whatever the rows contain and whichever
  statement is refused, provided that dropping a transaction undoes it (`Engine.RollsBack`).

A batch of records is stored by entering one after the other (`Table.Enters`), so it is stored
exactly when all of it can be. `failed_calls_change_nothing` is the main theorem.
-/

set_option autoImplicit false

namespace Fleet

open Fleet.Time Fleet.Codec

/-! ### Programs that are all or nothing -/

namespace Connection

variable {α β : Type} {m : InPlace StoreError Connection α}
  {k : α → InPlace StoreError Connection β}

/-- A program that leaves the database as it was if it fails. -/
def AllOrNothing (m : InPlace StoreError Connection α) : Prop :=
  ∀ conn e conn', m conn = (.error e, conn') → conn'.database = conn.database

/-- A program that leaves the database as it was. -/
def LooksOnly (m : InPlace StoreError Connection α) : Prop :=
  ∀ conn, (m conn).2.database = conn.database

/-- A decision that touches no database leaves it as it was. -/
theorem LooksOnly.ofExcept (y : Except StoreError α) : LooksOnly (MonadExcept.ofExcept y) := by
  intro conn
  cases y <;> rfl

/-- A selection leaves the database as it was. -/
theorem LooksOnly.select (f : Database → α) : LooksOnly (select f) := by
  intro conn
  rw [Connection.select, statement]
  split <;> rfl

/-- A program that only looks leaves nothing behind, whether it fails or not. -/
theorem LooksOnly.allOrNothing (h : LooksOnly m) : AllOrNothing m := by
  intro conn e conn' hrun
  have hkept := h conn
  rw [hrun] at hkept
  exact hkept

/-- Looking first does no harm. -/
theorem AllOrNothing.bind (hm : LooksOnly m) (hk : ∀ a, AllOrNothing (k a)) :
    AllOrNothing (m >>= k) := by
  intro conn e conn' hrun
  have hkept := hm conn
  cases hfirst : m conn with
  | mk answer between =>
    rw [hfirst] at hkept
    cases answer with
    | error e' =>
      rw [InPlace.bind_error hfirst] at hrun
      cases hrun
      exact hkept
    | ok a =>
      rw [InPlace.bind_ok hfirst] at hrun
      exact (hk a _ _ _ hrun).trans hkept

/-- To fetch is to look and to decide, so nothing is left behind. -/
theorem AllOrNothing.fetch (f : Database → Except StoreError α) : AllOrNothing (fetch f) :=
  .bind (.select f) fun y => (LooksOnly.ofExcept y).allOrNothing

/-- A single statement is done or not done, so nothing is left behind by one that fails. -/
theorem AllOrNothing.statement (f : Database → Except StoreError (α × Database)) :
    AllOrNothing (statement f) := by
  intro conn e conn' hrun
  rw [Connection.statement] at hrun
  split at hrun
  · cases hrun
    rfl
  · split at hrun
    · cases hrun
    · cases hrun
      rfl

/-- Dropping a transaction undoes what its program wrote before it failed. -/
theorem AllOrNothing.transaction {engine : Engine} (hrollback : engine.RollsBack)
    (m : InPlace StoreError Connection α) : AllOrNothing (transaction engine m) := by
  intro conn e conn' hrun
  rw [Connection.transaction] at hrun
  split at hrun
  · cases hrun
  · cases hrun
    exact hrollback _ _

end Connection

open Connection in
/-- The program of a call that writes is one statement or one transaction. -/
theorem Database.steps_allOrNothing {engine : Engine} (hrollback : engine.RollsBack)
    (tenant : TenantId) (c : StoreCall) : AllOrNothing (steps engine tenant c) := by
  cases c with
  | insertDeployment d => exact .bind (.ofExcept _) fun _ => .statement _
  | deleteDeployment id => exact .statement (·.run tenant (.deleteDeployment id))
  | saveLog log => exact .bind (.ofExcept _) fun _ => .statement _
  | moveDevice | finishWithStats | finishDeployment | insertRecords | updateStatus
  | assignArtifact | abortRecords | decommissionRecords | markLog =>
    exact .transaction hrollback _
  | findDeployment | findUnfinished | findDeployments | countDevices | findRecord
  | findOldestActive | findRecords | hasRecord | countByStatus | findLog => exact .fetch _

/-! ### Batches -/

/-- To store a value is to find it fit and its key free, and to enter it in a table. -/
structure Table.Enters {σ γ κ α ε : Type} [TableKey κ] [DecidableEq κ] (f : σ → γ → Except ε σ)
    (table : σ → Table κ α) (key : γ → κ) (value : γ → α) (Fits : γ → Prop) : Prop where
  entered : ∀ {s x s'}, f s x = .ok s' → Fits x ∧ (table s).get? (key x) = none ∧
    table s' = (table s).insert (key x) (value x)
  enters : ∀ {s x}, Fits x → (table s).get? (key x) = none →
    ∃ s', f s x = .ok s' ∧ table s' = (table s).insert (key x) (value x)

namespace Table.Enters

variable {σ γ κ α ε : Type} [TableKey κ] [DecidableEq κ] {f : σ → γ → Except ε σ}
  {table : σ → Table κ α} {key : γ → κ} {value : γ → α} {Fits : γ → Prop} {l : List γ} {s s' : σ}

/-- Values that were stored one by one were all fit and had free, different keys, and now each is
under its key. -/
theorem of_foldlM (h : Enters f table key value Fits) (hrun : l.foldlM f s = .ok s') :
    ((∀ x ∈ l, Fits x ∧ (table s).get? (key x) = none) ∧ (l.map key).Nodup) ∧
    (∀ x ∈ l, (table s').get? (key x) = some (value x)) ∧
    ∀ k ∉ l.map key, (table s').get? k = (table s).get? k := by
  induction l generalizing s with
  | nil =>
    cases hrun
    simp
  | cons x rest ih =>
    rw [List.foldlM_cons] at hrun
    cases hx : f s x with
    | error e =>
      rw [hx] at hrun
      cases hrun
    | ok between =>
      rw [hx] at hrun
      obtain ⟨hfits, hfree, htable⟩ := h.entered hx
      obtain ⟨⟨hrest, hnodup⟩, hstored, hkept⟩ := ih hrun
      -- What comes later finds the first key taken.
      have hother : ∀ y ∈ rest, key x ≠ key y := by
        intro y hy hkey
        have hnone := (hrest y hy).2
        rw [htable, get?_insert, if_pos hkey] at hnone
        cases hnone
      have hnot : key x ∉ rest.map key := by
        simpa using fun y hy => (hother y hy).symm
      refine ⟨⟨?_, ?_⟩, ?_, ?_⟩
      · intro y hy
        rcases List.mem_cons.1 hy with rfl | hy
        · exact ⟨hfits, hfree⟩
        · have hnone := (hrest y hy).2
          rw [htable, get?_insert, if_neg (hother y hy)] at hnone
          exact ⟨(hrest y hy).1, hnone⟩
      · exact List.nodup_cons.2 ⟨hnot, hnodup⟩
      · intro y hy
        rcases List.mem_cons.1 hy with rfl | hy
        · rw [hkept _ hnot, htable, get?_insert, if_pos rfl]
        · exact hstored y hy
      · intro k hk
        rw [List.map_cons, List.mem_cons, not_or] at hk
        rw [hkept k hk.2, htable, get?_insert, if_neg (Ne.symm hk.1)]

/-- Fit values with free, different keys can be stored one by one. -/
theorem exists_foldlM (h : Enters f table key value Fits)
    (hl : ∀ x ∈ l, Fits x ∧ (table s).get? (key x) = none) (hnodup : (l.map key).Nodup) :
    ∃ s', l.foldlM f s = .ok s' := by
  induction l generalizing s with
  | nil => exact ⟨s, rfl⟩
  | cons x rest ih =>
    obtain ⟨hfits, hfree⟩ := hl x List.mem_cons_self
    obtain ⟨between, hx, htable⟩ := h.enters hfits hfree
    rw [List.map_cons, List.nodup_cons] at hnodup
    rw [List.foldlM_cons, hx]
    refine ih (fun y hy => ?_) hnodup.2
    have hne : key x ≠ key y := fun hkey => hnodup.1 (hkey ▸ List.mem_map_of_mem hy)
    obtain ⟨hfits', hfree'⟩ := hl y (List.mem_cons_of_mem _ hy)
    rw [htable, get?_insert, if_neg hne]
    exact ⟨hfits', hfree'⟩

end Table.Enters

/-- A part has room for a batch: the records have free, different keys. -/
def Partition.HasRoom (p : Partition) (records : List DeviceRecord) : Prop :=
  (∀ r ∈ records, p.records.get? r.key = none) ∧ (records.map (·.key)).Nodup

/-- There is a row for a record: its time of creation fits into a column, and it can be written. -/
def DeviceRecord.HasRow (r : DeviceRecord) : Prop :=
  r.created.hasWordNanos = true ∧ (Database.encode encodeRecord r).isOk = true

/-- A database has room for a batch: there are rows for the records, and they have free, different
keys. -/
def Database.HasRoom (db : Database) (tenant : TenantId) (records : List DeviceRecord) : Prop :=
  (∀ r ∈ records, r.HasRow ∧ db.records.get? (r.entry tenant).1 = none) ∧
    (records.map fun r => (r.entry tenant).1).Nodup

/-- In tables, a record is entered under its own name, and every record can be. -/
theorem Partition.addRecord_enters :
    Table.Enters Partition.addRecord (·.records) (·.key) id fun _ => True where
  entered {p r p'} h := by
    rw [addRecord] at h
    split at h
    · cases h
    · next hfree =>
      cases h
      exact ⟨trivial, Table.contains_eq_false_iff.1 (Bool.not_eq_true _ ▸ hfree), rfl⟩
  enters {p r} _ hfree := by
    rw [addRecord, Table.contains_eq_false_iff.2 hfree]
    exact ⟨_, rfl, rfl⟩

/-- In rows, a record that has a row is stored under its name, unless there is one. -/
theorem Database.addRecord_eq (tenant : TenantId) (db : Database) {r : DeviceRecord}
    (h : r.HasRow) : addRecord tenant db r
      = if db.records.contains (r.entry tenant).1 then
          .error (.recordExists r.deploymentId r.deviceId)
        else
          .ok { db with records := db.records.insert (r.entry tenant).1 (r.entry tenant).2 } := by
  rw [addRecord, recordRow_eq_ok_iff.2 ⟨h.1, h.2, rfl⟩]
  rfl

/-- In rows, a record is entered under its name if it has a row at all. -/
theorem Database.addRecord_enters (tenant : TenantId) :
    Table.Enters (Database.addRecord tenant) (·.records) (fun r => (r.entry tenant).1)
      (fun r => (r.entry tenant).2) DeviceRecord.HasRow where
  entered {db r db'} h := by
    cases hrow : recordRow r with
    | error e =>
      rw [addRecord, hrow] at h
      cases h
    | ok row =>
      obtain ⟨htime, hwritten, -⟩ := recordRow_eq_ok_iff.1 hrow
      rw [addRecord_eq tenant db ⟨htime, hwritten⟩] at h
      split at h
      · cases h
      · next hfree =>
        cases h
        exact ⟨⟨htime, hwritten⟩, Table.contains_eq_false_iff.1 (Bool.not_eq_true _ ▸ hfree), rfl⟩
  enters {db r} hrow hfree := by
    rw [addRecord_eq tenant db hrow, Table.contains_eq_false_iff.2 hfree]
    exact ⟨_, rfl, rfl⟩

/-! ### Calls that fail -/

namespace MemoryStore

variable {tenant : TenantId} {s s' : MemoryStore}

/-- A call that fails in tables has changed nothing, because its program comes to what the call does
at once. -/
theorem eq_of_steps_eq_error {c : StoreCall} {e : StoreError}
    (h : steps tenant c s = (.error e, s')) : s' = s := by
  rw [steps_eq, run_eq_settle] at h
  exact eq_of_settle_eq_error h

/-- A batch is stored as a whole if the part has room for it, and else not at all. -/
theorem steps_insertRecords (records : List DeviceRecord) :
    ((s.partition tenant).HasRoom records →
      ∃ s', steps tenant (.insertRecords records) s = (.ok (), s') ∧
        ∀ r ∈ records, (s'.partition tenant).records.get? r.key = some r) ∧
    (¬ (s.partition tenant).HasRoom records →
      ∃ e, steps tenant (.insertRecords records) s = (.error e, s)) := by
  have hrun : (s.partition tenant).run (.insertRecords records)
      = (records.foldlM Partition.addRecord (s.partition tenant)).map ((), ·) := rfl
  rw [steps_eq, run_eq_settle, hrun]
  constructor
  · rintro ⟨hfree, hnodup⟩
    obtain ⟨p, hp⟩ := Partition.addRecord_enters.exists_foldlM
      (fun r hr => ⟨trivial, hfree r hr⟩) hnodup
    rw [hp]
    refine ⟨s.withPartition tenant p, rfl, fun r hr => ?_⟩
    rw [partition_withPartition_self]
    exact (Partition.addRecord_enters.of_foldlM hp).2.1 r hr
  · intro hroom
    cases hp : records.foldlM Partition.addRecord (s.partition tenant) with
    | ok p =>
      obtain ⟨⟨hfree, hnodup⟩, -⟩ := Partition.addRecord_enters.of_foldlM hp
      exact absurd ⟨fun r hr => (hfree r hr).2, hnodup⟩ hroom
    | error e => exact ⟨e, rfl⟩

/-- A move for which a counter is too small or too great changes no counter. -/
theorem steps_moveDevice {id : DeploymentId} {old new : DeviceStatus} {d : Deployment}
    (hd : (s.partition tenant).deployments.get? id = some d) (hne : old ≠ new)
    (hcount : d.stats.count old = 0 ∨ d.stats.count new = Stats.maxCount) :
    ∃ e, steps tenant (.moveDevice id old new) s = (.error e, s) := by
  obtain ⟨e, he⟩ := Stats.transition_eq_error hne hcount
  refine ⟨.ofStats e, ?_⟩
  rw [steps_eq, run_eq_settle, Partition.run, Partition.updateDeployment, hd]
  simp only [he]
  rfl

end MemoryStore

namespace Database

variable {engine : Engine} {tenant : TenantId} {conn conn' : Connection}

/-- A call that succeeds does what it is said to do, whatever went wrong before. -/
theorem run_of_steps_eq_ok {c : StoreCall} {a : c.Answer}
    (h : steps engine tenant c conn = (.ok a, conn')) :
    conn.database.run tenant c = .ok (a, conn'.database) :=
  (steps_enacts engine tenant c conn.database).success h

/-- When nothing goes wrong, a call does what it is said to do, also where it fails. -/
theorem steps_of_troubles_eq_nil (hrollback : engine.RollsBack) (c : StoreCall)
    (h : conn.troubles = []) :
    ∃ conn', steps engine tenant c conn = ((DataStore.run tenant c conn.database).1, conn') ∧
      conn'.database = (DataStore.run tenant c conn.database).2 := by
  obtain ⟨database, troubles⟩ := conn
  subst h
  obtain ⟨conn', hrun, -⟩ := (steps_enacts engine tenant c database).calm
  rw [run_eq_settle]
  cases hx : database.run tenant c with
  | ok r =>
    obtain ⟨a, db⟩ := r
    rw [hx] at hrun
    have hsame := hx.symm.trans (run_of_steps_eq_ok hrun)
    cases hsame
    exact ⟨conn', hrun, rfl⟩
  | error e =>
    rw [hx] at hrun
    exact ⟨conn', hrun, steps_allOrNothing hrollback tenant c _ _ _ hrun⟩

/-- A batch that was stored had room, and is stored as a whole. -/
theorem steps_insertRecords {records : List DeviceRecord}
    (h : steps engine tenant (.insertRecords records) conn = (.ok (), conn')) :
    conn.database.HasRoom tenant records ∧
    ∀ r ∈ records, conn'.database.records.get? (r.entry tenant).1 = some (r.entry tenant).2 := by
  have hrun := run_of_steps_eq_ok h
  rw [run] at hrun
  cases hadd : records.foldlM (addRecord tenant) conn.database with
  | error e =>
    rw [hadd] at hrun
    cases hrun
  | ok db =>
    rw [hadd] at hrun
    cases hrun
    obtain ⟨hroom, hstored, -⟩ := (addRecord_enters tenant).of_foldlM hadd
    exact ⟨hroom, hstored⟩

/-- A batch for which there is room is stored unless something else goes wrong. -/
theorem exists_run_insertRecords {db : Database} {records : List DeviceRecord}
    (h : db.HasRoom tenant records) :
    (DataStore.run tenant (.insertRecords records) db).1 = .ok () := by
  obtain ⟨db', hadd⟩ := (addRecord_enters tenant).exists_foldlM h.1 h.2
  rw [run_eq_settle, run, hadd]
  rfl

/-- A move for which a counter is too small or too great changes no counter. -/
theorem steps_moveDevice (hrollback : engine.RollsBack) {id : DeploymentId}
    {old new : DeviceStatus} {d : Deployment}
    (hd : conn.database.loadDeployment tenant id = .ok (some d)) (hne : old ≠ new)
    (hcount : d.stats.count old = 0 ∨ d.stats.count new = Stats.maxCount) :
    ∃ e conn', steps engine tenant (.moveDevice id old new) conn = (.error e, conn') ∧
      conn'.database = conn.database := by
  obtain ⟨e, he⟩ := Stats.transition_eq_error hne hcount
  cases hsteps : steps engine tenant (.moveDevice id old new) conn with
  | mk answer conn' =>
    cases answer with
    | error e' => exact ⟨e', conn', rfl, steps_allOrNothing hrollback tenant _ _ _ _ hsteps⟩
    | ok a =>
      -- Had it succeeded, the counters would have moved.
      have hrun := run_of_steps_eq_ok hsteps
      rw [run, updateDeployment, hd] at hrun
      simp only [bind, Except.bind, he] at hrun
      cases hrun

end Database

/-- A call of a data store that fails changes nothing, in stores of tables and in databases with any
contents, whatever goes wrong in the statements of a call; a transaction that is dropped is taken to
be undone. A call that succeeds does what it is said to do. In particular a batch of records is
stored as a whole or not at all: it is not stored if a key is in use or occurs twice in it, or there
is no row for a record, wherever in the batch that is. A move for which one counter is too small or
the other too great changes no counter. -/
theorem failed_calls_change_nothing (engine : Engine) (hrollback : engine.RollsBack)
    (tenant : TenantId) :
    (∀ (c : StoreCall) (s : MemoryStore),
      MemoryStore.steps tenant c s = DataStore.run tenant c s ∧
      ∀ e s', MemoryStore.steps tenant c s = (.error e, s') → s' = s) ∧
    (∀ (c : StoreCall) (conn : Connection),
      (∀ e conn', Database.steps engine tenant c conn = (.error e, conn') →
        conn'.database = conn.database) ∧
      (∀ a conn', Database.steps engine tenant c conn = (.ok a, conn') →
        DataStore.run tenant c conn.database = (.ok a, conn'.database)) ∧
      (conn.troubles = [] → ∃ conn',
        Database.steps engine tenant c conn = ((DataStore.run tenant c conn.database).1, conn') ∧
        conn'.database = (DataStore.run tenant c conn.database).2)) ∧
    (∀ (records : List DeviceRecord) (s : MemoryStore),
      ((s.partition tenant).HasRoom records →
        ∃ s', MemoryStore.steps tenant (.insertRecords records) s = (.ok (), s') ∧
          ∀ r ∈ records, (s'.partition tenant).records.get? r.key = some r) ∧
      (¬ (s.partition tenant).HasRoom records →
        ∃ e, MemoryStore.steps tenant (.insertRecords records) s = (.error e, s))) ∧
    (∀ (records : List DeviceRecord) (conn : Connection),
      (∀ conn', Database.steps engine tenant (.insertRecords records) conn = (.ok (), conn') →
        conn.database.HasRoom tenant records ∧ ∀ r ∈ records,
          conn'.database.records.get? (r.entry tenant).1 = some (r.entry tenant).2) ∧
      (conn.database.HasRoom tenant records → conn.troubles = [] →
        ∃ conn', Database.steps engine tenant (.insertRecords records) conn = (.ok (), conn'))) ∧
    (∀ (id : DeploymentId) (old new : DeviceStatus) (d : Deployment), old ≠ new →
      (d.stats.count old = 0 ∨ d.stats.count new = Stats.maxCount) →
      (∀ s : MemoryStore, (s.partition tenant).deployments.get? id = some d →
        ∃ e, MemoryStore.steps tenant (.moveDevice id old new) s = (.error e, s)) ∧
      (∀ conn : Connection, conn.database.loadDeployment tenant id = .ok (some d) →
        ∃ e conn', Database.steps engine tenant (.moveDevice id old new) conn = (.error e, conn') ∧
          conn'.database = conn.database)) := by
  refine ⟨?_, ?_, ?_, ?_, ?_⟩
  · intro c s
    exact ⟨MemoryStore.steps_eq tenant c s, fun e s' h => MemoryStore.eq_of_steps_eq_error h⟩
  · intro c conn
    refine ⟨fun e conn' h => Database.steps_allOrNothing hrollback tenant c _ _ _ h,
      fun a conn' h => ?_, Database.steps_of_troubles_eq_nil hrollback c⟩
    rw [Database.run_eq_settle, Database.run_of_steps_eq_ok h]
    rfl
  · intro records s
    exact MemoryStore.steps_insertRecords records
  · intro records conn
    refine ⟨fun conn' h => Database.steps_insertRecords h, fun hroom hcalm => ?_⟩
    -- With room and without troubles the call on rows succeeds, and so does its program.
    obtain ⟨conn', hrun, -⟩ := Database.steps_of_troubles_eq_nil hrollback
      (.insertRecords records) hcalm
    exact ⟨conn', hrun.trans (by rw [Database.exists_run_insertRecords hroom])⟩
  · intro id old new d hne hcount
    exact ⟨fun s hd => MemoryStore.steps_moveDevice hd hne hcount,
      fun conn hd => Database.steps_moveDevice hrollback hd hne hcount⟩

/-- A record of a device in one deployment. -/
def pendingRecord (device : DeviceId) : DeviceRecord where
  id := device
  deploymentId := "update"
  deviceId := device
  status := .pending
  created := default

/-- A deployment that counts no devices. -/
def uncounted : Deployment where
  id := "update"
  plan := { name := "all", artifactName := "app" }
  created := default

/-- One batch names a device twice. Another one is fine, but its second row is refused after the
first was written. A device leaves a counter that is zero. -/
theorem failed_calls_change_nothing_sample :
    let engine : Engine := ⟨fun before _ => before⟩
    let twice := ["left", "right", "left"].map pendingRecord
    let both := ["left", "right"].map pendingRecord
    let conn : Connection := ⟨{}, [none, none, some ⟨.io, "disk full"⟩]⟩
    let s : MemoryStore := ⟨fun _ => { deployments := Table.insert ∅ "update" uncounted }⟩
    engine.RollsBack ∧
    (∃ e, MemoryStore.steps "" (.insertRecords twice) {} = (.error e, {})) ∧
    (Database.steps engine "" (.insertRecords both) conn).2.database = {} ∧
    ∃ e, MemoryStore.steps "" (.moveDevice "update" .pending .success) s = (.error e, s) := by
  intro engine twice both conn s
  have hrollback : engine.RollsBack := fun _ _ => rfl
  obtain ⟨-, hcalls, hbatch, -, hmove⟩ := failed_calls_change_nothing engine hrollback ""
  refine ⟨hrollback, ?_, ?_, ?_⟩
  · have hroom : ¬ ({} : Partition).HasRoom twice := by
      rintro ⟨-, hnodup⟩
      exact absurd hnodup (by decide)
    exact (hbatch twice {}).2 hroom
  · exact (hcalls (.insertRecords both) conn).1 ⟨.io, "disk full"⟩ _ rfl
  · exact (hmove "update" .pending .success uncounted (by decide) (.inl rfl)).1 s rfl

end Fleet
