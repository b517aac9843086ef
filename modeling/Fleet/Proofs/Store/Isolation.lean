import Fleet.Proofs.Store.Sessions

/-!
# `Fleet.Proofs.Store.Isolation`: calls see the rows of their own tenant only

`DataStore.Isolates` has the two conditions under which a tenant cannot tell that others use the
same store. They are about a relation between states. A call of the tenant gets the same answer
in related states and leads to related states. A call of another tenant leads to a state that is
related to the same ones as before.

A store of tables satisfies them as it is built, for the states with the same part of the tenant.
A database has rows of all tenants in one relation and selects among them in each call. There the
conditions are put together from what a call does to rows: `Reads` for what it looks up, `Writes`
for what it changes, `Confined` for a whole call. `confined_run` goes through the calls.
-/

set_option autoImplicit false

namespace Fleet

/-- A relation between the states of a data store in which a tenant cannot tell whether others
have made calls. -/
structure DataStore.Isolates {σ : Type} [DataStore σ] (tenant : TenantId) (R : σ → σ → Prop) :
    Prop where
  own : ∀ {s s'}, R s s' → ∀ c, (run tenant c s).1 = (run tenant c s').1 ∧
    R (run tenant c s).2 (run tenant c s').2
  other : ∀ {s s'}, R s s' → ∀ {t}, t ≠ tenant → ∀ c, R (run t c s).2 s'

/-- Tables are kept apart by tenant, so the part of a tenant tells all that its calls depend on. -/
theorem MemoryStore.isolates (tenant : TenantId) :
    DataStore.Isolates tenant fun s s' : MemoryStore =>
      s.partition tenant = s'.partition tenant where
  own {s s'} h c := by
    simp only [DataStore.run, h]
    cases (s'.partition tenant).run c with
    | error e => exact ⟨rfl, h⟩
    | ok x =>
      refine ⟨rfl, ?_⟩
      rw [partition_withPartition_self, partition_withPartition_self]
  other {s s'} h t ht c := by
    simp only [DataStore.run]
    cases (s.partition t).run c with
    | error e => exact h
    | ok x =>
      show (s.withPartition t x.2).partition tenant = _
      rw [partition_withPartition_of_ne _ _ ht.symm, h]

namespace Database

/-- The rows of one tenant. -/
@[ext] structure Rows where
  deployments : Table DeploymentId DeploymentRow
  records : Table (DeploymentId × DeviceId) RecordRow
  logs : Table (DeploymentId × DeviceId) String

/-- The rows of a tenant in a database. -/
def part (db : Database) (tenant : TenantId) : Rows where
  deployments := db.deployments.slice tenant
  records := db.records.slice tenant
  logs := db.logs.slice tenant

/-! ### Reading -/

/-- What depends on the rows of a tenant only. -/
def Reads (tenant : TenantId) {α : Type} (g : Database → α) : Prop :=
  ∃ g' : Rows → α, ∀ db : Database, g db = g' (db.part tenant)

namespace Reads

variable {tenant : TenantId}

/-- What depends on the rows of a tenant is the same in databases with the same rows of it. -/
theorem eq {α : Type} {g : Database → α} (h : Reads tenant g) {db db' : Database}
    (hdb : db.part tenant = db'.part tenant) : g db = g db' := by
  obtain ⟨g', hg'⟩ := h
  rw [hg', hg', hdb]

/-- What is made of something that depends on the rows of a tenant depends on them as well. -/
theorem map {α β : Type} {g : Database → α} (h : Reads tenant g) (f : α → β) :
    Reads tenant fun db => f (g db) := by
  obtain ⟨g', hg'⟩ := h
  exact ⟨fun rows => f (g' rows), fun db => congrArg f (hg' db)⟩

/-- The row of a deployment depends on the rows of its tenant. -/
theorem deployment (id : DeploymentId) :
    Reads tenant fun db => db.deployments.get? (tenant, id) :=
  ⟨fun rows => rows.deployments.get? id, fun _ => (Table.get?_slice ..).symm⟩

/-- The row of a record depends on the rows of its tenant. -/
theorem record (id : DeploymentId) (device : DeviceId) :
    Reads tenant fun db => db.records.get? (tenant, id, device) :=
  ⟨fun rows => rows.records.get? (id, device), fun _ => (Table.get?_slice ..).symm⟩

/-- The document of a log depends on the rows of its tenant. -/
theorem log (id : DeploymentId) (device : DeviceId) :
    Reads tenant fun db => db.logs.get? (tenant, id, device) :=
  ⟨fun rows => rows.logs.get? (id, device), fun _ => (Table.get?_slice ..).symm⟩

/-- All deployments of the tenant, in the order of names. -/
theorem deployments (tenant : TenantId) :
    Reads tenant fun db => db.deployments.entries.filter (·.1.1 = tenant) :=
  ⟨fun rows => rows.deployments.entries.map fun e => ((tenant, e.1), e.2),
    fun db => db.deployments.filter_entries_eq tenant⟩

/-- A selection of records that asks for the tenant first. -/
theorem recordRows (test : DeploymentId × DeviceId → Bool) :
    Reads tenant fun db => db.recordRows fun k => k.1 = tenant && test k.2 := by
  refine ⟨fun rows => (rows.records.entries.map fun e => ((tenant, e.1), e.2)).filter
    fun e => test e.1.2, fun db => ?_⟩
  have htest : db.recordRows (fun k => k.1 = tenant && test k.2)
      = (db.records.entries.filter (·.1.1 = tenant)).filter fun e => test e.1.2 := by
    rw [Database.recordRows, List.filter_filter]
    exact List.filter_congr fun e _ => Bool.and_comm _ _
  exact htest.trans (congrArg (List.filter _) (db.records.filter_entries_eq tenant))

/-- A deployment that is loaded depends on the rows of its tenant. -/
theorem loadDeployment (id : DeploymentId) :
    Reads tenant fun db => db.loadDeployment tenant id :=
  (deployment id).map fun row => decodeOption Codec.decodeDeployment (row.map (·.document))

/-- A record that is loaded depends on the rows of its tenant. -/
theorem loadRecord (id : DeploymentId) (device : DeviceId) :
    Reads tenant fun db => db.loadRecord tenant id device :=
  (record id device).map fun row => decodeOption Codec.decodeRecord (row.map (·.document))

/-- The records of a deployment depend on the rows of its tenant. -/
theorem rowsOfDeployment (id : DeploymentId) :
    Reads tenant fun db => db.rowsOfDeployment tenant id :=
  recordRows (·.1 = id)

/-- The records of a device depend on the rows of its tenant. -/
theorem rowsOfDevice (device : DeviceId) :
    Reads tenant fun db => db.rowsOfDevice tenant device :=
  recordRows (·.2 = device)

end Reads

/-! ### Writing -/

/-- A change of the rows of a tenant that depends on nothing but them. -/
structure Writes (tenant : TenantId) (g : Database → Database) : Prop where
  own : ∃ g' : Rows → Rows, ∀ db : Database, (g db).part tenant = g' (db.part tenant)
  other : ∀ {t : TenantId}, tenant ≠ t → ∀ db : Database, (g db).part t = db.part t

namespace Writes

variable {tenant : TenantId}

/-- A call that does not write leaves all rows alone. -/
theorem nothing : Writes tenant fun db => db := ⟨⟨fun rows => rows, fun _ => rfl⟩, fun _ _ => rfl⟩

/-- Storing the row of a deployment changes the rows of its tenant only. -/
theorem insertDeployment (id : DeploymentId) (row : DeploymentRow) :
    Writes tenant fun db =>
      { db with deployments := db.deployments.insert (tenant, id) row } where
  own := ⟨fun rows => { rows with deployments := rows.deployments.insert id row },
    fun _ => Rows.ext (Table.slice_insert ..) rfl rfl⟩
  other ht _ := Rows.ext (Table.slice_insert_of_ne _ _ _ ht _) rfl rfl

/-- Erasing the row of a deployment changes the rows of its tenant only. -/
theorem deleteDeployment (id : DeploymentId) :
    Writes tenant fun db => { db with deployments := db.deployments.erase (tenant, id) } where
  own := ⟨fun rows => { rows with deployments := rows.deployments.erase id },
    fun _ => Rows.ext (Table.slice_erase ..) rfl rfl⟩
  other ht _ := Rows.ext (Table.slice_erase_of_ne _ _ _ ht) rfl rfl

/-- Changing the row of a deployment changes the rows of its tenant only. -/
theorem modifyDeployment (id : DeploymentId) (f : DeploymentRow → DeploymentRow) :
    Writes tenant fun db =>
      { db with deployments := db.deployments.modify (tenant, id) f } where
  own := ⟨fun rows => { rows with deployments := rows.deployments.modify id f },
    fun _ => Rows.ext (Table.slice_modify ..) rfl rfl⟩
  other ht _ := Rows.ext (Table.slice_modify_of_ne _ _ _ ht _) rfl rfl

/-- Storing the row of a record changes the rows of its tenant only. -/
theorem insertRecord (k : DeploymentId × DeviceId) (row : RecordRow) :
    Writes tenant fun db => { db with records := db.records.insert (tenant, k) row } where
  own := ⟨fun rows => { rows with records := rows.records.insert k row },
    fun _ => Rows.ext rfl (Table.slice_insert ..) rfl⟩
  other ht _ := Rows.ext rfl (Table.slice_insert_of_ne _ _ _ ht _) rfl

/-- Changing the row of a record changes the rows of its tenant only. -/
theorem modifyRecord (k : DeploymentId × DeviceId) (f : RecordRow → RecordRow) :
    Writes tenant fun db => { db with records := db.records.modify (tenant, k) f } where
  own := ⟨fun rows => { rows with records := rows.records.modify k f },
    fun _ => Rows.ext rfl (Table.slice_modify ..) rfl⟩
  other ht _ := Rows.ext rfl (Table.slice_modify_of_ne _ _ _ ht _) rfl

/-- Saving a log changes the rows of its tenant only. -/
theorem saveLog (k : DeploymentId × DeviceId) (document : String) :
    Writes tenant fun db => { db with logs := db.logs.insert (tenant, k) document } where
  own := ⟨fun rows => { rows with logs := rows.logs.insert k document },
    fun _ => Rows.ext rfl rfl (Table.slice_insert ..)⟩
  other ht _ := Rows.ext rfl rfl (Table.slice_insert_of_ne _ _ _ ht _)

/-- Storing a deployment in its row changes the rows of its tenant only. -/
theorem storeDeployment (d : Deployment) (document : String) :
    Writes tenant fun db => db.storeDeployment tenant d document :=
  modifyDeployment d.id _

/-- Storing a record in its row changes the rows of its tenant only. -/
theorem storeRecord (r : DeviceRecord) (document : String) :
    Writes tenant fun db => db.storeRecord tenant r document :=
  modifyRecord (r.deploymentId, r.deviceId) _

end Writes

/-! ### Calls -/

/-- Two outcomes that a tenant cannot tell apart: the same error, or the same answer with the
same rows of the tenant. -/
inductive Concur (tenant : TenantId) {α : Type} :
    Except StoreError (α × Database) → Except StoreError (α × Database) → Prop where
  | error (e : StoreError) : Concur tenant (.error e) (.error e)
  | ok (a : α) {db db' : Database} (rows : db.part tenant = db'.part tenant) :
      Concur tenant (.ok (a, db)) (.ok (a, db'))

/-- A call that sees and changes the rows of one tenant only. -/
structure Confined (tenant : TenantId) {α : Type}
    (f : Database → Except StoreError (α × Database)) : Prop where
  own : ∀ {db db' : Database}, db.part tenant = db'.part tenant → Concur tenant (f db) (f db')
  other : ∀ {t : TenantId}, tenant ≠ t → ∀ {db a db'}, f db = .ok (a, db') →
    db'.part t = db.part t

namespace Confined

variable {tenant : TenantId} {α β : Type}

/-- A call that fails without looking is confined. -/
theorem error (e : StoreError) :
    Confined tenant fun _ => (.error e : Except StoreError (α × Database)) :=
  ⟨fun _ => .error e, fun _ _ _ _ h => by cases h⟩

/-- A call that writes to the rows of its tenant without looking is confined. -/
theorem write {g : Database → Database} (h : Writes tenant g) (a : α) :
    Confined tenant fun db => .ok (a, g db) where
  own {db db'} hdb := by
    obtain ⟨g', hg'⟩ := h.own
    exact .ok a (by rw [hg', hg', hdb])
  other ht db _ _ heq := by
    cases heq
    exact h.other ht db

/-- A call that answers without looking is confined. -/
theorem answer (a : α) : Confined tenant fun db => .ok (a, db) := write .nothing a

/-- A call that writes something made beforehand, unless that fails. -/
theorem writing (x : Except StoreError β) {g : β → Database → Database}
    (h : ∀ b, Writes tenant (g b)) (a : α) :
    Confined tenant fun db => do return (a, g (← x) db) := by
  cases x with
  | error e => exact error e
  | ok b => exact write (h b) a

/-- A call can be looked at for each value of what it reads. -/
theorem reading {g : Database → β} {f : Database → Except StoreError (α × Database)}
    (h : Reads tenant g)
    (hf : ∀ b, ∃ f', Confined tenant f' ∧ ∀ db, g db = b → f db = f' db) :
    Confined tenant f where
  own {db db'} hdb := by
    obtain ⟨f', hf', heq⟩ := hf (g db)
    -- The other database reads the same value, so both calls come to `f'`.
    rw [heq db rfl, heq db' (h.eq hdb).symm]
    exact hf'.own hdb
  other ht db _ _ hok := by
    obtain ⟨f', hf', heq⟩ := hf (g db)
    exact hf'.other ht ((heq db rfl).symm.trans hok)

/-- A call that answers with what it reads, and changes nothing. -/
theorem tell {g : Database → α} (h : Reads tenant g) : Confined tenant fun db => .ok (g db, db) :=
  reading h fun a => ⟨_, answer a, fun db hb => by rw [hb]⟩

/-- A call that answers with something made from what it reads, unless that fails. -/
theorem ask {g : Database → Except StoreError β} (h : Reads tenant g) (f : β → α) :
    Confined tenant fun db => (g db).map fun b => (f b, db) := by
  refine reading h fun b => ?_
  cases b with
  | error e => exact ⟨_, error e, fun db hb => by rw [hb]; rfl⟩
  | ok b => exact ⟨_, answer (f b), fun db hb => by rw [hb]; rfl⟩

/-- One call after another. -/
theorem bind {f : Database → Except StoreError (α × Database)}
    {k : α → Database → Except StoreError (β × Database)} (hf : Confined tenant f)
    (hk : ∀ a, Confined tenant (k a)) :
    Confined tenant fun db => f db >>= fun x => k x.1 x.2 where
  own {db db'} hdb := by
    have hfirst := hf.own hdb
    generalize f db = x at hfirst
    generalize f db' = y at hfirst
    cases hfirst with
    | error e => exact .error e
    | ok a rows => exact (hk a).own rows
  other ht db b db' hok := by
    cases hx : f db with
    | error e =>
      rw [hx] at hok
      cases hok
    | ok x =>
      rw [hx] at hok
      exact ((hk x.1).other ht hok).trans (hf.other ht hx)

/-- The same kind of call for each of some values, one after another. -/
theorem foldlM {g : Database → β → Except StoreError Database}
    (h : ∀ b, Confined tenant fun db => (g db b).map ((), ·)) (l : List β) :
    Confined tenant fun db => (l.foldlM g db).map ((), ·) := by
  induction l with
  | nil => exact answer ()
  | cons b rest ih =>
    -- The first one is a call of its own, the others are one after it.
    have hchain : (fun db => ((b :: rest).foldlM g db).map ((), ·))
        = fun db => (g db b).map ((), ·) >>= fun x => (rest.foldlM g x.2).map ((), ·) := by
      funext db
      rw [List.foldlM_cons]
      cases g db b with
      | error e => rfl
      | ok db' => rfl
    rw [hchain]
    exact bind (h b) fun _ => ih

/-- A call that needs a value, and fails if that is not there or cannot be read. -/
theorem needing {g : Database → Except StoreError (Option β)}
    {f : Database → Except StoreError (α × Database)} {e : StoreError} (h : Reads tenant g)
    (failed : ∀ db e', g db = .error e' → f db = .error e')
    (missing : ∀ db, g db = .ok none → f db = .error e)
    (found : ∀ b, ∃ f', Confined tenant f' ∧ ∀ db, g db = .ok (some b) → f db = f' db) :
    Confined tenant f := by
  refine reading h fun x => ?_
  cases x with
  | error e' => exact ⟨_, error e', fun db => failed db e'⟩
  | ok x =>
    cases x with
    | none => exact ⟨_, error e, missing⟩
    | some b => exact found b

/-- A change of a deployment is confined: what is loaded, decided and written belongs to one
tenant. -/
theorem updateDeployment (id : DeploymentId) (f : Deployment → Except StoreError Deployment) :
    Confined tenant fun db => (db.updateDeployment tenant id f).map ((), ·) := by
  refine needing (.loadDeployment id)
    (fun db e hb => by rw [Database.updateDeployment, hb]; rfl)
    (fun db hb => by rw [Database.updateDeployment, hb]; rfl) fun d => ?_
  have hfound (db : Database) (hb : db.loadDeployment tenant id = .ok (some d)) :
      (db.updateDeployment tenant id f).map ((), ·)
        = do
          let d' ← f d
          return ((), db.storeDeployment tenant d' (← encode Codec.encodeDeployment d')) := by
    rw [Database.updateDeployment, hb]
    show ((f d).bind _).map _ = _
    cases f d with
    | error e => rfl
    | ok d' =>
      show ((encode Codec.encodeDeployment d').bind _).map _ = (encode _ d').bind _
      cases encode Codec.encodeDeployment d' <;> rfl
  cases hd : f d with
  | error e => exact ⟨_, error e, fun db hb => by rw [hfound db hb, hd]; rfl⟩
  | ok d' =>
    exact ⟨_, writing (encode Codec.encodeDeployment d') (.storeDeployment d') (),
      fun db hb => by rw [hfound db hb, hd]; rfl⟩

/-- Finishing a deployment is confined, though it need not decode the deployment. -/
theorem finishDeployment (id : DeploymentId) (finished : Time.Instant) :
    Confined tenant fun db => db.run tenant (.finishDeployment id finished) := by
  refine needing (.loadDeployment id) (fun db e hb => by rw [Database.run, hb]; rfl)
    (fun db hb => by rw [Database.run, hb]; rfl) fun d => ?_
  -- A deployment that is finished is not written again.
  by_cases hdone : d.isFinished = true
  · refine ⟨_, answer (), fun db hb => ?_⟩
    rw [Database.run, hb]
    exact if_pos hdone
  · refine ⟨_, writing (encode Codec.encodeDeployment (d.finishAt finished))
      (.storeDeployment (d.finishAt finished)) (), fun db hb => ?_⟩
    rw [Database.run, hb]
    exact if_neg hdone

/-- A change of a record is confined: what is loaded, answered and written belongs to one tenant. -/
theorem updateRecord (id : DeploymentId) (device : DeviceId) (f : DeviceRecord → DeviceRecord)
    (answer : DeviceRecord → α) :
    Confined tenant fun db =>
      (db.updateRecord tenant id device f).map fun x => (answer x.1, x.2) := by
  refine needing (.loadRecord id device)
    (fun db e hb => by rw [Database.updateRecord, hb]; rfl)
    (fun db hb => by rw [Database.updateRecord, hb]; rfl) fun r => ?_
  refine ⟨_, writing (encode Codec.encodeRecord (f r)) (.storeRecord (f r)) (answer r),
    fun db hb => ?_⟩
  rw [Database.updateRecord, hb]
  show ((encode Codec.encodeRecord (f r)).bind _).map _ = (encode _ (f r)).bind _
  cases encode Codec.encodeRecord (f r) <;> rfl

/-- The insertion of a deployment is confined. It fails if its tenant has a row of that name, and
another tenant may have one. -/
theorem insertDeployment (d : Deployment) :
    Confined tenant fun db => db.run tenant (.insertDeployment d) := by
  refine reading ((Reads.deployment d.id).map (·.isSome)) fun taken => ?_
  cases hrow : deploymentRow d with
  | error e => exact ⟨_, error e, fun db _ => by rw [Database.run, hrow]; rfl⟩
  | ok row =>
    cases taken with
    | true =>
      refine ⟨_, error (.deploymentExists d.id), fun db hb => ?_⟩
      rw [Database.run, hrow]
      exact if_pos hb
    | false =>
      refine ⟨_, write (.insertDeployment d.id row) (), fun db hb => ?_⟩
      rw [Database.run, hrow]
      exact if_neg (ne_true_of_eq_false hb)

/-- The insertion of a record is confined. It fails if its tenant has a row of that name. -/
theorem addRecord (r : DeviceRecord) :
    Confined tenant fun db => (Database.addRecord tenant db r).map ((), ·) := by
  refine reading ((Reads.record r.deploymentId r.deviceId).map (·.isSome)) fun taken => ?_
  cases hrow : recordRow r with
  | error e => exact ⟨_, error e, fun db _ => by rw [Database.addRecord, hrow]; rfl⟩
  | ok row =>
    cases taken with
    | true =>
      refine ⟨_, error (.recordExists r.deploymentId r.deviceId), fun db hb => ?_⟩
      rw [Database.addRecord, hrow]
      exact congrArg _ (if_pos hb)
    | false =>
      refine ⟨_, write (.insertRecord (r.deploymentId, r.deviceId) row) (), fun db hb => ?_⟩
      rw [Database.addRecord, hrow]
      exact congrArg _ (if_neg (ne_true_of_eq_false hb))

/-- Stopping a record is confined, the writing of its document included. -/
theorem stopRecord (r : DeviceRecord) (s : DeviceStatus) (finished : Time.Instant) :
    Confined tenant fun db => (do
      let r := r.stopAt s finished
      return db.storeRecord tenant r (← encode Codec.encodeRecord r)).map ((), ·) := by
  cases hdocument : encode Codec.encodeRecord (r.stopAt s finished) with
  | error e =>
    dsimp only
    rw [hdocument]
    exact error e
  | ok document =>
    dsimp only
    rw [hdocument]
    exact write (.storeRecord (r.stopAt s finished) document) ()

/-- The documents that are read decide which records are stopped and what is answered. -/
theorem stopRecords {rows : Database → List (RecordKey × RecordRow)} (h : Reads tenant rows)
    (s : DeviceStatus) (finished : Time.Instant) (answer : List DeviceRecord → α) :
    Confined tenant fun db => do
      let records ← decodeRows (rows db)
      return (answer records, ← db.stopRecords tenant records s finished) := by
  refine reading (h.map decodeRows) fun found => ?_
  cases found with
  | error e => exact ⟨_, error e, fun db hb => by rw [hb]; rfl⟩
  | ok records =>
    have hstop : Confined tenant fun db =>
        (db.stopRecords tenant records s finished).map ((), ·) :=
      foldlM (stopRecord · s finished) _
    refine ⟨_, bind hstop fun _ => Confined.answer (answer records), fun db hb => ?_⟩
    rw [hb]
    show (db.stopRecords tenant records s finished).bind _ = _
    cases db.stopRecords tenant records s finished <;> rfl

end Confined

/-- Every call is confined to the rows of the tenant that makes it. -/
theorem confined_run (tenant : TenantId) (c : StoreCall) :
    Confined tenant fun db => db.run tenant c := by
  cases c with
  | insertDeployment d => exact .insertDeployment d
  | deleteDeployment id => exact .write (.deleteDeployment id) ()
  | findDeployment id => exact .ask (.loadDeployment id) _
  | findUnfinished id =>
    -- What is read may fail to be decoded; it is decoded from rows of the tenant alone.
    exact .ask ((Reads.deployment id).map fun row =>
      decodeOption Codec.decodeDeployment ((row.filter (!·.finished)).map (·.document))) _
  | findDeployments q =>
    exact .ask ((Reads.deployments tenant).map (List.mapM fun e =>
      decode Codec.decodeDeployment e.2.document)) q.apply
  | countDevices id => exact .tell ((Reads.rowsOfDeployment id).map List.length)
  | moveDevice id old new => exact .updateDeployment id _
  | finishWithStats id stats finished => exact .updateDeployment id _
  | finishDeployment id finished => exact .finishDeployment id finished
  | insertRecords records => exact .foldlM .addRecord records
  | findRecord id device => exact .ask (.loadRecord id device) _
  | findOldestActive device =>
    exact .ask ((Reads.rowsOfDevice device).map fun rows =>
      decodeRows (rows.mergeSort rowBefore)) (·.find? (·.status.isActive))
  | findRecords id => exact .ask ((Reads.rowsOfDeployment id).map decodeRows) _
  | hasRecord id device => exact .tell ((Reads.record id device).map (·.isSome))
  | updateStatus id device status substate finished =>
    exact .updateRecord id device _ (·.status)
  | assignArtifact id device deviceType a => exact .updateRecord id device _ fun _ => ()
  | abortRecords id finished =>
    exact .stopRecords (.rowsOfDeployment id) .aborted finished fun _ => ()
  | decommissionRecords device finished =>
    exact .stopRecords (.rowsOfDevice device) .decommissioned finished _
  | countByStatus id => exact .ask ((Reads.rowsOfDeployment id).map countRows) _
  | markLog id device available => exact .updateRecord id device _ fun _ => ()
  | saveLog log =>
    exact .writing (encode Codec.encodeLog log) (.saveLog (log.deploymentId, log.deviceId)) ()
  | findLog id device => exact .ask ((Reads.log id device).map (decodeOption Codec.decodeLog)) _

/-- A database shows a tenant its own rows and nothing of the others. -/
theorem isolates (tenant : TenantId) :
    DataStore.Isolates tenant fun db db' : Database => db.part tenant = db'.part tenant where
  own {db db'} h c := by
    have hrun := (confined_run tenant c).own h
    simp only [DataStore.run]
    generalize db.run tenant c = x at hrun
    generalize db'.run tenant c = y at hrun
    cases hrun with
    | error e => exact ⟨rfl, h⟩
    | ok a rows => exact ⟨rfl, rows⟩
  other {db db'} h t ht c := by
    simp only [DataStore.run]
    cases hrun : db.run t c with
    | error e => exact h
    | ok x => exact ((confined_run t c).other ht hrun).trans h

end Database

/-- Files that can be opened again have the conditions for what is in them. When they are closed
and opened does not matter. -/
theorem FileStore.isolates (tenant : TenantId) :
    DataStore.Isolates tenant fun s s' : FileStore =>
      s.Ready ∧ s'.Ready ∧ s.database.part tenant = s'.database.part tenant where
  own {s s'} h c := by
    obtain ⟨hs, hs', hrows⟩ := h
    obtain ⟨hanswer, hready, hdatabase⟩ := hs.run tenant c
    obtain ⟨hanswer', hready', hdatabase'⟩ := hs'.run tenant c
    obtain ⟨hsame, hpart⟩ := (Database.isolates tenant).own hrows c
    rw [hanswer, hanswer', hdatabase, hdatabase']
    exact ⟨hsame, hready, hready', hpart⟩
  other {s s'} h t ht c := by
    obtain ⟨hs, hs', hrows⟩ := h
    obtain ⟨-, hready, hdatabase⟩ := hs.run t c
    rw [hdatabase]
    exact ⟨hready, hs', (Database.isolates tenant).other hrows ht c⟩

end Fleet
