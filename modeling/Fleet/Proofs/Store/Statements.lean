import Fleet.Proofs.Store.InPlace

/-!
# `Fleet.Proofs.Store.Statements`: statement by statement to what a call does

The program of a call on a database selects, decides and writes with statements of their own, and
any of them may be refused. `Connection.Enacts` compares such a program with an outcome, an answer
with a database or an error: whenever the program succeeds, it does so with the answer of the
outcome and at its database, and when nothing is refused, it answers what the outcome says. Where
a program stops is left open, since a transaction is half done then.

The relation has one rule for each way to build a program. `Database.steps_enacts` puts them
together: the program of a call enacts what `Database.run` says of the call.
-/

set_option autoImplicit false

namespace Fleet

open Fleet.Time Fleet.Codec

namespace Connection

variable {α β : Type}

/-- A program comes to an outcome on a database, unless it is kept from it. -/
structure Enacts (m : InPlace StoreError Connection α) (db : Database)
    (x : Except StoreError (α × Database)) : Prop where
  /-- Whatever is refused, the program succeeds with the outcome alone. -/
  success : ∀ {troubles a conn}, m ⟨db, troubles⟩ = (.ok a, conn) → x = .ok (a, conn.database)
  /-- If nothing is refused, the program answers what the outcome says. -/
  calm : ∃ conn, m ⟨db, []⟩ = (x.map (·.1), conn) ∧ conn.troubles = []

namespace Enacts

variable {m : InPlace StoreError Connection α} {k : α → InPlace StoreError Connection β}
  {db : Database} {x : Except StoreError (α × Database)}

/-- A program that answers enacts its answer. -/
theorem pure (a : α) : Enacts (pure a) db (.ok (a, db)) where
  success h := by cases h; rfl
  calm := ⟨_, rfl, rfl⟩

/-- A program that fails enacts its error. -/
theorem throw (e : StoreError) :
    Enacts (throw e : InPlace StoreError Connection α) db (.error e) where
  success h := by cases h
  calm := ⟨_, rfl, rfl⟩

/-- A decision enacts what is decided. -/
theorem ofExcept (y : Except StoreError α) :
    Enacts (MonadExcept.ofExcept y) db (y.map (·, db)) := by
  cases y with
  | ok a => exact pure a
  | error e => exact throw e

/-- A program that decides and goes on enacts what comes of the decision. -/
theorem ofExcept_bind {y : Except StoreError α} {z : α → Except StoreError (β × Database)}
    (h : ∀ a, Enacts (k a) db (z a)) : Enacts (MonadExcept.ofExcept y >>= k) db (y >>= z) := by
  cases y with
  | ok a => exact h a
  | error e => exact throw e

/-- A program that goes on after an outcome goes on with the answer and the database. -/
theorem bind (h : Enacts m db x) {y : α → Database → Except StoreError (β × Database)}
    (hk : ∀ a db', x = .ok (a, db') → Enacts (k a) db' (y a db')) :
    Enacts (m >>= k) db (x >>= fun r => y r.1 r.2) where
  success {troubles b conn} hrun := by
    cases hm : m ⟨db, troubles⟩ with
    | mk answer between =>
      cases answer with
      | error e =>
        rw [InPlace.bind_error hm] at hrun
        cases hrun
      | ok a =>
        rw [InPlace.bind_ok hm] at hrun
        have hx := h.success hm
        rw [hx]
        exact (hk a _ hx).success hrun
  calm := by
    obtain ⟨between, hm, hcalm⟩ := h.calm
    cases hx : x with
    | error e =>
      rw [hx] at hm
      exact ⟨between, InPlace.bind_error hm, hcalm⟩
    | ok r =>
      obtain ⟨a, db'⟩ := r
      rw [hx] at hm
      -- The program has come to the database of the outcome.
      have hbetween : between = ⟨db', []⟩ := by
        have hsame := (h.success hm).symm.trans hx
        cases between
        cases hsame
        cases hcalm
        rfl
      obtain ⟨conn, hrun, hend⟩ := (hk a db' hx).calm
      refine ⟨conn, ?_, hend⟩
      rw [InPlace.bind_ok hm, hbetween]
      exact hrun

/-- A program may answer something made from its answer. -/
theorem answer {a : α} {z : Except StoreError Database}
    (h : Enacts m db (do return (a, ← z))) (g : α → β) :
    Enacts (do return g (← m)) db (do return (g a, ← z)) := by
  have hall := h.bind (k := fun a => Pure.pure (g a)) (y := fun a db => .ok (g a, db))
    fun a _ _ => pure (g a)
  cases z <;> exact hall

/-- A statement enacts what it says. If it is refused, the program does not succeed. -/
theorem statement (f : Database → Except StoreError (α × Database)) (db : Database) :
    Enacts (Connection.statement f) db (f db) where
  success {troubles a conn} h := by
    rw [Connection.statement] at h
    split at h
    · cases h
    · dsimp only at h
      split at h
      · next hf =>
        cases h
        exact hf
      · cases h
  calm := by
    rw [Connection.statement]
    dsimp only
    cases f db with
    | ok r => exact ⟨_, rfl, rfl⟩
    | error e => exact ⟨_, rfl, rfl⟩

/-- A write enacts the changed database. -/
theorem write (f : Database → Database) (db : Database) :
    Enacts (Connection.write f) db (.ok ((), f db)) :=
  statement _ db

/-- A selection with its decoding enacts what is decoded. -/
theorem fetch (f : Database → Except StoreError α) (db : Database) :
    Enacts (Connection.fetch f) db ((f db).map (·, db)) :=
  (statement _ db).bind (k := fun y => MonadExcept.ofExcept y) (y := fun y db => y.map (·, db))
    fun y _ _ => ofExcept y

/-- A program that reads what it selected fails with it, or goes on with it. -/
theorem fetch_bind (f : Database → Except StoreError α) {y : Except StoreError (β × Database)}
    (herror : ∀ e, f db = .error e → y = .error e)
    (hok : ∀ a, f db = .ok a → Enacts (k a) db y) : Enacts (Connection.fetch f >>= k) db y := by
  have hfetch := fetch f db
  cases hf : f db with
  | error e =>
    rw [hf] at hfetch
    rw [herror e hf]
    exact hfetch.bind (y := fun _ _ => .error e) fun _ _ hx => by cases hx
  | ok a =>
    rw [hf] at hfetch
    refine hfetch.bind (y := fun _ _ => y) fun a' db' hx => ?_
    cases hx
    exact hok a hf

/-- A program that needs a value fails without it, and else goes on with it. -/
theorem expect_bind (f : Database → Except StoreError (Option α)) (missing : StoreError)
    {y : Except StoreError (β × Database)} (herror : ∀ e, f db = .error e → y = .error e)
    (hnone : f db = .ok none → y = .error missing)
    (hsome : ∀ a, f db = .ok (some a) → Enacts (k a) db y) :
    Enacts (Connection.expect f missing >>= k) db y := by
  rw [Connection.expect, bind_assoc]
  refine fetch_bind f herror fun found hf => ?_
  cases found with
  | none =>
    rw [hnone hf]
    exact (throw missing).bind (y := fun _ _ => .error missing) fun _ _ hx => by cases hx
  | some a => exact hsome a hf

/-- The statements that begin and commit a transaction write nothing. -/
theorem attempt (h : Enacts m db x) :
    Enacts (do
      Connection.write id
      let a ← m
      Connection.write id
      return a) db x := by
  have hcommit (a : α) (db' : Database) :
      Enacts (do Connection.write id; return a) db' (.ok (a, db')) :=
    (write id db').bind (k := fun _ => Pure.pure a) (y := fun _ db => .ok (a, db))
      fun _ _ _ => pure a
  have hbody : Enacts (do
      let a ← m
      Connection.write id
      return a) db (x >>= fun r => .ok (r.1, r.2)) :=
    h.bind (y := fun a db => .ok (a, db)) fun a db' _ => hcommit a db'
  have hx : (x >>= fun r => .ok (r.1, r.2)) = x := by cases x <;> rfl
  rw [hx] at hbody
  refine (write id db).bind (y := fun _ _ => x) fun _ db' hbegin => ?_
  cases hbegin
  exact hbody

/-- What becomes of the database of a transaction that failed is not part of an outcome. -/
theorem transaction (engine : Engine) (h : Enacts m db x) :
    Enacts (Connection.transaction engine m) db x where
  success {troubles a conn} hrun := by
    rw [Connection.transaction] at hrun
    dsimp only at hrun
    split at hrun
    · next hattempt =>
      cases hrun
      exact h.attempt.success hattempt
    · cases hrun
  calm := by
    obtain ⟨conn, hattempt, hcalm⟩ := h.attempt.calm
    rw [Connection.transaction]
    dsimp only
    rw [hattempt]
    cases x with
    | ok r => exact ⟨conn, rfl, hcalm⟩
    | error e => exact ⟨_, rfl, hcalm⟩

end Enacts

end Connection

namespace Database

open Connection

variable {db : Database} (engine : Engine) (tenant : TenantId)

/-- Inserting records one by one, by induction on the batch, enacts the insertion of the batch. -/
theorem insertEach_enacts (l : List DeviceRecord) (db : Database) :
    Enacts (insertEach tenant l) db ((l.foldlM (addRecord tenant) db).map ((), ·)) := by
  induction l generalizing db with
  | nil => exact .pure ()
  | cons r rest ih =>
    have hstored : Enacts (do
        statement fun db => (addRecord tenant db r).map ((), ·)
        insertEach tenant rest) db
          ((addRecord tenant db r).map ((), ·) >>= fun x =>
            (rest.foldlM (addRecord tenant) x.2).map ((), ·)) :=
      (Enacts.statement _ db).bind (k := fun _ => insertEach tenant rest)
        (y := fun _ db => (rest.foldlM (addRecord tenant) db).map ((), ·)) fun _ db' _ => ih db'
    have hall : Enacts (insertEach tenant (r :: rest)) db (recordRow r >>= fun _ =>
        (addRecord tenant db r).map ((), ·) >>= fun x =>
          (rest.foldlM (addRecord tenant) x.2).map ((), ·)) :=
      .ofExcept_bind fun _ => hstored
    -- To store a record makes its row, too.
    have hsame : (((r :: rest).foldlM (addRecord tenant) db).map ((), ·))
        = (recordRow r >>= fun _ => (addRecord tenant db r).map ((), ·) >>= fun x =>
          (rest.foldlM (addRecord tenant) x.2).map ((), ·)) := by
      rw [List.foldlM_cons]
      cases hadd : addRecord tenant db r with
      | ok db' =>
        cases hrow : recordRow r with
        | ok row => rfl
        | error e =>
          rw [addRecord, hrow] at hadd
          cases hadd
      | error e =>
        cases hrow : recordRow r with
        | ok row => rfl
        | error e' =>
          rw [addRecord, hrow] at hadd
          cases hadd
          rfl
    rw [hsame]
    exact hall

/-- Writing the document of a deployment and storing it enacts both at once. -/
theorem putDeployment_enacts (d : Deployment) (db : Database) :
    Enacts (putDeployment tenant d) db (do
      return ((), db.storeDeployment tenant d (← encode encodeDeployment d))) :=
  .ofExcept_bind fun document => .write (·.storeDeployment tenant d document) db

/-- Writing the document of a record and storing it enacts both at once. -/
theorem putRecord_enacts (r : DeviceRecord) (db : Database) :
    Enacts (putRecord tenant r) db (do
      return ((), db.storeRecord tenant r (← encode encodeRecord r))) :=
  .ofExcept_bind fun document => .write (·.storeRecord tenant r document) db

/-- Stopping records one by one, by induction on the list, enacts stopping those of them that are
active. -/
theorem stopEach_enacts (s : DeviceStatus) (finished : Instant) (l : List DeviceRecord)
    (db : Database) :
    Enacts (stopEach tenant s finished l) db
      (do return ((l.filter (·.status.isActive)).map (·.deploymentId),
        ← db.stopRecords tenant l s finished)) := by
  induction l generalizing db with
  | nil => exact .pure []
  | cons r rest ih =>
    rw [stopEach, stopRecords, List.filter_cons]
    by_cases hactive : r.status.isActive = true
    · rw [if_pos hactive, if_pos hactive]
      have hall := (putRecord_enacts tenant (r.stopAt s finished) db).bind
        (y := fun _ db' => do
          return (r.deploymentId :: (rest.filter (·.status.isActive)).map (·.deploymentId),
            ← db'.stopRecords tenant rest s finished))
        fun _ db' _ => (ih db').answer (r.deploymentId :: ·)
      rw [List.foldlM_cons]
      dsimp only at hall ⊢
      cases hdocument : encode encodeRecord (r.stopAt s finished) with
      | error e => rw [hdocument] at hall; exact hall
      | ok document => rw [hdocument] at hall; exact hall
    · rw [if_neg hactive, if_neg hactive]
      exact ih db

/-- A program that asks the database and writes nothing enacts what is answered. -/
theorem look_enacts (c : StoreCall) (db : Database)
    (h : ∀ a db', db.run tenant c = .ok (a, db') → db' = db) :
    Enacts (look tenant c) db (db.run tenant c) := by
  have hsame : ((db.run tenant c).map (·.1)).map (·, db) = db.run tenant c := by
    cases hrun : db.run tenant c with
    | error e => rfl
    | ok x =>
      rw [← h x.1 x.2 hrun]
      rfl
  rw [← hsame]
  exact .fetch _ db

/-- What is read in a database leaves the database. -/
theorem eq_of_bind_pure {α β : Type} {x : Except StoreError β} {g : β → α} {a : α}
    {db db' : Database} (h : (x >>= fun b => pure (g b, db)) = .ok (a, db')) : db' = db := by
  cases x with
  | error e => cases h
  | ok b => cases h; rfl

/-- The program that loads, changes and stores a record enacts the change. -/
theorem changeRecord_enacts (id : DeploymentId) (device : DeviceId)
    (f : DeviceRecord → DeviceRecord) (db : Database) :
    Enacts (changeRecord tenant id device f) db (db.updateRecord tenant id device f) := by
  refine .expect_bind (·.loadRecord tenant id device) (.noRecord id device) ?_ ?_ ?_
  · intro e hload
    rw [updateRecord, hload]
    rfl
  · intro hload
    rw [updateRecord, hload]
    rfl
  · intro r hload
    have hput := (putRecord_enacts tenant (f r) db).bind (k := fun _ => Pure.pure r)
      (y := fun _ db => .ok (r, db)) fun _ _ _ => .pure r
    rw [updateRecord, hload]
    show Enacts _ db ((encode encodeRecord (f r)).bind _)
    cases hdocument : encode encodeRecord (f r) with
    | error e => rw [hdocument] at hput; exact hput
    | ok document => rw [hdocument] at hput; exact hput

/-- A change of a record in a transaction, of which a part is answered. -/
theorem changeRecord_map_enacts (id : DeploymentId) (device : DeviceId)
    (f : DeviceRecord → DeviceRecord) {α : Type} (g : DeviceRecord → α) (db : Database) :
    Enacts (transaction engine do return g (← changeRecord tenant id device f)) db
      ((db.updateRecord tenant id device f).map fun (r, db) => (g r, db)) := by
  have hall := (changeRecord_enacts tenant id device f db).bind (k := fun r => Pure.pure (g r))
    (y := fun r db => .ok (g r, db)) fun r _ _ => .pure (g r)
  cases hupdate : db.updateRecord tenant id device f with
  | ok x => rw [hupdate] at hall; exact .transaction engine hall
  | error e => rw [hupdate] at hall; exact .transaction engine hall

/-- The program that loads, changes and stores a deployment in a transaction enacts the change, if
what is done with the loaded one does. -/
theorem changeDeployment_enacts (id : DeploymentId) (f : Deployment → Except StoreError Deployment)
    {m : Deployment → InPlace StoreError Connection Unit}
    (h : ∀ d, Enacts (m d) db (do
      let d' ← f d
      return ((), db.storeDeployment tenant d' (← encode encodeDeployment d')))) :
    Enacts (transaction engine do m (← expectDeployment tenant id)) db
      ((db.updateDeployment tenant id f).map ((), ·)) := by
  refine .transaction engine
    (.expect_bind (·.loadDeployment tenant id) (.noDeployment id) ?_ ?_ ?_)
  · intro e hload
    rw [updateDeployment, hload]
    rfl
  · intro hload
    rw [updateDeployment, hload]
    rfl
  · intro d hload
    have hsame : (db.updateDeployment tenant id f).map ((), ·)
        = do
          let d' ← f d
          return ((), db.storeDeployment tenant d' (← encode encodeDeployment d')) := by
      rw [updateDeployment, hload]
      show ((f d).bind _).map ((), ·) = _
      cases f d with
      | error e => rfl
      | ok d' =>
        show ((encode encodeDeployment d').bind _).map _ = (encode _ d').bind _
        cases encode encodeDeployment d' <;> rfl
    rw [hsame]
    exact h d

/-- The program of a call fails or comes to what the call is said to do. If nothing is refused, it
comes to that. -/
theorem steps_enacts (c : StoreCall) (db : Database) :
    Enacts (steps engine tenant c) db (db.run tenant c) := by
  cases c with
  | insertDeployment d =>
    -- The document is written before the statement is sent, so one without text fails with no
    -- trace.
    have hall : Enacts (do
        let _ ← MonadExcept.ofExcept (deploymentRow d)
        statement (·.run tenant (.insertDeployment d))) db
          (deploymentRow d >>= fun _ => db.run tenant (.insertDeployment d)) :=
      .ofExcept_bind fun _ => .statement _ db
    have hsame : db.run tenant (.insertDeployment d)
        = (deploymentRow d >>= fun _ => db.run tenant (.insertDeployment d)) := by
      rw [run]
      cases deploymentRow d <;> rfl
    rw [hsame]
    exact hall
  | deleteDeployment id => exact Enacts.statement (·.run tenant (.deleteDeployment id)) db
  | saveLog log =>
    have hall : Enacts (do
        let _ ← MonadExcept.ofExcept (encode encodeLog log)
        statement (·.run tenant (.saveLog log))) db
          (encode encodeLog log >>= fun _ => db.run tenant (.saveLog log)) :=
      .ofExcept_bind fun _ => .statement _ db
    have hsame : db.run tenant (.saveLog log)
        = (encode encodeLog log >>= fun _ => db.run tenant (.saveLog log)) := by
      rw [run]
      cases encode encodeLog log <;> rfl
    rw [hsame]
    exact hall
  | moveDevice id old new =>
    refine changeDeployment_enacts engine tenant id _ fun d => ?_
    -- The program moves the counters one by one, the call in one step.
    rw [Deployment.onStats, Stats.move_eq]
    cases d.stats.transition old new with
    | ok st => exact putDeployment_enacts tenant (d.withStats st) db
    | error e => exact .throw _
  | finishWithStats id stats finished =>
    exact changeDeployment_enacts engine tenant id
      (fun d => .ok ((d.withStats stats).finishAt finished)) fun d =>
        putDeployment_enacts tenant ((d.withStats stats).finishAt finished) db
  | finishDeployment id finished =>
    refine .transaction engine
      (.expect_bind (·.loadDeployment tenant id) (.noDeployment id) ?_ ?_ ?_)
    · intro e hload
      rw [run, hload]
      rfl
    · intro hload
      rw [run, hload]
      rfl
    · intro d hload
      rw [run, hload]
      show Enacts _ db (if d.isFinished then .ok ((), db)
        else do
          let d := d.finishAt finished
          return ((), db.storeDeployment tenant d (← encode encodeDeployment d)))
      -- A deployment that is finished is not written again.
      split
      · exact .pure ()
      · exact putDeployment_enacts tenant (d.finishAt finished) db
  | insertRecords records => exact .transaction engine (insertEach_enacts tenant records db)
  | updateStatus id device status substate finished =>
    exact changeRecord_map_enacts engine tenant id device (·.withStatus status substate finished)
      (·.status) db
  | assignArtifact id device deviceType a =>
    exact changeRecord_map_enacts engine tenant id device (·.withArtifact deviceType a)
      (fun _ => ()) db
  | markLog id device available =>
    exact changeRecord_map_enacts engine tenant id device (·.withLogMark available)
      (fun _ => ()) db
  | abortRecords id finished =>
    refine .transaction engine
      (.fetch_bind (fun db => decodeRows (db.rowsOfDeployment tenant id)) ?_ ?_)
    · intro e hrows
      rw [run, hrows]
      rfl
    · intro records hrows
      rw [run, hrows]
      exact (stopEach_enacts tenant .aborted finished records db).answer fun _ => ()
  | decommissionRecords device finished =>
    refine .transaction engine
      (.fetch_bind (fun db => decodeRows (db.rowsOfDevice tenant device)) ?_ ?_)
    · intro e hrows
      rw [run, hrows]
      rfl
    · intro records hrows
      rw [run, hrows]
      exact (stopEach_enacts tenant .decommissioned finished records db).answer sortedNames
  | findDeployment | findUnfinished | findDeployments | findRecord | findOldestActive
  | findRecords | countByStatus | findLog =>
    exact look_enacts tenant _ db fun _ _ h => eq_of_bind_pure h
  | countDevices | hasRecord => exact look_enacts tenant _ db fun _ _ h => by cases h; rfl

end Database

end Fleet
