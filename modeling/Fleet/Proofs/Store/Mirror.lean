import Fleet.Proofs.Codec.RoundTrip
import Fleet.Proofs.Store.Consistency
import Fleet.Proofs.Table.Slice

/-!
# `Fleet.Proofs.Store.Mirror`: rows that stand for values

`Database.Mirrors` ties the rows of a tenant to the part of the tenant in a store of tables:
under every name there is the row of the value under that name, and nothing else. The row of a
value holds its document and repeats some of it in columns (`DeploymentRow.of`,
`RecordRow.of`). All values are storable, so that every document is read back.

What is read from such rows is what the part holds (`loadRecord_eq`, `rowsOfDeployment_eq`,
`decodeRows_map`). Each write to the rows makes them mirror the part with the value written,
and leaves the rows of all other tenants alone; both together are `Database.Moves`.
-/

set_option autoImplicit false

namespace Fleet

open Fleet.Time Fleet.Codec

/-! ### Rows of values -/

/-- The document of a value, empty if it cannot be written. -/
def Codec.documentOf {α : Type} (enc : Encoder α) (a : α) : String :=
  match Database.encode enc a with
  | .ok document => document
  | .error _ => ""

/-- The document of a value that can be written is what is written. -/
theorem Codec.documentOf_eq {α : Type} {enc : Encoder α} {a : α} {document : String}
    (h : Database.encode enc a = .ok document) : documentOf enc a = document := by
  rw [documentOf, h]

/-- The row of a deployment. -/
def DeploymentRow.of (d : Deployment) : DeploymentRow where
  createdNanos := d.created.nanos
  finished := d.finished.isSome
  document := documentOf encodeDeployment d

/-- The row of a record. -/
def RecordRow.of (r : DeviceRecord) : RecordRow where
  status := r.status.token
  createdNanos := r.created.nanos
  document := documentOf encodeRecord r

/-- The document of a log. -/
def DeploymentLog.document (log : DeploymentLog) : String := documentOf encodeLog log

/-- The document of a storable deployment is written and read back. -/
theorem Deployment.Storable.document {d : Deployment} (h : d.Storable) :
    Database.encode encodeDeployment d = .ok (DeploymentRow.of d).document ∧
      Database.decode decodeDeployment (DeploymentRow.of d).document = .ok d := by
  obtain ⟨document, hwrite, hread⟩ := Database.encode_deployment h
  have hdocument : (DeploymentRow.of d).document = document := documentOf_eq hwrite
  rw [hdocument]
  exact ⟨hwrite, hread⟩

/-- The document of a storable record can be written, and the record is read back from it. -/
theorem DeviceRecord.Storable.document {r : DeviceRecord} (h : r.Storable) :
    Database.encode encodeRecord r = .ok (RecordRow.of r).document ∧
      Database.decode decodeRecord (RecordRow.of r).document = .ok r := by
  obtain ⟨document, hwrite, hread⟩ := Database.encode_record h
  have hdocument : (RecordRow.of r).document = document := documentOf_eq hwrite
  rw [hdocument]
  exact ⟨hwrite, hread⟩

/-- The document of a storable log can be written, and the log is read back from it. -/
theorem DeploymentLog.Storable.document {log : DeploymentLog} (h : log.Storable) :
    Database.encode encodeLog log = .ok log.document ∧
      Database.decode decodeLog log.document = .ok log := by
  obtain ⟨document, hwrite, hread⟩ := Database.encode_log h
  have hdocument : log.document = document := documentOf_eq hwrite
  rw [hdocument]
  exact ⟨hwrite, hread⟩

/-- The row of a record with the names it stands under. -/
def DeviceRecord.entry (tenant : TenantId) (r : DeviceRecord) : RecordKey × RecordRow :=
  ((tenant, r.deploymentId, r.deviceId), .of r)

namespace Database

/-- There is a row for a deployment if its time of creation fits a column and it can be written. -/
theorem deploymentRow_eq_ok_iff {d : Deployment} {row : DeploymentRow} :
    deploymentRow d = .ok row ↔ d.created.hasWordNanos = true ∧
      (encode encodeDeployment d).isOk = true ∧ row = .of d := by
  rw [deploymentRow, DeploymentRow.of, documentOf, timeColumn]
  cases d.created.hasWordNanos <;> cases encode encodeDeployment d <;>
    simp [bind, Except.bind, pure, Except.pure, Except.isOk, Except.toBool, eq_comm]

/-- There is a row for a record if its time of creation fits a column and it can be written. -/
theorem recordRow_eq_ok_iff {r : DeviceRecord} {row : RecordRow} :
    recordRow r = .ok row ↔ r.created.hasWordNanos = true ∧
      (encode encodeRecord r).isOk = true ∧ row = .of r := by
  rw [recordRow, RecordRow.of, documentOf, timeColumn]
  cases r.created.hasWordNanos <;> cases encode encodeRecord r <;>
    simp [bind, Except.bind, pure, Except.pure, Except.isOk, Except.toBool, eq_comm]

end Database

namespace Partition

/-- Everything in a part is storable and stands under its own names. -/
structure Durable (p : Partition) : Prop where
  keyed : p.Keyed
  deployment : ∀ {id d}, p.deployments.get? id = some d → d.Storable
  record : ∀ {k r}, p.records.get? k = some r → r.Storable
  log : ∀ {k l}, p.logs.get? k = some l → l.Storable

namespace Durable

variable {p : Partition}

/-- An empty part is durable. -/
theorem empty : Durable {} where
  keyed := .empty
  deployment h := by cases h
  record h := by cases h
  log h := by cases h

/-- A part stays durable with one more storable deployment, new or changed. -/
theorem withDeployment (h : p.Durable) {d : Deployment} (hd : d.Storable) :
    (p.withDeployment d.id d).Durable where
  keyed := h.keyed.withDeployment rfl
  deployment hget := by
    rw [get?_withDeployment] at hget
    split at hget
    · cases hget
      exact hd
    · exact h.deployment hget
  record := h.record
  log := h.log

/-- A part stays durable without a deployment. -/
theorem withoutDeployment (h : p.Durable) (id : DeploymentId) :
    Durable { p with deployments := p.deployments.erase id } where
  keyed :=
    { deployment := fun hget => by
        rw [Table.get?_erase] at hget
        split at hget
        · cases hget
        · exact h.keyed.deployment hget
      record := h.keyed.record }
  deployment hget := by
    rw [Table.get?_erase] at hget
    split at hget
    · cases hget
    · exact h.deployment hget
  record := h.record
  log := h.log

/-- A part stays durable with one more storable record, new or changed. -/
theorem withRecord (h : p.Durable) {r : DeviceRecord} (hr : r.Storable) :
    (p.withRecord r.key r).Durable where
  keyed := h.keyed.withRecord rfl
  deployment := h.deployment
  record hget := by
    rw [get?_withRecord] at hget
    split at hget
    · cases hget
      exact hr
    · exact h.record hget
  log := h.log

/-- A part stays durable with one more storable log. -/
theorem withLog (h : p.Durable) {log : DeploymentLog} (hlog : log.Storable) :
    (p.withLog log).Durable where
  keyed := h.keyed.withLog log
  deployment := h.deployment
  record := h.record
  log hget := by
    rw [Partition.withLog, Table.get?_insert] at hget
    split at hget
    · cases hget
      exact hlog
    · exact h.log hget

/-- The records of a part can be told by their names. -/
theorem get?_of_mem_values (h : p.Durable) {r : DeviceRecord} (hr : r ∈ p.records.values) :
    p.records.get? r.key = some r := by
  obtain ⟨k, hk⟩ := Table.mem_values_iff.1 hr
  rw [h.keyed.record hk]
  exact hk

/-- Every record of a durable part is storable. -/
theorem storable_of_mem_values (h : p.Durable) {r : DeviceRecord} (hr : r ∈ p.records.values) :
    r.Storable :=
  h.record (h.get?_of_mem_values hr)

end Durable

end Partition

namespace Database

/-- The rows of a tenant are those of the values of a part. -/
structure Mirrors (db : Database) (tenant : TenantId) (p : Partition) : Prop where
  durable : p.Durable
  deployments : db.deployments.slice tenant = p.deployments.mapValues .of
  records : db.records.slice tenant = p.records.mapValues .of
  logs : db.logs.slice tenant = p.logs.mapValues DeploymentLog.document

/-- A database follows another: it mirrors a part for one tenant, and all other tenants find
the rows that they found. -/
structure Moves (db db' : Database) (tenant : TenantId) (p : Partition) : Prop where
  mirrors : db'.Mirrors tenant p
  deployments : ∀ t, tenant ≠ t → db'.deployments.slice t = db.deployments.slice t
  records : ∀ t, tenant ≠ t → db'.records.slice t = db.records.slice t
  logs : ∀ t, tenant ≠ t → db'.logs.slice t = db.logs.slice t

/-- An empty database mirrors the empty part of every tenant. -/
theorem mirrors_empty (tenant : TenantId) : Mirrors {} tenant {} where
  durable := .empty
  deployments := rfl
  records := rfl
  logs := rfl

namespace Moves

variable {db db' db'' : Database} {tenant : TenantId} {p p' : Partition}

/-- A database that mirrors a part has moved to that part. -/
theorem refl (h : db.Mirrors tenant p) : Moves db db tenant p where
  mirrors := h
  deployments _ _ := rfl
  records _ _ := rfl
  logs _ _ := rfl

/-- A database that moves twice has moved, and other tenants have seen neither. -/
theorem trans (h : Moves db db' tenant p) (h' : Moves db' db'' tenant p') :
    Moves db db'' tenant p' where
  mirrors := h'.mirrors
  deployments t ht := (h'.deployments t ht).trans (h.deployments t ht)
  records t ht := (h'.records t ht).trans (h.records t ht)
  logs t ht := (h'.logs t ht).trans (h.logs t ht)

/-- The rows of another tenant mirror what they mirrored. -/
theorem other (h : Moves db db' tenant p) {t : TenantId} (ht : tenant ≠ t) {q : Partition}
    (hq : db.Mirrors t q) : db'.Mirrors t q where
  durable := hq.durable
  deployments := (h.deployments t ht).trans hq.deployments
  records := (h.records t ht).trans hq.records
  logs := (h.logs t ht).trans hq.logs

end Moves

/-- The status columns count as the records do. -/
theorem countRows_map (tenant : TenantId) (l : List DeviceRecord) :
    countRows (l.map (·.entry tenant)) = (match Stats.ofStatuses (l.map (·.status)) with
      | .ok st => .ok st
      | .error e => .error (.ofStats e)) := by
  rw [countRows, List.mapM_map, mapM_eq_pure_map (g := (·.status))]
  · rfl
  · intro r _
    simp only [Function.comp_apply, DeviceRecord.entry, RecordRow.of, DeviceStatus.ofToken?_token]
    rfl

namespace Mirrors

variable {db : Database} {tenant : TenantId} {p : Partition} (h : db.Mirrors tenant p)
include h

/-! ### Reading -/

/-- Under the name of a deployment there is its row. -/
theorem get?_deployments (id : DeploymentId) :
    db.deployments.get? (tenant, id) = (p.deployments.get? id).map .of := by
  rw [← Table.get?_slice, h.deployments, Table.get?_mapValues]

/-- Under the names of a record there is its row. -/
theorem get?_records (id : DeploymentId) (device : DeviceId) :
    db.records.get? (tenant, id, device) = (p.records.get? (id, device)).map .of := by
  rw [← Table.get?_slice, h.records, Table.get?_mapValues]

/-- Under the names of a log there is its document. -/
theorem get?_logs (id : DeploymentId) (device : DeviceId) :
    db.logs.get? (tenant, id, device)
      = (p.logs.get? (id, device)).map DeploymentLog.document := by
  rw [← Table.get?_slice, h.logs, Table.get?_mapValues]

/-- There is a row for just the deployments of the part. -/
theorem contains_deployments (id : DeploymentId) :
    db.deployments.contains (tenant, id) = p.deployments.contains id := by
  rw [← Table.contains_slice, h.deployments, Table.contains_mapValues]

/-- There is a row for just the records of the part. -/
theorem contains_records (id : DeploymentId) (device : DeviceId) :
    db.records.contains (tenant, id, device) = p.records.contains (id, device) := by
  rw [← Table.contains_slice, h.records, Table.contains_mapValues]

/-- What is loaded under a name is the deployment of the part, since its document is read back. -/
theorem loadDeployment_eq (id : DeploymentId) :
    db.loadDeployment tenant id = .ok (p.deployments.get? id) := by
  rw [loadDeployment, h.get?_deployments, Option.map_map]
  cases hget : p.deployments.get? id with
  | none => rfl
  | some d =>
    show (decode decodeDeployment (DeploymentRow.of d).document).map some = _
    rw [(h.durable.deployment hget).document.2]
    rfl

/-- What is loaded under two names is the record of the part, since its document is read back. -/
theorem loadRecord_eq (id : DeploymentId) (device : DeviceId) :
    db.loadRecord tenant id device = .ok (p.records.get? (id, device)) := by
  rw [loadRecord, h.get?_records, Option.map_map]
  cases hget : p.records.get? (id, device) with
  | none => rfl
  | some r =>
    show (decode decodeRecord (RecordRow.of r).document).map some = _
    rw [(h.durable.record hget).document.2]
    rfl

/-- The column tells whether a deployment is finished as its document does. -/
theorem decode_findUnfinished (id : DeploymentId) :
    decodeOption decodeDeployment
      (((db.deployments.get? (tenant, id)).filter (!·.finished)).map (·.document))
      = .ok ((p.deployments.get? id).filter (!·.isFinished)) := by
  have hload := h.loadDeployment_eq id
  rw [loadDeployment, h.get?_deployments] at hload
  rw [h.get?_deployments]
  cases hget : p.deployments.get? id with
  | none => rfl
  | some d =>
    rw [hget] at hload
    -- The row is passed over by its column, without a look at its document.
    have hcolumn : (DeploymentRow.of d).finished = d.isFinished := rfl
    rw [Option.map_some, Option.filter_some, Option.filter_some, hcolumn]
    cases d.isFinished with
    | false => exact hload
    | true => rfl

/-- The log that is read is that of the part. -/
theorem decode_findLog (id : DeploymentId) (device : DeviceId) :
    decodeOption decodeLog (db.logs.get? (tenant, id, device))
      = .ok (p.logs.get? (id, device)) := by
  rw [h.get?_logs]
  cases hget : p.logs.get? (id, device) with
  | none => rfl
  | some log =>
    show (decode decodeLog log.document).map some = _
    rw [(h.durable.log hget).document.2]
    rfl

/-- The rows of the tenant's records, in the order of the records. -/
theorem recordRows_eq (test : DeploymentId × DeviceId → Bool) :
    db.recordRows (fun k => k.1 = tenant && test k.2)
      = (p.records.values.filter fun r => test r.key).map (·.entry tenant) := by
  -- The rows of a tenant stand in the order of its records, since both are sorted by name.
  have hentries : db.records.entries.filter (·.1.1 = tenant)
      = p.records.values.map (·.entry tenant) := by
    rw [Table.filter_entries_eq, h.records, Table.mapValues, Table.values, List.map_map,
      List.map_map]
    refine List.map_congr_left fun e he => ?_
    have hkey : e.2.key = e.1 := h.durable.keyed.record (Table.get?_of_mem_entries he)
    exact congrArg (fun k => ((tenant, k), RecordRow.of e.2)) hkey.symm
  have htest : db.records.entries.filter (fun e => e.1.1 = tenant && test e.1.2)
      = (db.records.entries.filter (·.1.1 = tenant)).filter fun e => test e.1.2 := by
    rw [List.filter_filter]
    exact List.filter_congr fun e _ => Bool.and_comm _ _
  rw [recordRows, htest, hentries, List.filter_map]
  rfl

/-- The rows of a deployment are those of its records, in the same order. -/
theorem rowsOfDeployment_eq (id : DeploymentId) :
    db.rowsOfDeployment tenant id = (p.recordsOf id).map (·.entry tenant) :=
  h.recordRows_eq (·.1 = id)

/-- The rows of a device are those of its records, in the same order. -/
theorem rowsOfDevice_eq (device : DeviceId) :
    db.rowsOfDevice tenant device
      = (p.records.values.filter (·.deviceId = device)).map (·.entry tenant) :=
  h.recordRows_eq (·.2 = device)

/-- Rows of records in the part are decoded to the records. -/
theorem decodeRows_map {l : List DeviceRecord} (hl : ∀ r ∈ l, r ∈ p.records.values) :
    decodeRows (l.map (·.entry tenant)) = .ok l := by
  rw [decodeRows, List.mapM_map, mapM_eq_pure_map (g := id), List.map_id]
  · rfl
  · intro r hr
    rw [Function.comp_apply]
    exact (h.durable.storable_of_mem_values (hl r hr)).document.2

/-- The rows of a deployment are decoded to its records. -/
theorem decode_rowsOfDeployment (id : DeploymentId) :
    decodeRows (db.rowsOfDeployment tenant id) = .ok (p.recordsOf id) := by
  rw [h.rowsOfDeployment_eq]
  exact h.decodeRows_map fun r hr => (List.mem_filter.1 hr).1

/-- The rows of a device are decoded to its records. -/
theorem decode_rowsOfDevice (device : DeviceId) :
    decodeRows (db.rowsOfDevice tenant device)
      = .ok (p.records.values.filter (·.deviceId = device)) := by
  rw [h.rowsOfDevice_eq]
  exact h.decodeRows_map fun r hr => (List.mem_filter.1 hr).1

/-- The rows of all deployments are decoded to the deployments, in the order of names. -/
theorem decode_deployments :
    ((db.deployments.entries.filter (·.1.1 = tenant)).mapM fun e =>
      decode decodeDeployment e.2.document) = .ok p.deployments.values := by
  rw [Table.filter_entries_eq, h.deployments, Table.mapValues, List.map_map, List.mapM_map,
    mapM_eq_pure_map (g := (·.2))]
  · rfl
  · intro e he
    rw [Function.comp_apply]
    exact (h.durable.deployment (Table.get?_of_mem_entries he)).document.2

/-! ### Writing -/

/-- Inserting the row of a storable deployment mirrors the insertion of the deployment. -/
theorem insertDeployment {d : Deployment} (hd : d.Storable) :
    Moves db { db with deployments := db.deployments.insert (tenant, d.id) (.of d) } tenant
      (p.withDeployment d.id d) where
  mirrors :=
    { durable := h.durable.withDeployment hd
      deployments := by
        rw [Table.slice_insert, h.deployments, Partition.withDeployment, Table.mapValues_insert]
      records := h.records
      logs := h.logs }
  deployments t ht := Table.slice_insert_of_ne _ _ _ ht _
  records _ _ := rfl
  logs _ _ := rfl

/-- Erasing a row mirrors the deletion of the deployment. -/
theorem deleteDeployment (id : DeploymentId) :
    Moves db { db with deployments := db.deployments.erase (tenant, id) } tenant
      { p with deployments := p.deployments.erase id } where
  mirrors :=
    { durable := h.durable.withoutDeployment id
      deployments := by rw [Table.slice_erase, h.deployments, Table.mapValues_erase]
      records := h.records
      logs := h.logs }
  deployments t ht := Table.slice_erase_of_ne _ _ _ ht
  records _ _ := rfl
  logs _ _ := rfl

/-- A changed deployment is written to the row of its name. The column of its creation is not
written again, and need not be. -/
theorem storeDeployment {d old : Deployment} (hget : p.deployments.get? d.id = some old)
    (hcreated : d.created = old.created) (hd : d.Storable) :
    Moves db (db.storeDeployment tenant d (DeploymentRow.of d).document) tenant
      (p.withDeployment d.id d) := by
  have hrow : db.deployments.get? (tenant, d.id) = some (.of old) := by
    rw [h.get?_deployments, hget, Option.map_some]
  -- The old row has the same column of creation, so that the new one is that of the value.
  have hwrite : db.storeDeployment tenant d (DeploymentRow.of d).document
      = { db with deployments := db.deployments.insert (tenant, d.id) (.of d) } := by
    rw [Database.storeDeployment, Table.modify_of_get? _ hrow]
    simp only [DeploymentRow.of, hcreated]
  rw [hwrite]
  exact h.insertDeployment hd

/-- Inserting the row of a storable record mirrors the insertion of the record. -/
theorem insertRecord {r : DeviceRecord} (hr : r.Storable) :
    Moves db { db with records := db.records.insert (tenant, r.deploymentId, r.deviceId) (.of r) }
      tenant (p.withRecord r.key r) where
  mirrors :=
    { durable := h.durable.withRecord hr
      deployments := h.deployments
      records := by
        rw [Table.slice_insert, h.records, Partition.withRecord, Table.mapValues_insert]
        rfl
      logs := h.logs }
  deployments _ _ := rfl
  records t ht := Table.slice_insert_of_ne _ _ _ ht _
  logs _ _ := rfl

/-- A changed record is written to the row of its names, as a deployment is. -/
theorem storeRecord {r old : DeviceRecord} (hget : p.records.get? r.key = some old)
    (hcreated : r.created = old.created) (hr : r.Storable) :
    Moves db (db.storeRecord tenant r (RecordRow.of r).document) tenant
      (p.withRecord r.key r) := by
  have hrow : db.records.get? (tenant, r.deploymentId, r.deviceId) = some (.of old) := by
    rw [h.get?_records]
    show (p.records.get? r.key).map RecordRow.of = _
    rw [hget, Option.map_some]
  have hwrite : db.storeRecord tenant r (RecordRow.of r).document
      = { db with records := db.records.insert (tenant, r.deploymentId, r.deviceId) (.of r) } := by
    rw [Database.storeRecord, Table.modify_of_get? _ hrow]
    simp only [RecordRow.of, hcreated]
  rw [hwrite]
  exact h.insertRecord hr

/-- Saving the document of a storable log mirrors the saving of the log. -/
theorem saveLog {log : DeploymentLog} (hlog : log.Storable) :
    Moves db { db with
      logs := db.logs.insert (tenant, log.deploymentId, log.deviceId) log.document }
      tenant (p.withLog log) where
  mirrors :=
    { durable := h.durable.withLog hlog
      deployments := h.deployments
      records := h.records
      logs := by
        rw [Table.slice_insert, h.logs, Partition.withLog, Table.mapValues_insert]
        rfl }
  deployments _ _ := rfl
  records _ _ := rfl
  logs t ht := Table.slice_insert_of_ne _ _ _ ht _

end Mirrors

end Database

end Fleet
