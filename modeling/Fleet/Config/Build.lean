import Fleet.Audit
import Fleet.Config.Check
import Fleet.Objects.Service

/-!
# `Fleet.Config.Build`: the parts of the service from its settings

A switch between the configured storages is built, each of them after it has answered where
that is asked for, and the sink for audit events.
-/

set_option autoImplicit false

namespace Fleet

open Fleet.Http Fleet.Time

namespace BucketConfig

/-- What requests are signed with, if both halves are configured. -/
def credentials (c : BucketConfig) : Option S3.Credentials :=
  match c.key, c.secret with
  | some key, some secret => some { key, secret, token := c.token }
  | _, _ => none

/-- The options of the storage in a bucket. -/
def options (c : BucketConfig) (contentType : Option String) : S3.Options :=
  { bucket := c.bucket
    region := c.region
    uri := c.uri
    externalUri := c.externalUri
    credentials := c.credentials
    forcePathStyle := c.forcePathStyle
    useAccelerate := c.useAccelerate
    bufferSize := c.bufferSize
    contentType
    createBucket := c.createBucket }

end BucketConfig

/-- The options of the storage in a container. -/
def ContainerConfig.options (c : ContainerConfig) (contentType filenameSuffix : Option String) :
    Checked Azure.Options := do
  pure
    { container := c.container
      account := ← c.account
      contentType
      filenameSuffix
      bufferSize := c.bufferSize }

/-- A task of a storage, the failure of which means that the storage is not available. -/
def available {α : Type} (kind : StorageType) (task : Exchanging ObjectError α) :
    Exchanging ConfigError α :=
  fun n =>
    let (outcome, n) := task n
    (outcome.mapError fun e =>
      .io (kind.token ++ " storage unavailable: " ++ e.message), n)

/-- The first element that passes a test, and the others, the last of which stands in its place. -/
def swapRemove? {α : Type} (p : α → Bool) (l : List α) : Option (α × List α) := do
  let i ← l.findIdx? p
  let a ← l[i]?
  let last ← l.getLast?
  return (a, (l.set i last).dropLast)

/-- The storages that there are, with their kinds. -/
def backends (s3 azure : Option Service) : List (StorageType × Service) :=
  s3.toList.map (.s3, ·) ++ azure.toList.map (.azure, ·)

/-- The switch between storages. The one for requests without settings is taken out of the list
before the others are added. -/
def switchBetween? (standard : StorageType) (l : List (StorageType × Service)) :
    Option Service := do
  let ((_, backend), others) ← swapRemove? (·.1 = standard) l
  return others.foldl (fun s b => s.withBackend b.1 b.2) (.switchTo standard backend)

namespace Config

/-- The storage in the configured bucket, if there is one. -/
def buildBucket (c : Config) (around : S3.Surroundings) :
    Exchanging ConfigError (Option Service) := do
  match c.storage.s3 with
  | none => return none
  | some b => return some (.bucket (← available .s3
      (S3.Storage.connect around (b.options c.delivery.contentType))))

/-- The storage in the configured container, if there is one. -/
def buildContainer (c : Config) (now : Instant) :
    Exchanging ConfigError (Option Service) := do
  match c.storage.azure with
  | none => return none
  | some b =>
    let options ← b.options c.delivery.contentType c.delivery.filenameSuffix
    return some (.blobs (← available .azure (Azure.Storage.connect now options)))

/-- The switch between the configured storages. -/
def buildStorage (c : Config) (around : S3.Surroundings) (now : Instant) :
    Exchanging ConfigError Service := do
  let s3 ← c.buildBucket around
  let azure ← c.buildContainer now
  match switchBetween? c.storage.standard (backends s3 azure) with
  | none => throw (.invalid c.storage.standardMissing)
  | some service =>
    match ← c.storage.gatewayUrl with
    | none => return service
    | some gateway => return service.withGateway gateway

/-- The sink for audit events. `canAppend` tells which files can be written to. -/
def buildAuditSink (c : Config) (canAppend : String → Bool) : Checked AuditSink :=
  match c.audit.sink, c.audit.path with
  | .none, _ => .ok .none
  | .errorOutput, _ => .ok .errorOutput
  | .file, none => .error (.invalid auditPathMissing)
  | .file, some path =>
    if canAppend path then .ok (.file path)
    else .error (.io "the file for audit events cannot be opened")

end Config

end Fleet
