import Fleet.Azure.Storage
import Fleet.S3.Storage
import Fleet.Store.Opening

/-!
# `Fleet.Config.Basic`: the settings of the service

A `Config` says how long download links live, where objects and data are kept, and what
becomes of audit events.
-/

set_option autoImplicit false

namespace Fleet

/-- How artifacts are delivered. -/
structure DeliveryConfig where
  /-- The lifetime of download links in seconds. -/
  linkSeconds : Nat := defaultLinkLifetime.seconds
  /-- What is put after the names of artifacts. -/
  filenameSuffix : Option String := none
  contentType : Option String := none
deriving DecidableEq, Inhabited

/-- Objects kept in a bucket. -/
structure BucketConfig where
  bucket : String
  region : Option String := none
  /-- The address that requests go to. -/
  uri : Option String := none
  /-- The address that links show. -/
  externalUri : Option String := none
  key : Option String := none
  secret : Option String := none
  token : Option String := none
  /-- Whether the name of the bucket always stands in the path. -/
  forcePathStyle : Bool := false
  useAccelerate : Bool := false
  bufferSize : Nat := S3.defaultPartSize
  createBucket : Bool := false
deriving DecidableEq, Inhabited

/-- Objects kept in a container of blobs. -/
structure ContainerConfig where
  container : String
  connectionString : Option String := none
  accountName : Option String := none
  accountKey : Option String := none
  uri : Option String := none
  bufferSize : Nat := Azure.defaultBlockSize
deriving DecidableEq, Inhabited

/-- Where objects are kept. -/
structure StorageConfig where
  /-- The kind of storage for requests without settings. -/
  standard : StorageType := .s3
  /-- The address of the gateway that links lead through. -/
  gateway : Option String := none
  s3 : Option BucketConfig := none
  azure : Option ContainerConfig := none
deriving DecidableEq, Inhabited

/-- The kinds of sink for audit events. -/
inductive AuditSinkKind where
  | none
  | errorOutput
  | file
deriving DecidableEq, Repr, Inhabited

namespace AuditSinkKind

def token : AuditSinkKind → String
  | .none => "none"
  | .errorOutput => "stderr"
  | .file => "file"

/-- The kind of sink with a given token. -/
def ofToken? (s : String) : Option AuditSinkKind := [.none, errorOutput, file].find? (·.token = s)

end AuditSinkKind

/-- What becomes of audit events. -/
structure AuditConfig where
  sink : AuditSinkKind := .none
  path : Option String := none
deriving DecidableEq, Inhabited

/-- The path of the database unless another one is configured. -/
def defaultStorePath : String := "rollout.sqlite"

/-- The settings of the service. -/
structure Config where
  delivery : DeliveryConfig := {}
  storage : StorageConfig
  store : StoreConfig := { path := defaultStorePath }
  audit : AuditConfig := {}
deriving DecidableEq, Inhabited

end Fleet
