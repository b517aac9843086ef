import Fleet.Text.Quoted
import Fleet.Validation

/-!
# `Fleet.Settings`: storage chosen per request

A request may bring its own storage: which kind, which bucket and how to sign. Secrets never
show in the diagnostic text of settings.
-/

set_option autoImplicit false

namespace Fleet

open Fleet.Text

/-- The kinds of storage service. -/
inductive StorageType where
  /-- S3 and services that speak its protocol. -/
  | s3
  | azure
deriving DecidableEq, Repr, Inhabited

namespace StorageType

def token : StorageType → String
  | .s3 => "s3"
  | .azure => "azure"

def ofToken? (s : String) : Option StorageType := [s3, azure].find? (·.token = s)

/-- The name of a kind in diagnostics. -/
def diagnosticName : StorageType → String
  | .s3 => "S3"
  | .azure => "Azure"

end StorageType

/-- The greatest length of an address in settings. -/
def maxAddressLength : Nat := 2000

/-- Storage for one request. For Azure the bucket is the container, the key is the account
name and the secret is the account key, unless a connection string is given. -/
structure StorageSettings where
  kind : StorageType := .s3
  /-- The bucket or container. -/
  bucket : String
  region : Option String := none
  /-- The access key or account name. -/
  key : Option String := none
  /-- The secret key or account key. -/
  secret : Option String := none
  token : Option String := none
  /-- The address that requests go to. -/
  uri : Option String := none
  /-- The address that links show. -/
  externalUri : Option String := none
  connectionString : Option String := none
  /-- Whether the bucket stands in the path and not in the host of an S3 address. -/
  forcePathStyle : Bool := false
  useAccelerate : Bool := false
deriving DecidableEq, Inhabited

namespace StorageSettings

/-- Whether both halves of a shared key are given. -/
def hasSharedKey (s : StorageSettings) : Bool := s.key.isSome && s.secret.isSome

/-- The rule for an optional address. -/
def validateAddress (field : String) : Option String → Except ValidationError Unit
  | none => .ok ()
  | some uri => requireWebAddress field uri maxAddressLength

/-- Checks the lengths of all texts, the addresses, and that the credentials suit the kind of
service. -/
def validate (s : StorageSettings) : Except ValidationError Unit := do
  requireLength "bucket" s.bucket 3 100
  optionalLength "region" s.region 1 20
  optionalLength "key" s.key 1 128
  optionalLength "secret" s.secret 1 256
  optionalLength "token" s.token 1 4096
  optionalLength "connection_string" s.connectionString 1 4096
  validateAddress "uri" s.uri
  validateAddress "external_uri" s.externalUri
  match s.kind with
  | .s3 =>
    require s.connectionString.isNone .strayConnectionString
    require s.hasSharedKey .noS3Credentials
  | .azure => require (s.connectionString.isSome || s.hasSharedKey) .noAzureCredentials

/-- An optional text in diagnostics. -/
def diagnosticOption : Option String → String
  | none => "None"
  | some s => "Some(" ++ quoted s ++ ")"

/-- An optional secret in diagnostics: only its presence shows. -/
def diagnosticSecret : Option String → String
  | none => "None"
  | some _ => "Some(\"<redacted>\")"

/-- The diagnostic text of settings. -/
def diagnosticText (s : StorageSettings) : String :=
  let fields :=
    [("storage_type", s.kind.diagnosticName), ("bucket", quoted s.bucket),
      ("region", diagnosticOption s.region), ("key", diagnosticOption s.key),
      ("secret", diagnosticSecret s.secret), ("token", diagnosticSecret s.token),
      ("uri", diagnosticOption s.uri), ("external_uri", diagnosticOption s.externalUri),
      ("connection_string", diagnosticSecret s.connectionString),
      ("force_path_style", toString s.forcePathStyle),
      ("use_accelerate", toString s.useAccelerate)]
  "StorageSettings \x7b " ++ ", ".intercalate (fields.map fun (n, v) => n ++ ": " ++ v) ++ " \x7d"

end StorageSettings

end Fleet
