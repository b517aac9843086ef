import Fleet.Config.Basic

/-!
# `Fleet.Config.Check`: rules on settings

Settings are checked before anything is built from them: the lifetime of links, the sections
and their addresses, credentials and sizes, and the paths of files.
-/

set_option autoImplicit false

namespace Fleet

open Fleet.Text

/-- Why there are no settings, or nothing is built from them. -/
inductive ConfigError where
  /-- Something outside the settings failed. -/
  | io (detail : String)
  | parse (detail : String)
  | invalid (detail : String)
deriving DecidableEq, Repr, Inhabited

namespace ConfigError

def kindName : ConfigError → String
  | .io _ => "Io"
  | .parse _ => "Parse"
  | .invalid _ => "Invalid"

def message : ConfigError → String
  | .io detail => "config io error: " ++ detail
  | .parse detail => "config parse error: " ++ detail
  | .invalid detail => "invalid config: " ++ detail

end ConfigError

/-- The outcome of a check. -/
abbrev Checked (α : Type) := Except ConfigError α

/-- Accepts a condition or fails with a rule. -/
def demand (ok : Bool) (rule : String) : Checked Unit :=
  if ok then .ok () else .error (.invalid rule)

/-- A text that must not be blank. -/
def demandText (field value : String) : Checked Unit :=
  demand (!isBlankText value) (field ++ " must be non-empty")

/-- The address of the web that a setting holds. -/
def demandUrl (field value : String) : Checked Url := do
  match Url.parse? value with
  | none => throw (.invalid (field ++ " is not a valid url: no address"))
  | some url =>
    demand url.isWeb (field ++ " must use http or https")
    pure url

/-- The address of the web that a setting may hold. -/
def demandOptionalUrl (field : String) : Option String → Checked (Option Url)
  | none => .ok none
  | some value => (demandUrl field value).map some

/-- A path that must be there and of bounded length. -/
def demandPath (field value : String) : Checked Unit := do
  demandText field value
  demand (!isOverlongPath value) (field ++ " exceeds max length")
  demand (!hasOverlongComponent value) (field ++ " component too long")

def DeliveryConfig.check (c : DeliveryConfig) : Checked Unit := do
  demand (linkBounds.min.seconds ≤ c.linkSeconds && c.linkSeconds ≤ linkBounds.max.seconds)
    ("deployments.download_link_expire_secs must be between "
      ++ Nat.repr linkBounds.min.seconds ++ " and " ++ Nat.repr linkBounds.max.seconds)
  demand (c.filenameSuffix.all fun s => !s.toList.any fun d => d = '"' || d = '/' || d = '\\')
    "deployments.filename_suffix contains a reserved character"
  match c.contentType with
  | some kind => demandText "deployments.content_type" kind
  | none => pure ()

def BucketConfig.check (c : BucketConfig) : Checked Unit := do
  demandText "storage.s3.bucket" c.bucket
  discard <| demandOptionalUrl "storage.s3.uri" c.uri
  discard <| demandOptionalUrl "storage.s3.external_uri" c.externalUri
  match c.key, c.secret with
  | some key, some secret =>
    demandText "storage.s3.key" key
    demandText "storage.s3.secret" secret
  | none, none => demand c.token.isNone "storage.s3.token requires key and secret"
  | _, _ => throw (.invalid "storage.s3.key and storage.s3.secret must be set together")
  demand (S3.minPartSize ≤ c.bufferSize)
    ("storage.s3.buffer_size must be at least " ++ Nat.repr S3.minPartSize)

/-- The account of a container, if one is configured. -/
def ContainerConfig.account (c : ContainerConfig) : Checked (Option Azure.Account) :=
  let account := match c.connectionString, c.accountName, c.accountKey with
    | some connection, _, _ => some (Azure.Account.ofConnection connection)
    | none, some name, some key => some (Azure.Account.ofKey name key c.uri)
    | _, _, _ => none
  match account with
  | none => .ok none
  | some (.ok a) => .ok (some a)
  | some (.error e) => .error (.invalid ("storage.azure credentials: " ++ e.message))

def ContainerConfig.check (c : ContainerConfig) : Checked Unit := do
  demandText "storage.azure.container" c.container
  discard <| demandOptionalUrl "storage.azure.uri" c.uri
  demand (c.connectionString.isNone || (c.accountName.isNone && c.accountKey.isNone))
    "storage.azure.connection_string excludes account_name and account_key"
  demand (c.accountName.isSome == c.accountKey.isSome)
    "storage.azure.account_name and storage.azure.account_key must be set together"
  discard c.account

/-- The rule that the standard storage has a section. -/
def StorageConfig.standardMissing (c : StorageConfig) : String :=
  "storage.default is " ++ c.standard.token ++ " but [storage." ++ c.standard.token
    ++ "] is missing"

/-- The gateway that links lead through. -/
def StorageConfig.gatewayUrl (c : StorageConfig) : Checked (Option Url) :=
  demandOptionalUrl "storage.proxy_uri" c.gateway

def StorageConfig.check (c : StorageConfig) : Checked Unit := do
  demand (match c.standard with
    | .s3 => c.s3.isSome
    | .azure => c.azure.isSome) c.standardMissing
  discard c.gatewayUrl
  match c.s3 with
  | some bucket => bucket.check
  | none => pure ()
  match c.azure with
  | some container => container.check
  | none => pure ()

/-- The rule that a sink in a file has a path. -/
def auditPathMissing : String := "audit.path is required for the file sink"

def AuditConfig.check (c : AuditConfig) : Checked Unit :=
  match c.sink, c.path with
  | .file, none => throw (.invalid auditPathMissing)
  | .file, some path => demandPath "audit.path" path
  | _, some _ => throw (.invalid "audit.path is only valid for the file sink")
  | _, none => pure ()

def Config.check (c : Config) : Checked Unit := do
  c.delivery.check
  c.storage.check
  demandPath "store.path" c.store.path
  c.audit.check

end Fleet
