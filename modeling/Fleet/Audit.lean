import Fleet.Context
import Fleet.Deployment
import Fleet.Json.Printer

/-!
# `Fleet.Audit`: the trail of what happened

Each change that an operator or a device brings about is recorded as an `AuditEvent`. Its
line is a JSON object with all members present, in a fixed order.
-/

set_option autoImplicit false

namespace Fleet

open Fleet.Time

/-- The kinds of event. -/
inductive AuditKind where
  | deploymentCreated
  | deviceStatusChanged
  | deploymentFinished
  | deploymentAborted
  | deviceDecommissioned
deriving DecidableEq, Repr, Inhabited

namespace AuditKind

def token : AuditKind → String
  | .deploymentCreated => "deployment_created"
  | .deviceStatusChanged => "device_status_changed"
  | .deploymentFinished => "deployment_finished"
  | .deploymentAborted => "deployment_aborted"
  | .deviceDecommissioned => "device_decommissioned"

def ofToken? (s : String) : Option AuditKind :=
  [deploymentCreated, deviceStatusChanged, deploymentFinished, deploymentAborted,
    deviceDecommissioned].find? (·.token = s)

end AuditKind

/-- One entry of the trail. -/
structure AuditEvent where
  kind : AuditKind
  /-- When it happened, in milliseconds since 1970. -/
  timestampMillis : Int
  tenant : Option TenantId := none
  /-- Who brought it about. -/
  subject : Option String := none
  deploymentId : DeploymentId
  deviceId : Option DeviceId := none
  oldStatus : Option DeviceStatus := none
  newStatus : Option DeviceStatus := none
  /-- The number of devices of a new deployment. -/
  deviceCount : Option Nat := none
  /-- The artifact name of a new deployment. -/
  artifactName : Option String := none
deriving DecidableEq, Repr, Inhabited

namespace AuditEvent

/-- An event for a deployment, with who brought it about and when. -/
def of (ctx : Context) (now : Instant) (kind : AuditKind) (id : DeploymentId) : AuditEvent :=
  { kind
    timestampMillis := now.unixMillis
    tenant := ctx.tenant
    subject := ctx.identity.map (·.subject)
    deploymentId := id }

def toJson (e : AuditEvent) : Json :=
  .obj
    [("event", .str e.kind.token), ("timestamp_ms", .int e.timestampMillis),
      ("tenant_id", .ofOption .str e.tenant), ("subject", .ofOption .str e.subject),
      ("deployment_id", .str e.deploymentId), ("device_id", .ofOption .str e.deviceId),
      ("old_status", .ofOption (fun s => .str s.token) e.oldStatus),
      ("new_status", .ofOption (fun s => .str s.token) e.newStatus),
      ("device_count", .ofOption .ofNat e.deviceCount),
      ("artifact_name", .ofOption .str e.artifactName)]

def line (e : AuditEvent) : String := e.toJson.render

end AuditEvent

/-- Where events go. -/
inductive AuditSink where
  | none
  | errorOutput
  /-- The end of a file. -/
  | file (path : String)
deriving DecidableEq, Repr

end Fleet
