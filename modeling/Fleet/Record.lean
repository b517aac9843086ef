import Fleet.Deployment
import Fleet.Link

/-!
# `Fleet.Record`: one device in one deployment

A `DeviceRecord` holds how far a device has come in a deployment and which artifact it was
given. Devices send a `StatusReport` and what they have `Installed`; they receive
`Instructions` and may leave a `DeploymentLog`.
-/

set_option autoImplicit false

namespace Fleet

open Fleet.Time Fleet.Text

abbrev RecordId := String

/-- The part of one device in one deployment. -/
structure DeviceRecord where
  id : RecordId
  deploymentId : DeploymentId
  deviceId : DeviceId
  artifact : Option Artifact := none
  deviceType : Option String := none
  status : DeviceStatus
  /-- A remark of the device on its status. -/
  substate : Option String := none
  created : Instant
  /-- The time the device came to rest. -/
  finished : Option Instant := none
  isLogAvailable : Bool := false
deriving DecidableEq, Repr, Inhabited

namespace DeviceRecord

/-- The deployment and the device, which name a record within a tenant. -/
def key (r : DeviceRecord) : DeploymentId × DeviceId := (r.deploymentId, r.deviceId)

/-- The record with another status, remark and finish time. -/
def withStatus (r : DeviceRecord) (s : DeviceStatus) (substate : Option String)
    (finished : Option Instant) : DeviceRecord :=
  { r with status := s, substate, finished }

/-- The record with a device type and an artifact. -/
def withArtifact (r : DeviceRecord) (deviceType : String) (a : Artifact) : DeviceRecord :=
  { r with deviceType := some deviceType, artifact := some a }

/-- The record at rest with a status at a time. -/
def stopAt (r : DeviceRecord) (s : DeviceStatus) (now : Instant) : DeviceRecord :=
  { r with status := s, finished := some now }

/-- The record with the mark for a log. -/
def withLogMark (r : DeviceRecord) (available : Bool) : DeviceRecord :=
  { r with isLogAvailable := available }

end DeviceRecord

/-- The greatest length of the remark on a status. -/
def maxSubstateLength : Nat := 200

/-- What a device says about its progress. -/
structure StatusReport where
  status : DeviceStatus
  substate : Option String := none
deriving DecidableEq, Repr, Inhabited

namespace StatusReport

def validate (r : StatusReport) : Except ValidationError Unit :=
  optionalLength "substate" r.substate 0 maxSubstateLength

end StatusReport

/-- What a device says it runs. -/
structure Installed where
  /-- The name of the artifact, empty if unknown. -/
  artifactName : String := ""
  /-- The type of the device, empty if unknown. -/
  deviceType : String := ""
deriving DecidableEq, Repr, Inhabited

structure ArtifactSource where
  artifactName : String
  source : Link
  deviceTypes : List String
deriving DecidableEq, Repr, Inhabited

/-- What a device has to do. -/
structure Instructions where
  /-- The deployment. -/
  id : DeploymentId
  artifact : ArtifactSource
deriving DecidableEq, Repr, Inhabited

/-! ### Logs -/

structure LogMessage where
  timestamp : Instant
  level : String
  message : String
deriving DecidableEq, Repr, Inhabited

/-- What a device wrote down during a deployment. -/
structure DeploymentLog where
  deploymentId : DeploymentId
  deviceId : DeviceId
  messages : List LogMessage
deriving DecidableEq, Repr, Inhabited

/-- The greatest number of lines of a log. -/
def maxLogMessages : Nat := 10000

namespace DeploymentLog

def key (l : DeploymentLog) : DeploymentId × DeviceId := (l.deploymentId, l.deviceId)

/-- Checks the lines from the one with number `index` on: neither severity nor text is blank. -/
def validateMessages (index : Nat) : List LogMessage → Except ValidationError Unit
  | [] => .ok ()
  | m :: rest => do
    require (!isBlankText m.level) (.blankMessagePart index "level")
    require (!isBlankText m.message) (.blankMessagePart index "message")
    validateMessages (index + 1) rest

/-- Checks that deployment and device are named, that there are lines but not too many, and
every line. -/
def validate (l : DeploymentLog) : Except ValidationError Unit := do
  require (!isBlankText l.deploymentId) (.blank "deployment_id")
  require (!isBlankText l.deviceId) (.blank "device_id")
  require (!l.messages.isEmpty) .noMessages
  require (l.messages.length ≤ maxLogMessages) (.tooManyMessages maxLogMessages)
  validateMessages 0 l.messages

end DeploymentLog

end Fleet
