import Fleet.Artifact
import Fleet.Stats
import Fleet.Validation

/-!
# `Fleet.Deployment`: bringing an artifact to a set of devices

A `Plan` says which artifact goes to which devices. A `Deployment` is a plan under way, with
the counters of its devices and a finish time that is set at most once.
-/

set_option autoImplicit false

namespace Fleet

open Fleet.Time

abbrev DeploymentId := String

/-- The greatest length of the names in a plan. -/
def maxNameLength : Nat := 4096

/-- What to install and where. -/
structure Plan where
  /-- The name of the deployment, for people. -/
  name : String
  artifactName : String
  /-- The devices, unless a group is named. -/
  devices : List DeviceId := []
  /-- The group of devices, unless devices are named. -/
  group : Option String := none
  /-- How often a device may try again. -/
  retries : Nat := 0
  maxDevices : Option Nat := none
deriving DecidableEq, Repr, Inhabited

/-- How a plan selects its devices. -/
inductive Target where
  | devices (ids : List DeviceId)
  | group (name : String)
deriving DecidableEq, Repr

namespace Plan

/-- Checks the lengths of the names, that exactly one kind of target is given, that no device
is blank and that the bound on devices is not zero. -/
def validate (p : Plan) : Except ValidationError Unit := do
  requireLength "name" p.name 1 maxNameLength
  requireLength "artifact_name" p.artifactName 1 maxNameLength
  optionalLength "group" p.group 1 maxNameLength
  require (!(p.devices.isEmpty && p.group.isNone)) .noTarget
  require (!(!p.devices.isEmpty && p.group.isSome)) .twoTargets
  require (!p.devices.any Text.isBlankText) .blankDevice
  require (p.maxDevices != some 0) .zeroMaxDevices

/-- The target of a plan: its group if no devices are named, otherwise its devices. -/
def target (p : Plan) : Target :=
  match p.group with
  | some g => if p.devices.isEmpty then .group g else .devices p.devices
  | none => .devices p.devices

end Plan

/-- A plan under way. -/
structure Deployment where
  id : DeploymentId
  plan : Plan
  stats : Stats := .zero
  created : Instant
  finished : Option Instant := none
  deviceCount : Nat := 0
  /-- The number of devices that must be at rest before it is finished. -/
  maxDevices : Nat := 0
  /-- The artifacts of the plan's name at the time of creation. -/
  artifacts : List ArtifactId := []
deriving DecidableEq, Inhabited

namespace Deployment

/-- The name of the artifact that is being installed. -/
def artifactName (d : Deployment) : String := d.plan.artifactName

def isFinished (d : Deployment) : Bool := d.finished.isSome

/-- Whether enough devices are at rest. -/
def allDevicesTerminal (d : Deployment) : Bool := d.maxDevices ≤ d.stats.terminalCount.toNat

/-- The status of the deployment as a whole. -/
def status (d : Deployment) : DeploymentStatus :=
  if d.isFinished then .finished else if d.stats.hasStarted then .inProgress else .pending

def withStats (d : Deployment) (st : Stats) : Deployment := { d with stats := st }

/-- The deployment with a finish time, unless it has one. -/
def finishAt (d : Deployment) (now : Instant) : Deployment :=
  { d with finished := some (d.finished.getD now) }

end Deployment

end Fleet
