import Fleet.Time.Instant

/-!
# `Fleet.Artifact`: what is installed on devices
-/

set_option autoImplicit false

namespace Fleet

open Fleet.Time

/-- The name an artifact is stored under. -/
abbrev ArtifactId := String

abbrev DeviceId := String

/-- An installable image. -/
structure Artifact where
  /-- The name it is stored under. -/
  id : ArtifactId
  /-- The name that deployments refer to; several artifacts may share it. -/
  name : String
  /-- The types of device it can be installed on. -/
  deviceTypes : List String := []
  /-- The size in bytes, if known. -/
  size : Option Nat := none
  modified : Option Instant := none
deriving DecidableEq, Repr, Inhabited

namespace Artifact

/-- Whether the artifact can be installed on a type of device. -/
def fits (a : Artifact) (deviceType : String) : Bool := a.deviceTypes.contains deviceType

end Artifact

end Fleet
