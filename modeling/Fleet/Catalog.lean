import Fleet.Artifact

/-!
# `Fleet.Catalog`: the artifacts there are
-/

set_option autoImplicit false

namespace Fleet

/-- The artifacts in the order in which they were added. -/
structure Catalog where
  artifacts : List Artifact := []
deriving DecidableEq, Inhabited

namespace Catalog

/-- The catalog with one more artifact. -/
def add (c : Catalog) (a : Artifact) : Catalog := ⟨c.artifacts ++ [a]⟩

/-- The first artifact among some that fits a type of device. -/
def findByIds (c : Catalog) (ids : List ArtifactId) (deviceType : String) : Option Artifact :=
  c.artifacts.find? fun a => ids.contains a.id && a.fits deviceType

/-- The first artifact of a name that fits a type of device. -/
def findByName (c : Catalog) (name deviceType : String) : Option Artifact :=
  c.artifacts.find? fun a => a.name = name && a.fits deviceType

def allByName (c : Catalog) (name : String) : List Artifact :=
  c.artifacts.filter (·.name = name)

end Catalog

end Fleet
