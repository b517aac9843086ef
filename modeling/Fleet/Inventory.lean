import Fleet.Artifact

/-!
# `Fleet.Inventory`: the devices there are
-/

set_option autoImplicit false

namespace Fleet

structure DeviceEntry where
  device : DeviceId
  deviceType : Option String := none
  groups : List String := []
deriving DecidableEq, Repr, Inhabited

/-- The devices in the order in which they were first registered. -/
structure Inventory where
  entries : List DeviceEntry := []
deriving DecidableEq, Inhabited

namespace Inventory

/-- Registers a device, in place of what was known about it. -/
def register (i : Inventory) (e : DeviceEntry) : Inventory :=
  if i.entries.any (·.device = e.device) then
    ⟨i.entries.map fun old => if old.device = e.device then e else old⟩
  else ⟨i.entries ++ [e]⟩

def deviceType (i : Inventory) (device : DeviceId) : Option String :=
  (i.entries.find? (·.device = device)).bind (·.deviceType)

def devicesInGroup (i : Inventory) (group : String) : List DeviceId :=
  (i.entries.filter fun e => e.groups.contains group).map (·.device)

end Inventory

end Fleet
