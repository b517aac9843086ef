import Fleet.Stats

/-!
# `Fleet.Store.Error`: why a call of the data store fails
-/

set_option autoImplicit false

namespace Fleet

/-- The kinds of failure of a data store. -/
inductive StoreErrorKind where
  | io
  | corrupt
  | versionMismatch
  | invalid
  | notFound
  | conflict
  | store
deriving DecidableEq, Repr, Inhabited

namespace StoreErrorKind

def name : StoreErrorKind → String
  | .io => "Io"
  | .corrupt => "Corrupt"
  | .versionMismatch => "VersionMismatch"
  | .invalid => "Invalid"
  | .notFound => "NotFound"
  | .conflict => "Conflict"
  | .store => "Store"

def ofName? (s : String) : Option StoreErrorKind :=
  [io, corrupt, versionMismatch, invalid, notFound, conflict, store].find? (·.name = s)

/-- How the text of an error of this kind goes on after the name of the store. -/
def phrase : StoreErrorKind → String
  | .io => "io error"
  | .corrupt => "corruption"
  | .versionMismatch => "version mismatch"
  | .invalid => "invalid data"
  | .notFound => "record not found"
  | .conflict => "conflict"
  | .store => "error"

end StoreErrorKind

/-- A failure of a data store. -/
structure StoreError where
  kind : StoreErrorKind
  detail : String
deriving DecidableEq, Repr, Inhabited

namespace StoreError

def message (e : StoreError) : String := "data store " ++ e.kind.phrase ++ ": " ++ e.detail

/-- A counter that cannot change shows that the stored counters are wrong. -/
def ofStats (e : StatsError) : StoreError := ⟨.corrupt, e.message⟩

def noDeployment (id : String) : StoreError := ⟨.notFound, "deployment " ++ id⟩

def noRecord (deployment device : String) : StoreError :=
  ⟨.notFound, "device deployment " ++ deployment ++ "/" ++ device⟩

def deploymentExists (id : String) : StoreError := ⟨.conflict, "deployment " ++ id⟩

def recordExists (deployment device : String) : StoreError :=
  ⟨.conflict, "device deployment " ++ deployment ++ "/" ++ device⟩

end StoreError

end Fleet
