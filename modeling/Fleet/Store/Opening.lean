import Fleet.Store.Relational
import Fleet.Text.Search

/-!
# `Fleet.Store.Opening`: opening a database file

A database is kept in a file, whose path is checked before the file is opened: it must be
there, of bounded length in all and in every part, and no directory. The directory around it
is created. A file that was written with another layout is refused.
-/

set_option autoImplicit false

namespace Fleet

open Fleet.Text

/-- How changes are made safe before they reach the file. -/
inductive JournalMode where
  /-- They are written to a log first. -/
  | wal
  /-- What they replace is kept in a file that is deleted afterwards. -/
  | delete
deriving DecidableEq, Repr, Inhabited

namespace JournalMode

def token : JournalMode → String
  | .wal => "wal"
  | .delete => "delete"

def ofToken? (s : String) : Option JournalMode := [wal, delete].find? (·.token = s)

end JournalMode

/-- How long the store waits for the medium. -/
inductive SyncMode where
  /-- Until everything is written. -/
  | full
  /-- At the critical moments only. -/
  | normal
deriving DecidableEq, Repr, Inhabited

namespace SyncMode

def token : SyncMode → String
  | .full => "full"
  | .normal => "normal"

def ofToken? (s : String) : Option SyncMode := [full, normal].find? (·.token = s)

end SyncMode

/-- How a database is opened. -/
structure StoreConfig where
  path : String
  /-- How many milliseconds to wait for another user of the file. -/
  busyTimeout : Nat := 5000
  journalMode : JournalMode := .wal
  syncMode : SyncMode := .full
deriving DecidableEq, Inhabited

/-! ### Paths -/

/-- The greatest length of a path in bytes. -/
def maxPathLength : Nat := 4096

/-- The greatest length of a part of a path in bytes. -/
def maxComponentLength : Nat := 255

/-- The parts of a path between its slashes. -/
def pathComponents (path : String) : List String :=
  (splitText '/' path).filter fun part => !part.isEmpty

/-- Whether a path is longer than any path may be. -/
def isOverlongPath (path : String) : Bool := maxPathLength < path.utf8ByteSize

/-- Whether a part of a path is longer than any part may be. -/
def hasOverlongComponent (path : String) : Bool :=
  (pathComponents path).any fun part => maxComponentLength < part.utf8ByteSize

/-! ### Files -/

/-- What is known of the place where files are kept. -/
structure Disk where
  /-- Whether there is a directory at a path. -/
  isDirectory : String → Bool
  /-- Whether the directory around a path is there or can be created. -/
  canHold : String → Bool
  /-- Whether a file at a path can be opened for writing. -/
  canOpen : String → Bool
  /-- The version of the layout in the file at a path, if it has one. -/
  version : String → Option Int

/-- The version of the layout that is read and written. -/
def layoutVersion : Int := 1

namespace StoreError

/-- The text of an error that arises while a database is opened. -/
def openingMessage (e : StoreError) : String :=
  "sqlite store " ++ (if e.kind = .store then "db error" else e.kind.phrase) ++ ": " ++ e.detail

end StoreError

def checkStorePath (disk : Disk) (path : String) : Except StoreError Unit :=
  if path.isEmpty then .error ⟨.invalid, "store path must not be empty"⟩
  else if isOverlongPath path then .error ⟨.invalid, "store path exceeds length limit"⟩
  else if hasOverlongComponent path then
    .error ⟨.invalid, "store path contains an overlong component"⟩
  else if disk.isDirectory path then
    .error ⟨.invalid, "store path must be a file, not a directory"⟩
  else .ok ()

/-- Opens the file of a database, which is created unless it is there. -/
def StoreConfig.openFile (c : StoreConfig) (disk : Disk) : Except StoreError Unit := do
  checkStorePath disk c.path
  if !disk.canHold c.path then throw ⟨.io, "no directory for the store"⟩
  if !disk.canOpen c.path then throw ⟨.store, "the store cannot be opened"⟩
  match disk.version c.path with
  | none => pure ()
  | some v =>
    if v ≠ layoutVersion then
      throw ⟨.versionMismatch, "unsupported schema version: " ++ intText v⟩

/-! ### Overwriting rows -/

namespace Database

/-- The relations of a database. -/
inductive Relation where
  | deployments
  | records
  | logs
deriving DecidableEq, Repr, Inhabited

namespace Relation

/-- The name of a relation in the file. -/
def name : Relation → String
  | .deployments => "deployments"
  | .records => "device_deployments"
  | .logs => "deployment_logs"

def ofName? (s : String) : Option Relation := [deployments, records, logs].find? (·.name = s)

end Relation

/-- How many rows of a relation belong to a deployment, of whichever tenant. -/
def rowCount (db : Database) (r : Relation) (id : DeploymentId) : Nat :=
  match r with
  | .deployments => (db.deployments.entries.filter fun e => e.1.2 = id).length
  | .records => (db.records.entries.filter fun e => e.1.2.1 = id).length
  | .logs => (db.logs.entries.filter fun e => e.1.2.1 = id).length

/-- Overwrites the documents of the rows of a relation that belong to a deployment. -/
def overwriteDocuments (db : Database) (r : Relation) (id : DeploymentId) (document : String) :
    Database :=
  match r with
  | .deployments =>
    { db with
      deployments := db.deployments.mapEntries fun k row =>
        if k.2 = id then { row with document } else row }
  | .records =>
    { db with
      records := db.records.mapEntries fun k row =>
        if k.2.1 = id then { row with document } else row }
  | .logs =>
    { db with logs := db.logs.mapEntries fun k old => if k.2.1 = id then document else old }

/-- Overwrites the status column of the records of a deployment. -/
def overwriteStatus (db : Database) (id : DeploymentId) (status : String) : Database :=
  { db with
    records := db.records.mapEntries fun k row =>
      if k.2.1 = id then { row with status } else row }

end Database

end Fleet
