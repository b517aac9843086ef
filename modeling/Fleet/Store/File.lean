import Fleet.Store.Opening

/-!
# `Fleet.Store.File`: a data store in a file

A `FileStore` is a database with the file that it is kept in. Between calls the file may be
closed and opened again, which is planned ahead: `reopenings` has an entry for each of the
calls to come. Opening checks the place and the version of the layout each time. A file
without a version is new and is given the present one; what a file contains stays as it is.
-/

set_option autoImplicit false

namespace Fleet

/-- A data store in a file. -/
structure FileStore where
  config : StoreConfig
  disk : Disk
  /-- The version of the layout in the file, if it has one. -/
  version : Option Int := none
  database : Database := {}
  /-- Whether the file is closed and opened again before each of the next calls. -/
  reopenings : List Bool := []

namespace FileStore

/-- The place with the file in it. -/
def surroundings (s : FileStore) : Disk :=
  { s.disk with
    version := fun path => if path = s.config.path then s.version else s.disk.version path }

/-- Opens the file. -/
def opened (s : FileStore) : Except StoreError FileStore :=
  (s.config.openFile s.surroundings).map fun () =>
    { s with version := some (s.version.getD layoutVersion) }

/-- The store before its next call, with the file opened again if that is planned. -/
def turned (s : FileStore) : Except StoreError FileStore :=
  match s.reopenings with
  | [] => .ok s
  | again :: rest =>
    let s := { s with reopenings := rest }
    if again then s.opened else .ok s

instance : DataStore FileStore where
  run tenant c s :=
    match s.turned with
    | .error e => (.error e, s)
    | .ok s =>
      let (answer, database) := DataStore.run tenant c s.database
      (answer, { s with database })

end FileStore

end Fleet
