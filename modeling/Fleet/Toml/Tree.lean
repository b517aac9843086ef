import Fleet.Json.Basic

/-!
# `Fleet.Toml.Tree`: the tables of a document while it is read

A document is a tree of tables. Each table knows how it came to be, because that decides what
may still be added: a heading may fill in a table that only headings below it have named, and a
dotted key may add to tables that dotted keys have made, but nothing is ever defined twice.
-/

set_option autoImplicit false

namespace Fleet.Toml

/-- How a table came to be. -/
inductive TableKind where
  /-- It is named in headings of tables below it. -/
  | implied
  /-- It has a heading of its own. -/
  | headed
  /-- It is named in a dotted key. -/
  | dotted
deriving DecidableEq, Repr

/-- A node of a document. -/
inductive Node where
  | leaf (v : Json)
  | table (kind : TableKind) (entries : List (String × Node))
  /-- Tables with one heading, the latest first. -/
  | tables (items : List (List (String × Node)))

/-- Named nodes in the order in which they were defined. -/
abbrev Entries := List (String × Node)

/-- Gives a name a node made from the one it has. -/
def alter (name : String) (f : Option Node → Option Node) : Entries → Option Entries
  | [] => (f none).map fun n => [(name, n)]
  | (m, n) :: rest =>
    if m = name then (f (some n)).map fun n => (m, n) :: rest
    else (alter name f rest).map ((m, n) :: ·)

/-- Changes the table at a path of headings, making tables on the way. Of several tables with
one heading the latest is meant. -/
def alterAt (f : Entries → Option Entries) : List String → Entries → Option Entries
  | [], entries => f entries
  | name :: path, entries =>
    alter name (fun node =>
      match node with
      | none => (alterAt f path []).map (.table .implied)
      | some (.table kind inner) => (alterAt f path inner).map (.table kind)
      | some (.tables (latest :: others)) =>
        (alterAt f path latest).map fun t => .tables (t :: others)
      | some _ => none) entries

/-- Defines the table of a heading. -/
def openTable (path : List String) (name : String) (entries : Entries) : Option Entries :=
  alterAt (alter name fun node =>
    match node with
    | none => some (.table .headed [])
    | some (.table .implied inner) => some (.table .headed inner)
    | some _ => none) path entries

/-- Adds one more table with a heading. -/
def addTable (path : List String) (name : String) (entries : Entries) : Option Entries :=
  alterAt (alter name fun node =>
    match node with
    | none => some (.tables [[]])
    | some (.tables items) => some (.tables ([] :: items))
    | some _ => none) path entries

/-- Defines a key, dotted or not, in a table. `takesKeys` says whether the table at hand may get
one. -/
def defineKey (v : Json) (takesKeys : Bool) : List String → Entries → Option Entries
  | [], _ => none
  | [name], entries =>
    if takesKeys then
      alter name (fun node => if node.isNone then some (.leaf v) else none) entries
    else none
  | name :: path, entries =>
    alter name (fun node =>
      match node with
      | none => (defineKey v true path []).map (.table .dotted)
      | some (.table .dotted inner) => (defineKey v true path inner).map (.table .dotted)
      | some (.table .implied inner) => (defineKey v false path inner).map (.table .implied)
      | some _ => none) entries

/-! ### Values -/

mutual

/-- The value that a node stands for. -/
def Node.value : Node → Json
  | .leaf v => v
  | .table _ entries => .obj (entryValues entries)
  | .tables items => .arr (itemValues [] items)

/-- The values of named nodes. -/
def entryValues : List (String × Node) → List (String × Json)
  | [] => []
  | (name, node) :: rest => (name, node.value) :: entryValues rest

/-- The values of tables, put in front of others in reverse. -/
def itemValues (done : List Json) : List (List (String × Node)) → List Json
  | [] => done
  | entries :: rest => itemValues (.obj (entryValues entries) :: done) rest

end

end Fleet.Toml
