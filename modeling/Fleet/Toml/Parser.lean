import Fleet.Toml.Scalar
import Fleet.Toml.Tree

/-!
# `Fleet.Toml.Parser`: reading a document of settings

A document is a list of lines: headings of tables, keys with values, comments and empty lines.
Its value is an object. Values nest at most `maxDepth` deep.
-/

set_option autoImplicit false

namespace Fleet.Toml

open Fleet.Text

/-- The greatest number of lists and tables around a value. -/
def maxDepth : Nat := 80

/-- What follows the spaces and the comment at the end of a line, which the end of the document
may take the place of. -/
def lineEnd? (cs : List Char) : Option (List Char) :=
  let rest := match skipSpace cs with
    | '#' :: comment => comment.dropWhile isPlain
    | rest => rest
  if rest.isEmpty then some [] else newline? rest

/-- The text without spaces, comments and ends of lines in front. -/
def skipBlank : (fuel : Nat) → List Char → List Char
  | 0, cs => cs
  | fuel + 1, cs =>
    match skipSpace cs with
    | [] => []
    | rest =>
      match lineEnd? rest with
      | some rest => skipBlank fuel rest
      | none => rest

/-- The values of a list up to its closing bracket; a comma may follow the last one. -/
def listItems (value : List Char → Option (Json × List Char)) :
    (fuel : Nat) → List Char → Option (List Json × List Char)
  | 0, _ => none
  | fuel + 1, cs =>
    match skipBlank cs.length cs with
    | ']' :: rest => some ([], rest)
    | cs => do
      let (v, rest) ← value cs
      match skipBlank rest.length rest with
      | ',' :: rest => do
        let (vs, rest) ← listItems value fuel rest
        some (v :: vs, rest)
      | ']' :: rest => some ([v], rest)
      | _ => none

/-- A key with its value, and the rest. -/
def keyValue (value : List Char → Option (Json × List Char)) (cs : List Char) :
    Option ((List String × Json) × List Char) := do
  let (path, rest) ← names? cs
  match rest with
  | '=' :: rest => do
    let (v, rest) ← value (skipSpace rest)
    some ((path, v), rest)
  | _ => none

/-- The keys of a table on one line up to its closing brace. -/
def inlineKeys (value : List Char → Option (Json × List Char)) :
    (fuel : Nat) → Entries → List Char → Option (Entries × List Char)
  | 0, _, _ => none
  | fuel + 1, entries, cs => do
    let ((path, v), rest) ← keyValue value cs
    let entries ← defineKey v true path entries
    match skipSpace rest with
    | ',' :: rest => inlineKeys value fuel entries rest
    | '\x7d' :: rest => some (entries, rest)
    | _ => none

/-- A value, `depth` more lists and tables being allowed around values. -/
def value : (depth : Nat) → List Char → Option (Json × List Char)
  | _, '"' :: rest => (text? ('"' :: rest)).map fun (s, rest) => (.str s, rest)
  | _, '\x27' :: rest => (text? ('\x27' :: rest)).map fun (s, rest) => (.str s, rest)
  | 0, '[' :: _ => none
  | 0, '\x7b' :: _ => none
  | depth + 1, '[' :: rest =>
    (listItems (value depth) (rest.length + 1) rest).map fun (vs, rest) => (.arr vs, rest)
  | depth + 1, '\x7b' :: rest =>
    match skipSpace rest with
    | '\x7d' :: rest => some (.obj [], rest)
    | rest =>
      (inlineKeys (value depth) (rest.length + 1) [] rest).map fun (entries, rest) =>
        (.obj (entryValues entries), rest)
  | _, cs => scalar? cs

/-- What has been read of a document: its tables and the path of the last heading. -/
structure Progress where
  root : Entries := []
  /-- The path of the last heading. -/
  current : List String := []

/-- The document with a heading, `add` being what the heading does to the tables. -/
def Progress.enter (p : Progress) (path : List String)
    (add : List String → String → Entries → Option Entries) : Option Progress := do
  let name ← path.getLast?
  let root ← add path.dropLast name p.root
  some { root, current := path }

/-- The document with a key. -/
def Progress.define (p : Progress) (path : List String) (v : Json) : Option Progress := do
  let root ← alterAt (defineKey v true path) p.current p.root
  some { p with root }

/-- Reads one line with a heading or a key, which begins here. -/
def line? (p : Progress) (cs : List Char) : Option (Progress × List Char) :=
  match cs with
  | '[' :: '[' :: rest => do
    let (path, rest) ← names? rest
    match rest with
    | ']' :: ']' :: rest => do some (← p.enter path addTable, rest)
    | _ => none
  | '[' :: rest => do
    let (path, rest) ← names? rest
    match rest with
    | ']' :: rest => do some (← p.enter path openTable, rest)
    | _ => none
  | cs => do
    let ((path, v), rest) ← keyValue (value maxDepth) cs
    some (← p.define path v, rest)

/-- Reads lines until the document ends. -/
def lines : (fuel : Nat) → Progress → List Char → Option Progress
  | 0, _, _ => none
  | fuel + 1, p, cs =>
    match skipBlank cs.length cs with
    | [] => some p
    | cs => do
      let (p, rest) ← line? p cs
      lines fuel p (← lineEnd? rest)

/-- The value of a document. A mark of the order of bytes in front of it does not count. -/
def parse? (document : String) : Option Json :=
  let cs := match document.toList with
    | '\uFEFF' :: rest => rest
    | cs => cs
  (lines (cs.length + 1) {} cs).map fun p => .obj (entryValues p.root)

end Fleet.Toml
