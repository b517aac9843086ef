/-!
# `Fleet.Json.Basic`: JSON values

Objects keep their members in written order, repeated names included; `Json.canonical` is the
form in which each name occurs once, the last one written winning, and names ascend. Integers
that fit 64 bits, signed or unsigned, are `int`; every other number keeps its text as `real`.
-/

set_option autoImplicit false

namespace Fleet

inductive Json where
  | null
  | bool (b : Bool)
  /-- An integer of at most 64 bits. -/
  | int (i : Int)
  /-- Any other number, by its text. -/
  | real (text : String)
  | str (s : String)
  | arr (items : List Json)
  /-- Named values in written order. -/
  | obj (members : List (String × Json))
deriving Inhabited, Repr

namespace Json

def ofNat (n : Nat) : Json := .int n

/-- The image of a value, and `null` for none. -/
def ofOption {α : Type} (encode : α → Json) : Option α → Json
  | none => .null
  | some a => encode a

/-- The texts of a list as a value. -/
def ofStrings (l : List String) : Json := .arr (l.map .str)

/-- The first member of an object with the given name. -/
def member? (name : String) : Json → Option Json
  | .obj members => members.lookup name
  | _ => none

/-- Inserts a member by name: before all greater names, in place of an equal one. -/
def insertMember (name : String) (v : Json) : List (String × Json) → List (String × Json)
  | [] => [(name, v)]
  | (n, w) :: rest =>
    if name < n then (name, v) :: (n, w) :: rest
    else if name = n then (name, v) :: rest
    else (n, w) :: insertMember name v rest

mutual

/-- The value with every object's names unique and ascending, the last value of a name kept. -/
def canonical : Json → Json
  | .arr items => .arr (canonicalItems items)
  | .obj members => .obj (canonicalMembers [] members)
  | .null => .null
  | .bool b => .bool b
  | .int i => .int i
  | .real t => .real t
  | .str s => .str s

/-- The canonical forms of the values of a list. -/
def canonicalItems : List Json → List Json
  | [] => []
  | v :: rest => canonical v :: canonicalItems rest

/-- Adds the canonical forms of members to `done`, which is in canonical order. -/
def canonicalMembers (done : List (String × Json)) : List (String × Json) → List (String × Json)
  | [] => done
  | (n, v) :: rest => canonicalMembers (insertMember n (canonical v) done) rest

end

end Json

end Fleet
