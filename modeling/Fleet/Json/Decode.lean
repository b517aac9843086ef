import Fleet.Json.Basic

/-!
# `Fleet.Json.Decode`: reading domain values from JSON values

A decoder gives a value of its type or nothing. Records are read field by field with
`FieldReader`, either from an object, where unknown members are ignored and a repeated known
name is refused, or from a list that gives the fields in their order and nothing more.
-/

set_option autoImplicit false

namespace Fleet.Json

/-- A reader of one type. -/
abbrev Decoder (α : Type) := Json → Option α

def asString : Decoder String
  | .str s => some s
  | _ => none

def asBool : Decoder Bool
  | .bool b => some b
  | _ => none

def asNatBelow (bound : Nat) : Decoder Nat
  | .int i => if 0 ≤ i ∧ i.toNat < bound then some i.toNat else none
  | _ => none

def asWord : Decoder Nat := asNatBelow UInt64.size

def asHalfWord : Decoder Nat := asNatBelow UInt32.size

/-- Reads `null` as none and anything else as some value. -/
def asOption {α : Type} (dec : Decoder α) : Decoder (Option α)
  | .null => some none
  | v => (dec v).map some

def asList {α : Type} (dec : Decoder α) : Decoder (List α)
  | .arr items => items.mapM dec
  | _ => none

/-- Reads the members of an object in written order. -/
def asMembers {α : Type} (dec : Decoder α) : Decoder (List (String × α))
  | .obj members => members.mapM fun (n, v) => (dec v).map (n, ·)
  | _ => none

/-- Reads one of a set of tokens, given as a text or as the only name of an object whose value
is `null`. -/
def asToken {α : Type} (ofToken : String → Option α) : Decoder α
  | .str s => ofToken s
  | .obj [(s, .null)] => ofToken s
  | _ => none

/-- What remains of a record: its members, or the fields not yet read. -/
inductive FieldSource where
  | named (members : List (String × Json))
  | ordered (items : List Json)

/-- Reads some fields of a record. -/
abbrev FieldReader (α : Type) := StateT FieldSource Option α

namespace FieldReader

/-- The value of the next field, if it is present. -/
def next (name : String) : FieldReader (Option Json) := fun source =>
  match source with
  | .named members =>
    match members.filter (·.1 == name) with
    | [] => some (none, source)
    | [(_, v)] => some (some v, source)
    | _ => none
  | .ordered [] => some (none, source)
  | .ordered (v :: rest) => some (some v, .ordered rest)

/-- A field that must be present. -/
def required {α : Type} (name : String) (dec : Decoder α) : FieldReader α := do
  match ← next name with
  | some v => StateT.lift (dec v)
  | none => failure

/-- A field that has a value of its own when it is absent. -/
def defaulted {α : Type} (name : String) (dec : Decoder α) (default : α) : FieldReader α := do
  match ← next name with
  | some v => StateT.lift (dec v)
  | none => pure default

/-- A field that may be absent or `null`. -/
def optional {α : Type} (name : String) (dec : Decoder α) : FieldReader (Option α) :=
  defaulted name (asOption dec) none

/-- A field that may be `null` and, in a record with names, absent. -/
def nullable {α : Type} (name : String) (dec : Decoder α) : FieldReader (Option α) := do
  match ← next name, ← get with
  | some v, _ => StateT.lift (asOption dec v)
  | none, .named _ => pure none
  | none, .ordered _ => failure

end FieldReader

def asRecord {α : Type} (fields : FieldReader α) : Decoder α
  | .obj members => (fields (.named members)).map (·.1)
  | .arr items =>
    match fields (.ordered items) with
    | some (a, .ordered []) => some a
    | _ => none
  | _ => none

end Fleet.Json
