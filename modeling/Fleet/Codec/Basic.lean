import Fleet.Json.Decode
import Fleet.Stats
import Fleet.Time.Rfc3339

/-!
# `Fleet.Codec.Basic`: times, statuses and counters as JSON

Times are their exchange text, and a time that has none cannot be written. Neither can a value that
holds such a time. Statuses are their tokens. Counters are an object with one member per status; a
missing counter is read as zero and the last of several values for one status counts.
-/

set_option autoImplicit false

namespace Fleet.Codec

open Fleet.Time Fleet.Json

/-- A writer of one type, which may fail for a reason. -/
abbrev Encoder (α : Type) := α → Except String Json

/-- Writes a value that may be absent. -/
def encodeOption {α : Type} (enc : Encoder α) : Encoder (Option α)
  | none => .ok .null
  | some a => enc a

/-- Writes a list. -/
def encodeList {α : Type} (enc : Encoder α) : Encoder (List α) :=
  fun l => (l.mapM enc).map .arr

/-- The reason why a time cannot be written, because of some part of it. -/
def unwritable (part : String) : String :=
  "The " ++ part ++ " component cannot be formatted into the requested format."

def encodeInstant : Encoder Instant := fun t =>
  t.unwritable?.elim (.ok (.str t.text)) fun part => .error (unwritable part)

def decodeInstant : Decoder Instant := fun v => (asString v).bind Instant.parse

def encodeStatus (s : DeviceStatus) : Json := .str s.token

def decodeStatus : Decoder DeviceStatus := asToken DeviceStatus.ofToken?

def encodeDeploymentStatus (s : DeploymentStatus) : Json := .str s.token

def decodeDeploymentStatus : Decoder DeploymentStatus := asToken DeploymentStatus.ofToken?

def encodeStats (st : Stats) : Json :=
  .obj (st.toList.map fun (s, n) => (s.token, .ofNat n.toNat))

/-- Adds the member of a counter object to the counters. -/
def addCounter (st : Stats) (member : String × Nat) : Option Stats :=
  (DeviceStatus.ofToken? member.1).map fun s => st.set s member.2.toUInt64

def decodeStats : Decoder Stats := fun v =>
  (asMembers asWord v).bind fun members => members.foldlM addCounter .zero

end Fleet.Codec
