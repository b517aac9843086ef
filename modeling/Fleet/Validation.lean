import Fleet.Text.Blank

/-!
# `Fleet.Validation`: rules on the shape of input

Every rule that an input can break is a `ValidationError`. The general rules on texts, a
range of lengths and the start of a web address, are here; each type of input has its own
`validate` beside it.
-/

set_option autoImplicit false

namespace Fleet

open Fleet.Text

/-- A rule that an input breaks. -/
inductive ValidationError where
  | blank (field : String)
  | length (field : String) (min max : Nat)
  | notWebAddress (field : String)
  /-- A plan names neither devices nor a group. -/
  | noTarget
  /-- A plan names devices and a group. -/
  | twoTargets
  | blankDevice
  | zeroMaxDevices
  /-- A query asks for creation times after a later bound. -/
  | reversedWindow
  | noMessages
  | tooManyMessages (max : Nat)
  /-- A part of a log message is blank. -/
  | blankMessagePart (index : Nat) (part : String)
  /-- A connection string stands in settings of the wrong kind. -/
  | strayConnectionString
  | noS3Credentials
  /-- Settings for Azure lack both kinds of credentials. -/
  | noAzureCredentials
deriving DecidableEq, Repr

namespace ValidationError

def message : ValidationError → String
  | .blank field => field ++ ": cannot be blank"
  | .length field min max =>
    field ++ ": the length must be between " ++ Nat.repr min ++ " and " ++ Nat.repr max
  | .notWebAddress field => field ++ ": must include http:// or https://"
  | .noTarget => "devices: non zero value required"
  | .twoTargets => "devices and group are mutually exclusive"
  | .blankDevice => "devices: identifiers cannot be blank"
  | .zeroMaxDevices => "max_devices: must be greater than zero"
  | .reversedWindow => "created_after must not be later than created_before"
  | .noMessages => "messages: non zero value required"
  | .tooManyMessages max =>
    "messages: at most " ++ Nat.repr max ++ " messages are accepted"
  | .blankMessagePart index part =>
    "messages[" ++ Nat.repr index ++ "]." ++ part ++ ": cannot be blank"
  | .strayConnectionString => "connection_string: only supported for azure storage"
  | .noS3Credentials => "key and secret: required for s3 storage"
  | .noAzureCredentials => "connection_string or key and secret: required for azure storage"

end ValidationError

/-- Accepts a condition or fails with the rule it breaks. -/
def require (ok : Bool) (e : ValidationError) : Except ValidationError Unit :=
  if ok then .ok () else .error e

/-- A text of `min` to `max` characters, not blank unless it may be empty. -/
def requireLength (field value : String) (min max : Nat) : Except ValidationError Unit := do
  require (min = 0 || !isBlankText value) (.blank field)
  require (min ≤ value.length && value.length ≤ max) (.length field min max)

/-- The rule of `requireLength` for a text that may be absent. -/
def optionalLength (field : String) (value : Option String) (min max : Nat) :
    Except ValidationError Unit :=
  match value with
  | none => .ok ()
  | some v => requireLength field v min max

/-- A web address of at most `max` characters. -/
def requireWebAddress (field value : String) (max : Nat) : Except ValidationError Unit := do
  requireLength field value 3 max
  let cs := (trim value).toList
  require ("https://".toList.isPrefixOf cs || "http://".toList.isPrefixOf cs)
    (.notWebAddress field)

end Fleet
