import Fleet.Hash.Base64
import Fleet.Text.Blank
import Fleet.Text.Quoted
import Fleet.Text.Search
import Fleet.Url.Basic

/-!
# `Fleet.Azure.Account`: accounts of Azure Blob Storage

An account has a name, a key and an endpoint. It is given by its name and key, or by a
connection string: pieces between semicolons, each the name of an attribute, an equals sign
and a value. The endpoint of an account always belongs to the web, its path ends in a slash
and it has neither query nor fragment.
-/

set_option autoImplicit false

namespace Fleet.Azure

open Fleet.Hash Fleet.Text

/-- Why there is no account or no signature. -/
inductive CredentialsError where
  | missingName
  | missingKey
  | invalidKey (detail : String)
  | invalidEndpoint (detail : String)
  | notWeb (endpoint : String)
  | signing (detail : String)
deriving DecidableEq, Repr, Inhabited

namespace CredentialsError

def kindName : CredentialsError → String
  | .missingName => "MissingAccountName"
  | .missingKey => "MissingAccountKey"
  | .invalidKey _ => "InvalidAccountKey"
  | .invalidEndpoint _ => "InvalidEndpoint"
  | .notWeb _ => "InvalidEndpoint"
  | .signing _ => "Signing"

def message : CredentialsError → String
  | .missingName => "connection string does not contain an account name"
  | .missingKey => "connection string does not contain an account key"
  | .invalidKey detail => "invalid account key: " ++ detail
  | .invalidEndpoint detail => "invalid blob endpoint: " ++ detail
  | .notWeb endpoint => "invalid blob endpoint: " ++ endpoint ++ " is not an http(s) url"
  | .signing detail => "signing failed: " ++ detail

end CredentialsError

structure Account where
  name : String
  key : List UInt8
  /-- The address of the service for this account. -/
  endpoint : Url
deriving DecidableEq, Repr, Inhabited

/-! ### Connection strings -/

/-- What a connection string can say of an account. -/
inductive Attribute where
  | accountName
  | accountKey
  | blobEndpoint
  | protocol
  | endpointSuffix
deriving DecidableEq, Repr

namespace Attribute

/-- What begins the piece of an attribute: its name and the equals sign. -/
def key : Attribute → String
  | .accountName => "AccountName="
  | .accountKey => "AccountKey="
  | .blobEndpoint => "BlobEndpoint="
  | .protocol => "DefaultEndpointsProtocol="
  | .endpointSuffix => "EndpointSuffix="

/-- No attribute of a connection text has an empty key, so a piece that begins with a key is never
empty. -/
theorem key_ne_nil (a : Attribute) : a.key.toList ≠ [] := by
  cases a <;> decide

/-- The text behind the first occurrence of the key that begins a piece, in a text that comes after
some character. An occurrence elsewhere belongs to a value or to another name, and the search goes
on behind it. -/
def behindKey? (a : Attribute) (previous : Option Char) (cs : List Char) : Option (List Char) :=
  match _found : splitAround? a.key.toList cs with
  | none => none
  | some (before, after) =>
    if (before.getLast?.or previous).all (· = ';') then some after
    else behindKey? a a.key.toList.getLast? after
termination_by cs.length
decreasing_by
  have hkey := List.length_pos_iff.2 a.key_ne_nil
  rw [eq_of_splitAround? _found, List.length_append, List.length_append]
  omega

/-- The value of an attribute in a connection string: what is behind its key, up to the next
semicolon. -/
def value? (a : Attribute) (connection : String) : Option String :=
  (a.behindKey? none connection.toList).map fun rest =>
    String.ofList (rest.takeWhile (· ≠ ';'))

end Attribute

/-- The end of the addresses of accounts in the public cloud. -/
def publicSuffix : String := "core.windows.net"

namespace Account

/-- The address of an account that has none of its own. -/
def standardEndpoint (protocol name suffix : String) : String :=
  protocol ++ "://" ++ name ++ ".blob." ++ suffix ++ "/"

/-- An address with a slash at the end of its path and nothing behind it. -/
def settle (endpoint : Url) : Url :=
  let path := endpoint.path.text
  let closed :=
    if path.toList.getLast? = some '/' then endpoint else endpoint.withPath (path ++ "/")
  closed.withoutQuery

/-- The account with a name, a key in text form and the address of an endpoint. -/
def build (name key endpoint : String) : Except CredentialsError Account := do
  if isBlankText name then throw .missingName
  let some bytes := Base64.decode? (trim key) | throw (.invalidKey "no base64 text")
  if bytes.isEmpty then throw .missingKey
  let some url := Url.parse? endpoint | throw (.invalidEndpoint "no address")
  if !url.isWeb then throw (.notWeb url.text)
  pure { name, key := bytes, endpoint := settle url }

/-- The account with a name and a key, at an address of its own or in the public cloud. -/
def ofKey (name key : String) (uri : Option String) : Except CredentialsError Account :=
  build name key (uri.getD (standardEndpoint "https" name publicSuffix))

/-- The account that a connection string describes. -/
def ofConnection (connection : String) : Except CredentialsError Account := do
  let some name := Attribute.accountName.value? connection | throw .missingName
  let some key := Attribute.accountKey.value? connection | throw .missingKey
  let protocol := (Attribute.protocol.value? connection).getD "https"
  let suffix := (Attribute.endpointSuffix.value? connection).getD publicSuffix
  build name key
    ((Attribute.blobEndpoint.value? connection).getD (standardEndpoint protocol name suffix))

/-- The diagnostic text of an account, which hides the key. -/
def diagnosticText (a : Account) : String :=
  "AzureCredentials \x7b account_name: " ++ quoted a.name
    ++ ", account_key: \"<redacted>\", endpoint: " ++ quoted a.endpoint.text ++ " \x7d"

end Account

end Fleet.Azure
