import Fleet.Azure.Account
import Fleet.Hash.Mac
import Fleet.Time.Stamp

/-!
# `Fleet.Azure.AccessSignature`: signed access to containers and blobs

A grant names what may be done with a container or a blob, and when. Its signature is the
authentication code, under the key of the account, of fifteen fields on lines of their own;
the pairs that are put behind an address carry the values that were signed.
-/

set_option autoImplicit false

namespace Fleet.Azure

open Fleet.Hash Fleet.Text Fleet.Time Fleet.Url

/-- What a grant allows. -/
inductive Permission where
  | read
  | createWrite
  | delete
  | list
deriving DecidableEq, Repr, Inhabited

namespace Permission

def token : Permission → String
  | .read => "r"
  | .createWrite => "cw"
  | .delete => "d"
  | .list => "l"

def ofToken? (s : String) : Option Permission :=
  [read, createWrite, delete, list].find? (·.token = s)

end Permission

/-- What a grant is for. -/
inductive Resource where
  | blob (holder name : String)
  | container (name : String)
deriving DecidableEq, Repr, Inhabited

namespace Resource

def kind : Resource → String
  | .blob .. => "b"
  | .container _ => "c"

/-- The name of a resource within all accounts. -/
def canonical (account : String) : Resource → String
  | .blob holder name => "/blob/" ++ account ++ "/" ++ holder ++ "/" ++ name
  | .container name => "/blob/" ++ account ++ "/" ++ name

end Resource

/-- The version of the service that requests and signatures are made for. -/
def serviceVersion : String := "2020-10-02"

/-- A permission on a resource for a time. -/
structure Grant where
  permission : Permission
  resource : Resource
  start : Instant
  expiry : Instant
  disposition : Option String := none
deriving DecidableEq, Repr, Inhabited

/-- A time in UTC and whole seconds, as long as its year has four digits. -/
def writeTime (t : Instant) : Except CredentialsError String :=
  let year := t.toUtc.reading.date.year
  if 0 ≤ year && year ≤ 9999 then .ok t.wholeSecondText
  else .error (.signing "The year component cannot be formatted into the requested format.")

namespace Grant

/-- The fifteen fields that are signed, for an account and a window of time. -/
def signedFields (g : Grant) (account start expiry : String) : List String :=
  [g.permission.token, start, expiry, g.resource.canonical account, "", "", "", serviceVersion,
    g.resource.kind, "", "", g.disposition.getD "", "", "", ""]

/-- The text that is signed. -/
def textToSign (g : Grant) (account start expiry : String) : String :=
  "\n".intercalate (g.signedFields account start expiry)

/-- The signature of a grant by an account. -/
def signature (g : Grant) (account : Account) (start expiry : String) : String :=
  Base64.encode (mac account.key (utf8Text (g.textToSign account.name start expiry)))

/-- The pairs that carry a grant by an account. -/
def pairs (g : Grant) (account : Account) : Except CredentialsError (List Pair) := do
  let start ← writeTime g.start
  let expiry ← writeTime g.expiry
  pure
    ([("sv", serviceVersion), ("st", start), ("se", expiry), ("sr", g.resource.kind),
        ("sp", g.permission.token)]
      ++ (match g.disposition with
        | some d => [("rscd", d)]
        | none => [])
      ++ [("sig", g.signature account start expiry)])

/-- An address that carries a grant by an account. -/
def sign (g : Grant) (account : Account) (url : Url) : Except CredentialsError Url := do
  pure (url.withPairs (← g.pairs account))

end Grant

end Fleet.Azure
