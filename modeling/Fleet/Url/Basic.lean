import Fleet.Text.Blank
import Fleet.Url.Form
import Fleet.Url.Host
import Fleet.Url.Path

/-!
# `Fleet.Url.Basic`: addresses

A `Url` is a scheme, a host with user and port, a path, a query and a fragment. Reading
follows the standard for addresses on the web: some schemes are special, they always have a
host and a path, backslashes count as slashes, and their default port is left out. Writing an
address and reading it again gives the same address.
-/

set_option autoImplicit false

namespace Fleet

open Fleet.Text

namespace Url

/-- Who asks, where, and at which door. -/
structure Authority where
  /-- The user name, written with percent signs. -/
  user : String := ""
  /-- The password, written with percent signs. -/
  password : String := ""
  host : Host
  /-- The port, unless it is the default one of the scheme. -/
  port : Option Nat := none
deriving DecidableEq, Repr, Inhabited

/-- What stands between the authority and the query. -/
inductive Path where
  /-- Segments, each behind a slash. -/
  | segments (list : List String)
  /-- A text that has no parts, as in the address of a mailbox. -/
  | whole (text : String)
deriving DecidableEq, Repr, Inhabited

end Url

structure Url where
  /-- The scheme, in lower case. -/
  scheme : String
  /-- The authority; some addresses have none. -/
  authority : Option Url.Authority
  path : Url.Path
  query : Option String := none
  fragment : Option String := none
deriving DecidableEq, Repr, Inhabited

namespace Url

/-- The special schemes with their default ports. -/
def specialSchemes : List (String × Option Nat) :=
  [("http", some 80), ("https", some 443), ("ws", some 80), ("wss", some 443), ("ftp", some 21),
    ("file", none)]

def isSpecialScheme (scheme : String) : Bool := specialSchemes.any (·.1 == scheme)

def defaultPort (scheme : String) : Option Nat := (specialSchemes.lookup scheme).join

def Path.text : Path → String
  | .segments list => segmentsText list
  | .whole text => text

def Authority.text (a : Authority) : String :=
  (if a.user.isEmpty && a.password.isEmpty then ""
    else a.user ++ (if a.password.isEmpty then "" else ":" ++ a.password) ++ "@")
    ++ a.host.text
    ++ (match a.port with
      | some p => ":" ++ Nat.repr p
      | none => "")

def isSpecial (a : Url) : Bool := isSpecialScheme a.scheme

/-- Whether the address belongs to the web. -/
def isWeb (a : Url) : Bool := a.scheme == "http" || a.scheme == "https"

/-- The text up to the query. -/
def base (a : Url) : String :=
  a.scheme ++ ":"
    ++ (match a.authority, a.path with
      | some authority, _ => "//" ++ authority.text
      | none, .segments ("" :: _ :: _) => "/."
      | none, _ => "")
    ++ a.path.text

def text (a : Url) : String :=
  a.base
    ++ (match a.query with
      | some q => "?" ++ q
      | none => "")
    ++ (match a.fragment with
      | some f => "#" ++ f
      | none => "")

/-! ### Reading -/

/-- What is dropped from both ends of an address before it is read. -/
def isEdge (c : Char) : Bool := c.toNat ≤ 0x20

/-- What is dropped wherever it stands in an address. -/
def isDropped (c : Char) : Bool := c = '\t' || c = '\n' || c = '\r'

/-- Whether a character may stand in a scheme behind the first letter. -/
def isSchemeChar (c : Char) : Bool := isAlnum c || c = '+' || c = '-' || c = '.'

/-- The scheme of an address, in lower case, and what follows its colon. -/
def splitScheme? (cs : List Char) : Option (String × List Char) := do
  let (scheme, rest) ← splitFirst? ':' cs
  match scheme with
  | [] => none
  | c :: _ =>
    if c.isAlpha && scheme.all isSchemeChar then
      some (String.ofList (scheme.map Char.toLower), rest)
    else none

/-- Splits before the first character that passes a test. -/
def breakAt (test : Char → Bool) (cs : List Char) : List Char × List Char :=
  (cs.takeWhile fun c => !test c, cs.dropWhile fun c => !test c)

/-- Whether a character ends the authority of an address. -/
def endsAuthority (special : Bool) (c : Char) : Bool :=
  c = '/' || c = '?' || c = '#' || (special && c = '\\')

/-- The user and password in front of the last at sign of an authority, and what follows
it. -/
def splitUser (cs : List Char) : (String × String) × List Char :=
  if cs.contains '@' then
    let host := (cs.reverse.takeWhile (· ≠ '@')).reverse
    let userinfo := (cs.take (cs.length - host.length)).dropLast
    let encode := fun part => String.ofList (percentEncode userinfoSet part)
    match splitFirst? ':' userinfo with
    | some (user, password) => ((encode user, encode password), host)
    | none => ((encode userinfo, ""), host)
  else (("", ""), cs)

/-- Splits a host from its port at the first colon that is not between brackets. -/
def splitPort (inside : Bool) : List Char → List Char × Option (List Char)
  | [] => ([], none)
  | c :: rest =>
    if c = ':' && !inside then ([], some rest)
    else
      let (host, port) := splitPort (if c = '[' then true else if c = ']' then false else inside)
        rest
      (c :: host, port)

/-- A port, or nothing when no digit stands there or it is the default one. -/
def parsePort? (scheme : String) : Option (List Char) → Option (Option Nat)
  | none => some none
  | some [] => some none
  | some digits => do
    let port ← readDigits digits
    if 65535 < port then none
    else if defaultPort scheme = some port then some none
    else some (some port)

/-- The authority that a text stands for. -/
def parseAuthority? (scheme : String) (cs : List Char) : Option Authority := do
  let ((user, password), rest) := splitUser cs
  let (hostText, portText) := splitPort false rest
  if hostText.isEmpty
      && (isSpecialScheme scheme || portText.isSome || !user.isEmpty || !password.isEmpty) then
    none
  else
    let host ← if isSpecialScheme scheme then Host.parse? hostText else Host.parsePlain? hostText
    let port ← parsePort? scheme portText
    pure { user, password, host, port }

/-- The authority of an address of a file, in which this machine has no name. -/
def parseFileAuthority? (cs : List Char) : Option Authority := do
  let host ← if cs.isEmpty then some (.name "") else Host.parse? cs
  pure { host := if host = .name "localhost" then .name "" else host }

/-- The authority and the path of an address, from what follows the scheme up to the
query. -/
def parseHierarchy? (scheme : String) (cs : List Char) :
    Option (Option Authority × Path) :=
  let special := isSpecialScheme scheme
  let isSlash := fun c => c = '/' || (special && c = '\\')
  let afterSlashes := fun (cs : List Char) => do
    let (authority, path) := breakAt (endsAuthority special) cs
    let authority ←
      if scheme = "file" then parseFileAuthority? authority else parseAuthority? scheme authority
    pure (some authority, Path.segments (parsePath special path))
  match cs with
  | a :: b :: rest =>
    if scheme = "file" then
      if isSlash a && isSlash b then afterSlashes rest
      else some (some { host := .name "" }, .segments (parsePath true cs))
    else if special then afterSlashes (cs.dropWhile isSlash)
    else if a = '/' && b = '/' then afterSlashes rest
    else if a = '/' then some (none, .segments (parsePath false cs))
    else some (none, .whole (String.ofList (percentEncode controlSet cs)))
  | _ =>
    if scheme = "file" then some (some { host := .name "" }, .segments (parsePath true cs))
    else if special then afterSlashes (cs.dropWhile isSlash)
    else if cs.head? = some '/' then some (none, .segments (parsePath false cs))
    else some (none, .whole (String.ofList (percentEncode controlSet cs)))

/-- The query of an address as it is written. -/
def encodeQuery (special : Bool) (cs : List Char) : String :=
  String.ofList (percentEncode (if special then specialQuerySet else querySet) cs)

/-- The address that a text stands for. -/
def parse? (s : String) : Option Url := do
  let cs := (trimChars isEdge s.toList).filter fun c => !isDropped c
  let (scheme, rest) ← splitScheme? cs
  let (rest, fragment) := breakAt (· = '#') rest
  let (rest, query) := breakAt (· = '?') rest
  let (authority, path) ← parseHierarchy? scheme rest
  pure
    { scheme
      authority
      path
      query := match query with
        | [] => none
        | _ :: q => some (encodeQuery (isSpecialScheme scheme) q)
      fragment := match fragment with
        | [] => none
        | _ :: f => some (String.ofList (percentEncode fragmentSet f)) }

/-! ### Parts -/

/-- The address with another path, given as text. -/
def withPath (a : Url) (path : String) : Url :=
  { a with
    path := match a.path with
      | .segments _ => .segments (parsePath a.isSpecial path.toList)
      | .whole _ =>
        let cs := path.toList
        let cs := if cs.head? = some '/' then "%2F".toList ++ cs.tail else cs
        .whole (String.ofList (percentEncode controlSet cs)) }

/-- The address with pairs put behind its query. -/
def withPairs (a : Url) (pairs : List Pair) : Url :=
  { a with query := some (appendPairs a.query pairs) }

def pairs (a : Url) : List Pair := parsePairs (a.query.getD "")

/-- The user name and the password, decoded and joined by a colon, if there are any. -/
def user? (a : Url) : Option (List UInt8) :=
  match a.authority with
  | some w =>
    if w.user.isEmpty && w.password.isEmpty then none
    else
      let plain (s : String) := percentDecode (utf8Text s)
      some (plain w.user ++ utf8Text ":" ++ plain w.password)
  | none => none

def withoutUser (a : Url) : Url :=
  { a with authority := a.authority.map fun w => { w with user := "", password := "" } }

def withoutQuery (a : Url) : Url := { a with query := none, fragment := none }

def segments (a : Url) : List String :=
  match a.path with
  | .segments list => list
  | .whole _ => []

/-- The address with a name put behind its path. The name is one segment, so its slashes and
percent signs are encoded; line breaks and tabs are dropped, and a name of dots is left out. An
empty name leaves a path of one slash as it is. -/
def appendName (a : Url) (name : String) : Url :=
  if name = "." || name = ".." then a
  else
    let path := if a.segments = [""] then [] else a.segments
    let segment := percentEncode segmentSet (name.toList.filter fun c => !isDropped c)
    { a with path := .segments (pushSegment path segment true) }

/-- The address with names put behind its path, whose last slash is dropped first. -/
def appendNames (a : Url) (names : List String) : Url :=
  let start :=
    if 2 ≤ a.segments.length && a.segments.getLast? = some "" then
      { a with path := .segments a.segments.dropLast }
    else a
  names.foldl appendName start

/-- The address that a text names, seen from another address. A text with a scheme names an address
by itself. -/
def join? (a : Url) (text : String) : Option Url :=
  let cs := text.toList
  if (splitScheme? cs).isSome then parse? text
  else if (dropPrefix? "//".toList cs).isSome then parse? (a.scheme ++ ":" ++ text)
  else
    match cs with
    | [] => some { a with fragment := none }
    | c :: _ =>
      if c = '#' then parse? ({ a with fragment := none }.text ++ text)
      else if c = '?' then parse? (a.base ++ text)
      else if c = '/' then parse? ({ a with path := .segments [] }.base ++ text)
      else parse? ({ a with path := .segments a.segments.dropLast }.base ++ "/" ++ text)

end Url

end Fleet
