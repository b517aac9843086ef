import Fleet.Objects.Error
import Fleet.Settings
import Fleet.Text.Search
import Fleet.Url.Basic

/-!
# `Fleet.S3.Target`: where a bucket is found

A bucket has an address of its own below that of the service when its name can be part of a
host; otherwise its name is the first segment of the path. The service is the one at a given
address, or that of a region; accelerated transfer is for buckets with an own address at the
service only.
-/

set_option autoImplicit false

namespace Fleet.S3

open Fleet.Text Fleet.Url

/-- What requests are signed with. -/
structure Credentials where
  key : String
  secret : String
  token : Option String := none
deriving DecidableEq, Inhabited

/-- A bucket, how it is reached and what requests for it are signed with. -/
structure Target where
  bucket : String
  region : String
  credentials : Credentials
  /-- The address of the service that requests go to. -/
  uri : Option String := none
  /-- The address of the service that links show. -/
  externalUri : Option String := none
  /-- Whether the name of the bucket always stands in the path. -/
  forcePathStyle : Bool := false
  useAccelerate : Bool := false
deriving DecidableEq, Inhabited

/-- The region of a bucket unless another one is given. -/
def fallbackRegion : String := "us-east-1"

/-- An error of the service. -/
def failure (op : ObjectOp) (detail : String) : ObjectError := .backend "s3" op detail

/-- A place on the web: the scheme, the host with its port and the path. -/
structure Place where
  scheme : String
  /-- The host and the port, as they are given. -/
  authority : String
  /-- The path, as it is written. -/
  path : String
deriving DecidableEq, Repr, Inhabited

namespace Place

/-- The text of a place with a query behind it. -/
def text (p : Place) (query : String) : String :=
  p.scheme ++ "://" ++ p.authority ++ p.path ++ (if query.isEmpty then "" else "?" ++ query)

/-- The host as it is signed, without the default port of the scheme. -/
def signedHost (p : Place) : String :=
  match (defaultPort p.scheme).bind fun port =>
    dropPrefix? (":" ++ Nat.repr port).toList.reverse p.authority.toList.reverse with
  | some host => String.ofList host.reverse
  | none => p.authority

end Place

/-! ### Names that can be part of a host -/

/-- Whether a character may stand at the ends of a label of a host. -/
def isLabelEnd (c : Char) : Bool := ('a' ≤ c && c ≤ 'z') || ('0' ≤ c && c ≤ '9')

/-- Whether a bucket can have a host of its own: 3 to 63 small letters, digits and hyphens,
with no hyphen at an end. -/
def isHostLabel (bucket : String) : Bool :=
  let cs := bucket.toList
  3 ≤ cs.length && cs.length ≤ 63 && cs.all (fun c => isLabelEnd c || c = '-')
    && cs.head?.any isLabelEnd && cs.getLast?.any isLabelEnd

/-! ### Services -/

/-- A service at a given address. -/
structure Service where
  scheme : String
  authority : String
  /-- The path in front of all others. -/
  front : String
  /-- Whether the host is a number. -/
  isNumeric : Bool

/-- The service that an address names: an address of the web without a query. -/
def Service.parse? (uri : String) : Option Service := do
  let url ← Url.parse? uri
  let (_, rest) ← splitScheme? uri.toList
  let (authority, front) := breakAt (endsAuthority false) (← dropPrefix? "//".toList rest)
  if !url.isWeb || url.query.isSome then none
  else
    pure
      { scheme := url.scheme
        authority := String.ofList authority
        front := String.ofList (front.reverse.dropWhile (· = '/')).reverse
        isNumeric := match url.authority with
          | some { host := .name _, .. } => false
          | _ => true }

namespace Target

/-- Whether the bucket has a host of its own, as far as its name decides. -/
def hasOwnHost (t : Target) : Bool := isHostLabel t.bucket && !t.forcePathStyle

/-- The place of a key of the bucket at a service; the empty key is the bucket itself. -/
def placeAt (t : Target) (uri : Option String) (key : String) : Option Place :=
  let bucket := percentText reservedSet t.bucket
  let path := "/" ++ percentText keySet key
  if t.useAccelerate then
    if t.hasOwnHost && uri.isNone then
      some ⟨"https", t.bucket ++ ".s3-accelerate.amazonaws.com", path⟩
    else none
  else
    match uri with
    | some uri =>
      (Service.parse? uri).map fun s =>
        if t.hasOwnHost && !s.isNumeric then
          ⟨s.scheme, t.bucket ++ "." ++ s.authority, s.front ++ path⟩
        else ⟨s.scheme, s.authority, s.front ++ "/" ++ bucket ++ path⟩
    | none =>
      let service := "s3." ++ t.region ++ ".amazonaws.com"
      if t.hasOwnHost then some ⟨"https", t.bucket ++ "." ++ service, path⟩
      else some ⟨"https", service, "/" ++ bucket ++ path⟩

/-- The place of the bucket for requests. -/
def bucketPlace (t : Target) (op : ObjectOp) : Except ObjectError Place :=
  match t.placeAt t.uri "" with
  | some p => .ok p
  | none => .error (failure op "the bucket has no address")

/-- The place of an object, whose key must not be empty, for requests. -/
def objectPlace (t : Target) (op : ObjectOp) (key : String) : Except ObjectError Place :=
  match if key.isEmpty then none else t.placeAt t.uri key with
  | some p => .ok p
  | none => .error (failure op "the object has no address")

/-- The place of an object, whose key must not be empty, in links. -/
def linkPlace (t : Target) (op : ObjectOp) (key : String) : Except ObjectError Place :=
  match if key.isEmpty then none else t.placeAt (t.externalUri <|> t.uri) key with
  | some p => .ok p
  | none => .error (failure op "the object has no address")

/-- The target that settings of a request describe. -/
def ofSettings (s : StorageSettings) : Except ObjectError Target := do
  if s.kind ≠ .s3 then throw (.invalidSettings ("settings target " ++ s.kind.token ++ " storage"))
  (s.validate).mapError fun e => .invalidSettings e.message
  match s.key, s.secret with
  | some key, some secret =>
    pure
      { bucket := s.bucket
        region := s.region.getD fallbackRegion
        credentials := { key, secret, token := s.token }
        uri := s.uri
        externalUri := s.externalUri
        forcePathStyle := s.forcePathStyle
        useAccelerate := s.useAccelerate }
  | _, _ => throw (.invalidSettings "key and secret: required for s3 storage")

end Target

end Fleet.S3
