import Fleet.Azure.AccessSignature
import Fleet.Context
import Fleet.Http.Redirect
import Fleet.Http.Status
import Fleet.Link
import Fleet.Objects.Payload
import Fleet.Time.MailDate

/-!
# `Fleet.Azure.Storage`: objects as blobs

An object is the blob of its key in a container. Requests are signed for an hour; links for
the lifetime asked for. A payload that ends within one block is uploaded by one request; a
longer one is staged block by block and committed by the list of its blocks, so that nothing
shows before every block was accepted.
-/

set_option autoImplicit false

namespace Fleet.Azure

open Fleet.Hash Fleet.Http Fleet.Text Fleet.Time

/-- The size of a block unless another one is configured. -/
def defaultBlockSize : Nat := 32768

/-- The smallest size of a block that is taken from a configuration. -/
def minBlockSize : Nat := 4096

/-- The greatest number of blocks of a blob. -/
def maxBlocks : Nat := 50000

/-- How long the requests of a storage itself are signed for. -/
def requestLifetime : Span := .ofSeconds 3600

structure Options where
  container : String
  /-- The account; without one, requests must bring settings. -/
  account : Option Account := none
  contentType : Option String := none
  /-- What is put after the names of uploads. -/
  filenameSuffix : Option String := none
  bufferSize : Nat := defaultBlockSize
deriving Inhabited

namespace Options

/-- The size of a block: the configured one, unless it is too small. -/
def blockSize (o : Options) : Nat :=
  if o.bufferSize < minBlockSize then defaultBlockSize else o.bufferSize

/-- The content disposition of an upload. -/
def uploadDisposition (o : Options) (path : String) : Option String :=
  o.filenameSuffix.map fun suffix =>
    "attachment; filename=\"" ++ afterLast '/' path ++ suffix ++ "\""

end Options

/-- An account and a container in it. -/
structure Target where
  account : Account
  container : String
deriving DecidableEq, Repr, Inhabited

namespace Target

/-- The address of the container. An endpoint whose path has no parts has none. -/
def containerUrl (t : Target) : Except ObjectError Url :=
  match t.account.endpoint.path with
  | .segments _ => .ok (t.account.endpoint.appendNames [t.container])
  | .whole _ =>
    .error (.invalidSettings
      ("blob endpoint " ++ t.account.endpoint.text ++ " cannot carry a path"))

/-- The address of a blob: each part of its key is a segment. -/
def blobUrl (t : Target) (key : String) : Except ObjectError Url := do
  pure ((splitText '/' key).foldl Url.appendName (← t.containerUrl))

/-- The target that settings of a request describe. -/
def ofSettings (s : StorageSettings) : Except ObjectError Target := do
  if s.kind ≠ .azure then
    throw (.invalidSettings ("settings target " ++ s.kind.token ++ " storage"))
  (s.validate).mapError fun e => .invalidSettings e.message
  let account ←
    match s.connectionString, s.key, s.secret with
    | some connection, _, _ => pure (Account.ofConnection connection)
    | none, some key, some secret => pure (Account.ofKey key secret s.uri)
    | _, _, _ => throw (.invalidSettings ValidationError.noAzureCredentials.message)
  let account ← account.mapError fun e => ObjectError.invalidSettings e.message
  pure { account, container := s.bucket }

end Target

/-- An error of the service. -/
def failure (op : ObjectOp) (activity reason : String) : ObjectError :=
  .backend "azblob" op (activity ++ ": " ++ reason)

structure Storage where
  options : Options
  /-- How replies that lead elsewhere are followed. -/
  redirects : Redirects := .web
deriving Inhabited

namespace Storage

/-- The storage with the given options, whose container must not be blank. -/
def ofOptions (o : Options) : Except ObjectError Storage :=
  if isBlankText o.container then .error (.invalidSettings "container must be set")
  else .ok { options := o }

/-- The target of a request: that of its settings, or the configured one. -/
def target (s : Storage) (ctx : Context) (op : ObjectOp) : Except ObjectError Target :=
  match ctx.settings with
  | some settings => Target.ofSettings settings
  | none =>
    match s.options.account with
    | some account => .ok { account, container := s.options.container }
    | none => .error (failure op "no default credentials" "storage settings are required")

end Storage

/-! ### Signing -/

/-- The address with a grant on it, or the reason why it cannot be signed. -/
def signUrl (t : Target) (g : Grant) (url : Url) : Except ObjectError Url :=
  (g.sign t.account url).mapError fun e => .invalidSettings e.message

/-- The grant on a resource for a time from now on. -/
def grantFor (now : Instant) (permission : Permission) (resource : Resource) (lifetime : Span)
    (disposition : Option String) : Grant :=
  { permission, resource, start := now, expiry := now.addNanos lifetime.nanos, disposition }

/-- The address of a blob for a request of the storage itself. -/
def requestUrl (t : Target) (now : Instant) (key : String) (permission : Permission) :
    Except ObjectError Url := do
  signUrl t (grantFor now permission (.blob t.container key) requestLifetime none)
    (← t.blobUrl key)

/-- A link to a blob for as long as asked for, within the bounds of all links. -/
def blobLink (t : Target) (now : Instant) (key : String) (method : LinkMethod) (lifetime : Span)
    (disposition : Option String) : Except ObjectError Link := do
  let permission :=
    match method with
    | .get => Permission.read
    | .put => .createWrite
    | .delete => .delete
  let g := grantFor now permission (.blob t.container key) (linkBounds.clamp lifetime) disposition
  let url ← signUrl t g (← t.blobUrl key)
  pure { uri := url.text, method, expire := g.expiry }

/-! ### Requests -/

/-- A request to an address. A user in the address is told in a header instead. -/
def request (method : String) (url : Url) (headers : Headers := [])
    (body : ByteArray := .empty) : Request :=
  let user := match url.user? with
    | some user => [("authorization", "Basic " ++ Base64.encode user)]
    | none => []
  { method
    url := url.withoutUser.text
    headers := headers ++ user ++ [("x-ms-version", serviceVersion)]
    body }

/-- The reply that comes of a request, if the service accepts it. -/
def accepted (op : ObjectOp) (activity : String) (r : Request) :
    Delivery → Except ObjectError Reply
  | .failure reason => .error (failure op activity reason)
  | .silence => .error (failure op activity ("error sending request for url (" ++ r.url ++ ")"))
  | .reply reply =>
    let code := reply.header? "x-ms-error-code"
    if reply.isSuccess then .ok reply
    else if reply.status = 404 && code.all (· == "BlobNotFound") then .error .notFound
    else
      .error (failure op activity
        (match code with
          | some c => statusText reply.status ++ " " ++ c
          | none => statusText reply.status))

variable (redirects : Redirects)

/-- Sends a request and takes the reply, if the service accepts it. One whose headers cannot be
written is not sent. -/
def send (op : ObjectOp) (activity : String) (r : Request) : Exchanging ObjectError Reply := do
  if !r.headers.all isWritableHeader then throw (failure op activity "builder error")
  accepted op activity r (← redirects.deliver r)

/-- Asks for the properties of a blob. -/
def properties (t : Target) (now : Instant) (key : String) (op : ObjectOp) :
    Exchanging ObjectError ObjectInfo := do
  let url ← requestUrl t now key .read
  let reply ← send redirects op "failed to get blob properties" (request "HEAD" url)
  return {
    path := key
    size := (reply.header? "content-length").bind fun s =>
      if s.isEmpty then none else readDigits s.toList
    lastModified := (reply.header? "last-modified").bind Instant.parseMailDate }

/-- The headers with a value that may be missing. -/
def optionalHeader (name : String) (value : Option String) : Headers :=
  match value with
  | some v => [(name, v)]
  | none => []

/-- Uploads a payload by one request. -/
def putBlob (o : Options) (url : Url) (disposition : Option String) (body : ByteArray) :
    Exchanging ObjectError Unit := do
  discard <| send redirects .putObject "failed to upload blob" (request "PUT" url
    (("x-ms-blob-type", "BlockBlob") :: optionalHeader "content-type" o.contentType
      ++ optionalHeader "x-ms-blob-content-disposition" disposition)
    body)

/-- The name of the block at a position, the first one at zero. -/
def blockId (n : Nat) : String := Base64.encode (utf8Text (padded 5 n))

/-- Stages the pieces of a payload as blocks, of which `ids` are there already, and gives the
names of all. An empty piece is no block. -/
def stage (url : Url) (ids : List String) : List Piece → Exchanging ObjectError (List String)
  | [] => return ids
  | .error e :: _ => throw e
  | .ok body :: rest => do
    if body.isEmpty then return ids
    if maxBlocks ≤ ids.length then
      throw (failure .putObject "failed to upload blob"
        ("payload exceeds " ++ Nat.repr maxBlocks ++ " blocks"))
    let id := blockId ids.length
    discard <| send redirects .putObject "failed to stage block"
      (request "PUT" (url.withPairs [("comp", "block"), ("blockid", id)]) [] body)
    stage url (ids ++ [id]) rest

/-- The document that commits blocks. -/
def blockList (ids : List String) : String :=
  "<?xml version=\"1.0\" encoding=\"utf-8\"?><BlockList>"
    ++ String.join (ids.map fun id => "<Latest>" ++ id ++ "</Latest>") ++ "</BlockList>"

/-- Commits staged blocks as the contents of a blob. -/
def commit (o : Options) (url : Url) (disposition : Option String) (ids : List String) :
    Exchanging ObjectError Unit := do
  discard <| send redirects .putObject "failed to commit block list"
    (request "PUT" (url.withPairs [("comp", "blocklist")])
      (optionalHeader "x-ms-blob-content-type" o.contentType
        ++ optionalHeader "x-ms-blob-content-disposition" disposition)
      (blockList ids).toUTF8)

/-- Uploads the pieces of a payload: a single one by one request, several as blocks. -/
def upload (o : Options) (t : Target) (now : Instant) (key : String)
    (disposition : Option String) : List Piece → Exchanging ObjectError Unit
  | [.ok body] => do
    putBlob redirects o (← requestUrl t now key .createWrite) disposition body
  | .error e :: _ => throw e
  | pieces => do
    let url ← requestUrl t now key .createWrite
    commit redirects o url disposition (← stage redirects url [] pieces)

/-! ### What a storage does -/

namespace Storage

variable (s : Storage) (now : Instant) (ctx : Context)

def healthCheck : Exchanging ObjectError Unit := do
  let t ← s.target ctx .healthCheck
  let url := (← t.containerUrl).withPairs
    [("restype", "container"), ("comp", "list"), ("maxresults", "1")]
  let url ← signUrl t (grantFor now .list (.container t.container) linkBounds.min none) url
  discard <| send s.redirects .healthCheck "failed to list blobs" (request "GET" url)

/-- Checks a container that is configured with an account. -/
def connect (o : Options) : Exchanging ObjectError Storage := do
  let s ← ofOptions o
  if o.account.isSome then s.healthCheck now {}
  return s

def put (path : String) (p : Payload) : Exchanging ObjectError Unit := do
  let t ← s.target ctx .putObject
  upload s.redirects s.options t now (ctx.objectKey path) (s.options.uploadDisposition path)
    (p.read s.options.blockSize)

def delete (path : String) : Exchanging ObjectError Unit := do
  let t ← s.target ctx .deleteObject
  let url ← requestUrl t now (ctx.objectKey path) .delete
  discard <| send s.redirects .deleteObject "failed to delete blob" (request "DELETE" url)

def stat (path : String) : Exchanging ObjectError ObjectInfo := do
  let t ← s.target ctx .statObject
  properties s.redirects t now (ctx.objectKey path) .statObject

/-- A link to download the object at a path, which must be there. -/
def downloadLink (path : String) (filename : Option String) (lifetime : Span) :
    Exchanging ObjectError Link := do
  let t ← s.target ctx .getRequest
  let key := ctx.objectKey path
  try discard <| properties s.redirects t now key .getRequest
  catch
    | .backend _ _ detail => throw (failure .getRequest "failed to check preconditions" detail)
    | e => throw e
  blobLink t now key .get lifetime (filename.map fun n => "attachment; filename=\"" ++ n ++ "\"")

/-- A link to upload an object to a path. -/
def uploadLink (path : String) (lifetime : Span) : Except ObjectError Link := do
  let t ← s.target ctx .putRequest
  let link ← blobLink t now (ctx.objectKey path) .put lifetime none
  pure { link with
    header := optionalHeader "x-ms-blob-content-disposition" (s.options.uploadDisposition path)
      ++ [("x-ms-blob-type", "BlockBlob")] }

/-- A link to delete the object at a path. -/
def deletionLink (path : String) (lifetime : Span) : Except ObjectError Link := do
  let t ← s.target ctx .deleteRequest
  blobLink t now (ctx.objectKey path) .delete lifetime none

end Storage

end Fleet.Azure
