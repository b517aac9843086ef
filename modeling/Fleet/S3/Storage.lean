import Fleet.Context
import Fleet.Http.Exchange
import Fleet.Http.Status
import Fleet.Objects.Payload
import Fleet.S3.SignedLink
import Fleet.Text.Markup
import Fleet.Text.Utf8
import Fleet.Time.MailDate

/-!
# `Fleet.S3.Storage`: objects in a bucket

An object is stored under its key in a bucket. A payload that ends within one part is uploaded
by one request. A longer one is uploaded part by part and then completed; when anything fails
on the way, the upload is aborted, so that no parts are left behind.
-/

set_option autoImplicit false

namespace Fleet.S3

open Fleet.Http Fleet.Text Fleet.Time Fleet.Url

/-- The size of a part unless another one is configured. -/
def defaultPartSize : Nat := 10485760

/-- The smallest size of a part. -/
def minPartSize : Nat := 5242880

/-- The greatest number of parts of an upload. -/
def maxParts : Nat := 10000

structure Options where
  bucket : String
  /-- The region; without one, that of the surroundings. -/
  region : Option String := none
  /-- The address of the service that requests go to. -/
  uri : Option String := none
  /-- The address of the service that links show. -/
  externalUri : Option String := none
  /-- What requests are signed with; without it, that of the surroundings. -/
  credentials : Option Credentials := none
  /-- Whether the name of the bucket always stands in the path. -/
  forcePathStyle : Bool := false
  useAccelerate : Bool := false
  bufferSize : Nat := defaultPartSize
  contentType : Option String := none
  createBucket : Bool := false
deriving Inhabited

/-- The size of a part: the configured one, unless it is too small. -/
def Options.partSize (o : Options) : Nat := Nat.max o.bufferSize minPartSize

/-- What the surroundings of the program say about the service. -/
structure Surroundings where
  credentials : Credentials
  region : String
deriving Inhabited

/-! ### Replies -/

/-- How the replies of the service are read. -/
structure Reading where
  /-- Whether a reply grants a request. -/
  accepts : Request → Reply → Bool
  /-- The name of the upload that a reply says is begun. -/
  uploadId? : Reply → Option String
  /-- A reply that grants a request has a status that says so. -/
  isSuccess_of_accepts : ∀ r reply, accepts r reply = true → reply.isSuccess = true

namespace Reading

/-- The marks of the document in a reply. -/
def document? (reply : Reply) : Option (List Mark) :=
  (decodeUtf8? reply.body.toList).bind Markup.marks?

/-- The root of the document that grants a request. An upload is begun and completed by posting,
and only the latter says anything in its body. -/
def grantingRoot? (r : Request) : Option String :=
  if r.method ≠ "POST" then none
  else if r.body.isEmpty then some "InitiateMultipartUploadResult"
  else some "CompleteMultipartUploadResult"

/-- The service grants a request by its status. It may take that back in the document of the reply,
and must confirm there that an upload is begun or completed. -/
def grants (r : Request) (reply : Reply) : Bool :=
  let root := (document? reply).bind rootName?
  reply.isSuccess &&
    (match grantingRoot? r with
      | some name => root == some name
      | none => root != some "Error")

/-- A request is granted by a reply of success only. The converse fails: a reply of success may hold
a document that tells of an error. -/
theorem isSuccess_of_grants {r : Request} {reply : Reply} (h : grants r reply = true) :
    reply.isSuccess = true :=
  (Bool.and_eq_true_iff.1 h).1

/-- The usual reading. -/
def standard : Reading where
  accepts := grants
  uploadId? reply := (document? reply).bind (childText? "UploadId" 0)
  isSuccess_of_accepts _ _ := isSuccess_of_grants

instance : Inhabited Reading := ⟨standard⟩

end Reading

/-! ### Storages -/

structure Storage where
  options : Options
  /-- The bucket that is used unless a request brings settings. -/
  bucket : Target
  /-- How the replies of the service are read. -/
  reading : Reading := .standard
deriving Inhabited

namespace Storage

/-- The storage with the given options, whose bucket must not be blank. -/
def ofOptions (around : Surroundings) (o : Options) : Except ObjectError Storage :=
  if isBlankText o.bucket then .error (.invalidSettings "bucket must be set")
  else
    let (credentials, region) :=
      match o.credentials with
      | some credentials => (credentials, fallbackRegion)
      | none => (around.credentials, around.region)
    .ok
      { options := o
        bucket :=
          { bucket := o.bucket
            region := o.region.getD region
            credentials
            uri := o.uri
            externalUri := o.externalUri
            forcePathStyle := o.forcePathStyle
            useAccelerate := o.useAccelerate } }

/-- The target of a request: that of its settings, or the configured one. -/
def target (s : Storage) (ctx : Context) : Except ObjectError Target :=
  match ctx.settings with
  | some settings => Target.ofSettings settings
  | none => .ok s.bucket

end Storage

/-! ### Requests -/

/-- Sends a request and takes the reply, if it grants the request. One whose headers cannot be
written is not sent. -/
def send (reading : Reading) (op : ObjectOp) (r : Request) : Exchanging ObjectError Reply := do
  if !r.headers.all isWritableHeader then throw (failure op "failed to construct request")
  match ← ask r with
  | none => throw (failure op ("no reply from " ++ r.url))
  | some reply =>
    if reading.accepts r reply then return reply
    if reply.status = 404 then throw .notFound
    throw (failure op (statusText reply.status))

/-- A request about an object or a bucket. -/
def request (method : String) (place : Place) (query : String) (headers : Headers := [])
    (body : ByteArray := .empty) : Request :=
  { method, url := place.text query, headers, body }

/-- The header that says what a body is. -/
def contentHeader (kind : String) : Headers := [("content-type", kind)]

/-- What a body is unless something else is configured. -/
def plainBytes : String := "application/octet-stream"

/-! ### Uploads in parts -/

/-- A part that was uploaded: its number and the tag that the service gave it. -/
structure Part where
  /-- The number, from one on. -/
  number : Nat
  tag : Option String
deriving DecidableEq, Repr, Inhabited

/-- What the document that completes an upload says about the tag of a part. -/
def tagText : Option String → String
  | some tag => "<ETag>" ++ Markup.escape tag ++ "</ETag>"
  | none => ""

/-- What the document that completes an upload says about a part. -/
def partText (p : Part) : String :=
  "<Part>" ++ tagText p.tag ++ "<PartNumber>" ++ Nat.repr p.number ++ "</PartNumber></Part>"

/-- The document that completes an upload. -/
def partList (parts : List Part) : String :=
  "<CompleteMultipartUpload xmlns=\"http://s3.amazonaws.com/doc/2006-03-01/\">"
    ++ String.join (parts.map partText) ++ "</CompleteMultipartUpload>"

variable (reading : Reading)

/-- Begins an upload in parts and gives its name. -/
def beginParts (o : Options) (place : Place) : Exchanging ObjectError String := do
  let headers := match o.contentType with
    | some kind => contentHeader kind
    | none => []
  let reply ← send reading .putObject (request "POST" place "uploads" headers)
  match reading.uploadId? reply with
  | some id => return id
  | none => throw (failure .putObject "multipart upload id missing")

/-- Uploads the pieces of a payload as parts, of which `parts` are there already, and gives
all. An empty piece is no part. -/
def uploadParts (place : Place) (id : String) (parts : List Part) :
    List Piece → Exchanging ObjectError (List Part)
  | [] => return parts
  | .error e :: _ => throw e
  | .ok body :: rest => do
    if body.isEmpty then return parts
    let number := parts.length + 1
    if maxParts < number then
      throw (failure .putObject ("payload exceeds " ++ Nat.repr maxParts ++ " multipart parts"))
    let query := writePairs
      [("x-id", "UploadPart"), ("partNumber", Nat.repr number), ("uploadId", id)]
    let reply ← send reading .putObject
      (request "PUT" place query (contentHeader plainBytes) body)
    uploadParts place id (parts ++ [{ number, tag := reply.header? "etag" }]) rest

def completeParts (place : Place) (id : String) (parts : List Part) :
    Exchanging ObjectError Unit := do
  discard <| send reading .putObject (request "POST" place (writePairs [("uploadId", id)])
    (contentHeader "application/xml") (partList parts).toUTF8)

/-- Aborts an upload because of an error and fails with that error, or with both when aborting
fails too. -/
def abortParts (place : Place) (id : String) (cause : ObjectError) :
    Exchanging ObjectError Unit := do
  let query := writePairs [("x-id", "AbortMultipartUpload"), ("uploadId", id)]
  try discard <| send reading .putObject (request "DELETE" place query)
  catch e =>
    throw (failure .putObject
      (cause.message ++ "; aborting multipart upload " ++ id ++ " failed: " ++ e.message))
  throw cause

/-- Uploads the pieces of a payload in parts. -/
def putParts (o : Options) (place : Place) (pieces : List Piece) :
    Exchanging ObjectError Unit := do
  let id ← beginParts reading o place
  try completeParts reading place id (← uploadParts reading place id [] pieces)
  catch e => abortParts reading place id e

/-- Uploads the pieces of a payload: a single one by one request, several in parts. -/
def upload (o : Options) (t : Target) (key : String) : List Piece → Exchanging ObjectError Unit
  | [.ok body] => do
    let place ← t.objectPlace .putObject key
    discard <| send reading .putObject (request "PUT" place "x-id=PutObject"
      (contentHeader (o.contentType.getD plainBytes)) body)
  | .error e :: _ => throw e
  | pieces => do putParts reading o (← t.objectPlace .putObject key) pieces

/-! ### What a storage does -/

namespace Storage

variable (s : Storage) (now : Instant) (ctx : Context)

def healthCheck : Exchanging ObjectError Unit := do
  let t ← s.target ctx
  discard <| send s.reading .healthCheck (request "HEAD" (← t.bucketPlace .healthCheck) "")

/-- What a request to create the bucket says about its region. -/
def bucketDocument : String :=
  match s.options.region.filter (· ≠ fallbackRegion) with
  | none => ""
  | some region =>
    "<CreateBucketConfiguration xmlns=\"http://s3.amazonaws.com/doc/2006-03-01/\">"
      ++ "<LocationConstraint>" ++ Markup.escape region
      ++ "</LocationConstraint></CreateBucketConfiguration>"

/-- Creates the bucket unless it is there. -/
def init : Exchanging ObjectError Unit := do
  let place ← s.bucket.bucketPlace .healthCheck
  let probe := request "HEAD" place ""
  match ← ask probe with
  | none => throw (failure .healthCheck ("no reply from " ++ place.text ""))
  | some reply =>
    if s.reading.accepts probe reply then return
    if reply.status = 403 then
      throw (failure .healthCheck
        ("insufficient permissions to access bucket " ++ s.bucket.bucket))
    if reply.status ≠ 404 then throw (failure .healthCheck (statusText reply.status))
    discard <| send s.reading .healthCheck
      (request "PUT" place "" (contentHeader "application/xml") s.bucketDocument.toUTF8)

/-- The storage with the given options, its bucket created if that is configured. -/
def connect (around : Surroundings) (o : Options) : Exchanging ObjectError Storage := do
  let s ← ofOptions around o
  if o.createBucket then s.init
  return s

def put (path : String) (p : Payload) : Exchanging ObjectError Unit := do
  upload s.reading s.options (← s.target ctx) (ctx.objectKey path) (p.read s.options.partSize)

def delete (path : String) : Exchanging ObjectError Unit := do
  let t ← s.target ctx
  let place ← t.objectPlace .deleteObject (ctx.objectKey path)
  discard <| send s.reading .deleteObject (request "DELETE" place "x-id=DeleteObject"
    [("x-amz-request-payer", "requester")])

/-- The time of the last change that a reply tells. -/
def lastModified (reply : Reply) : Except ObjectError (Option Instant) :=
  match reply.header? "last-modified" with
  | none => .ok none
  | some text =>
    match Instant.parseWebDate text with
    | some t => .ok (some t)
    | none => .error (failure .statObject "the time of the last change cannot be read")

def stat (path : String) : Exchanging ObjectError ObjectInfo := do
  let t ← s.target ctx
  let key := ctx.objectKey path
  let reply ← send s.reading .statObject (request "HEAD" (← t.objectPlace .statObject key) "")
  return {
    path := key
    size := some (((reply.header? "content-length").bind fun n => readDigits n.toList).getD 0)
    lastModified := ← lastModified reply }

/-- A link to download the object at a path under a file name. -/
def downloadLink (path : String) (filename : Option String) (lifetime : Span) :
    Except ObjectError Link := do
  let disposition := filename.map fun n =>
    ("response-content-disposition", "attachment; filename=\"" ++ n ++ "\"")
  let kind := s.options.contentType.map fun k => ("response-content-type", k)
  objectLink (← s.target ctx) now .getRequest .get (ctx.objectKey path) lifetime
    (("x-id", "GetObject") :: disposition.toList ++ kind.toList)

/-- A link to upload an object to a path. -/
def uploadLink (path : String) (lifetime : Span) : Except ObjectError Link := do
  objectLink (← s.target ctx) now .putRequest .put (ctx.objectKey path) lifetime
    [("x-id", "PutObject")]

/-- A link to delete the object at a path. -/
def deletionLink (path : String) (lifetime : Span) : Except ObjectError Link := do
  objectLink (← s.target ctx) now .deleteRequest .delete (ctx.objectKey path) lifetime
    [("x-id", "DeleteObject")]

end Storage

end Fleet.S3
