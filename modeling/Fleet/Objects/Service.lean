import Fleet.Azure.Storage
import Fleet.Model.World
import Fleet.Objects.Memory
import Fleet.S3.Storage
import Fleet.Url.Rebase

/-!
# `Fleet.Objects.Service`: one way to ask every object storage

An `ObjectCall` is a request to an object storage, and `ObjectCall.Answer` says what answers
it. A `Service` is a storage of a table, in a bucket or of blobs, or a switch that hands each
request on to one of two services and may rebase the links that come back onto the address of
a gateway.
-/

set_option autoImplicit false

namespace Fleet

open Fleet.Http Fleet.Time

/-- A request to an object storage. -/
inductive ObjectCall where
  | healthCheck
  | put (path : String) (payload : Payload)
  | delete (path : String)
  | stat (path : String)
  | downloadLink (path : String) (filename : Option String) (lifetime : Span)
  | uploadLink (path : String) (lifetime : Span)
  | deletionLink (path : String) (lifetime : Span)

/-- What answers a request to an object storage. -/
abbrev ObjectCall.Answer : ObjectCall → Type
  | .healthCheck => Unit
  | .put .. => Unit
  | .delete _ => Unit
  | .stat _ => ObjectInfo
  | .downloadLink .. => Link
  | .uploadLink .. => Link
  | .deletionLink .. => Link

/-- An object storage. -/
inductive Service where
  | memory (objects : MemoryObjects)
  | bucket (storage : S3.Storage)
  | blobs (storage : Azure.Storage)
  | missing
  /-- A switch between two storages, one of them for requests without settings. -/
  | switch (standard : StorageType) (s3 azure : Service) (gateway : Option Url)
deriving Inhabited

namespace MemoryObjects

def run (now : Instant) (ctx : Context) (s : MemoryObjects) :
    (c : ObjectCall) → Except ObjectError c.Answer × MemoryObjects
  | .healthCheck => (.ok (), s)
  | .put path payload => s.put now ctx path payload
  | .delete path => s.delete ctx path
  | .stat path => (s.stat ctx path, s)
  | .downloadLink path filename lifetime => (sign now ctx .get path filename lifetime, s)
  | .uploadLink path lifetime => (sign now ctx .put path none lifetime, s)
  | .deletionLink path lifetime => (sign now ctx .delete path none lifetime, s)

end MemoryObjects

/-- Answers a request by a storage in a bucket. -/
def S3.Storage.run (now : Instant) (ctx : Context) (s : S3.Storage) :
    (c : ObjectCall) → Exchanging ObjectError c.Answer
  | .healthCheck => s.healthCheck ctx
  | .put path payload => s.put ctx path payload
  | .delete path => s.delete ctx path
  | .stat path => s.stat ctx path
  | .downloadLink path filename lifetime => s.downloadLink now ctx path filename lifetime
  | .uploadLink path lifetime => s.uploadLink now ctx path lifetime
  | .deletionLink path lifetime => s.deletionLink now ctx path lifetime

/-- Answers a request by a storage of blobs. -/
def Azure.Storage.run (now : Instant) (ctx : Context) (s : Azure.Storage) :
    (c : ObjectCall) → Exchanging ObjectError c.Answer
  | .healthCheck => s.healthCheck now ctx
  | .put path payload => s.put now ctx path payload
  | .delete path => s.delete now ctx path
  | .stat path => s.stat now ctx path
  | .downloadLink path filename lifetime => s.downloadLink now ctx path filename lifetime
  | .uploadLink path lifetime => s.uploadLink now ctx path lifetime
  | .deletionLink path lifetime => s.deletionLink now ctx path lifetime

/-- The link that leads through a gateway, if there is one. -/
def Link.rebase (gateway : Option Url) (link : Link) : Except ObjectError Link :=
  match gateway with
  | none => .ok link
  | some g =>
    match Url.parse? link.uri with
    | some url => .ok { link with uri := (url.rebase g).text }
    | none => .error (.invalidPath "signed link is not a url: no address")

/-- The answer to a request with its link, if it is one, rebased. -/
def ObjectCall.rebase (gateway : Option Url) :
    (c : ObjectCall) → c.Answer → Except ObjectError c.Answer
  | .healthCheck, answer => .ok answer
  | .put .., answer => .ok answer
  | .delete _, answer => .ok answer
  | .stat _, answer => .ok answer
  | .downloadLink .., link => link.rebase gateway
  | .uploadLink .., link => link.rebase gateway
  | .deletionLink .., link => link.rebase gateway

namespace Service

/-- Whether there is a storage at all. -/
def isMissing : Service → Bool
  | .missing => true
  | _ => false

/-- The switch with a service for a kind of storage, in place of the one that it has. -/
def withBackend (s : Service) (kind : StorageType) (backend : Service) : Service :=
  match s, kind with
  | .switch standard _ azure gateway, .s3 => .switch standard backend azure gateway
  | .switch standard s3 _ gateway, .azure => .switch standard s3 backend gateway
  | s, _ => s

/-- The switch that has a service for requests without settings only. -/
def switchTo (standard : StorageType) (backend : Service) : Service :=
  (switch standard .missing .missing none).withBackend standard backend

/-- The switch with links that lead through a gateway. -/
def withGateway (s : Service) (gateway : Url) : Service :=
  match s with
  | .switch standard s3 azure _ => .switch standard s3 azure (some gateway)
  | s => s

/-- The kind of storage that a request is for. -/
def kindFor (standard : StorageType) (ctx : Context) : StorageType :=
  match ctx.settings with
  | some settings => settings.kind
  | none => standard

/-- The error of a request for a kind of storage that is not there. -/
def noStorage (kind : StorageType) : ObjectError :=
  .invalidProvider ("no " ++ kind.token ++ " storage configured")

def run (now : Instant) (ctx : Context) (c : ObjectCall) :
    Service → Network → Except ObjectError c.Answer × Service × Network
  | .memory objects, n =>
    let (answer, objects) := objects.run now ctx c
    (answer, .memory objects, n)
  | .bucket storage, n =>
    let (answer, n) := storage.run now ctx c n
    (answer, .bucket storage, n)
  | .blobs storage, n =>
    let (answer, n) := storage.run now ctx c n
    (answer, .blobs storage, n)
  | .missing, n => (.error (noStorage (kindFor .s3 ctx)), .missing, n)
  | .switch standard s3 azure gateway, n =>
    match kindFor standard ctx with
    | .s3 =>
      if s3.isMissing then (.error (noStorage .s3), .switch standard s3 azure gateway, n)
      else
        let (answer, s3, n) := s3.run now ctx c n
        (answer.bind (c.rebase gateway), .switch standard s3 azure gateway, n)
    | .azure =>
      if azure.isMissing then (.error (noStorage .azure), .switch standard s3 azure gateway, n)
      else
        let (answer, azure, n) := azure.run now ctx c n
        (answer.bind (c.rebase gateway), .switch standard s3 azure gateway, n)

end Service

/-- An object storage and the network to the services behind it. -/
structure ObjectSite where
  service : Service
  network : Network := {}
deriving Inhabited

namespace ObjectSite

def run (now : Instant) (ctx : Context) (c : ObjectCall) (o : ObjectSite) :
    Except ObjectError c.Answer × ObjectSite :=
  let (answer, service, network) := o.service.run now ctx c o.network
  (answer, { service, network })

end ObjectSite

instance : LinkIssuer ObjectSite where
  download now ctx path filename lifetime o :=
    o.run now ctx (.downloadLink path (some filename) lifetime)

end Fleet
