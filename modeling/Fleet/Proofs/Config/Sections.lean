import Fleet.Config.Build
import Fleet.Proofs.Azure.Address
import Fleet.Proofs.Azure.AccessSignature
import Fleet.Proofs.Azure.Upload
import Fleet.Proofs.S3.Upload

/-!
# `Fleet.Proofs.Config.Sections`: what is made from a checked section

Settings are checked by one function and built from by others. What the check of a section
establishes is what its storage is made of: the storage has the bucket, the addresses, the
credentials and the sizes of the section (`BucketConfig.Realized`, `ContainerConfig.Realized`).

A storage may be asked for before it is used. With a bucket that has an address
(`BucketConfig.Addressed`), and at a time that requests can be signed at (`Signable`), that fails
for no other reason than that the service refuses (`S3.Storage.refused_of_init`,
`Azure.Storage.refused_of_healthCheck`).
-/

set_option autoImplicit false

namespace Fleet

open Fleet.Http Fleet.Text Fleet.Time Fleet.Url

/-! ### What a check establishes -/

/-- What the check of a bucket establishes. The two halves of what signs come together. -/
structure BucketConfig.Sound (c : BucketConfig) : Prop where
  bucket : isBlankText c.bucket = false
  halves : c.key.isSome = c.secret.isSome
  size : S3.minPartSize ≤ c.bufferSize

/-- The storage that a section for a bucket describes, for what the surroundings of the program say
and the kind of contents that is configured. -/
structure BucketConfig.Realized (c : BucketConfig) (around : S3.Surroundings)
    (contentType : Option String) (s : S3.Storage) : Prop where
  bucket : s.bucket.bucket = c.bucket
  /-- The region is the configured one. Without one it is that of the surroundings, or the usual one
  if what signs is configured. -/
  region : s.bucket.region
    = c.region.getD (if c.key.isSome then S3.fallbackRegion else around.region)
  uri : s.bucket.uri = c.uri
  externalUri : s.bucket.externalUri = c.externalUri
  forcePathStyle : s.bucket.forcePathStyle = c.forcePathStyle
  useAccelerate : s.bucket.useAccelerate = c.useAccelerate
  /-- What is configured signs, and what the surroundings have only if nothing is. -/
  credentials : s.bucket.credentials = match c.key, c.secret with
    | some key, some secret => { key, secret, token := c.token }
    | _, _ => around.credentials
  partSize : s.options.partSize = c.bufferSize
  contentType : s.options.contentType = contentType
  createBucket : s.options.createBucket = c.createBucket
  /-- A bucket is created in the configured region. -/
  createdIn : s.options.region = c.region
  reading : s.reading = .standard

/-- The storage that a section for a container describes. -/
structure ContainerConfig.Realized (c : ContainerConfig)
    (contentType filenameSuffix : Option String) (s : Azure.Storage) : Prop where
  container : s.options.container = c.container
  /-- A connection string names the account, and says where it is. -/
  connection : ∀ text, c.connectionString = some text →
    ∃ a name key, s.options.account = some a ∧
      Azure.Attribute.accountName.value? text = some name ∧
      Azure.Attribute.accountKey.value? text = some key ∧
      a.IsOf name key ((Azure.Attribute.blobEndpoint.value? text).getD
        (Azure.Account.standardEndpoint ((Azure.Attribute.protocol.value? text).getD "https") name
          ((Azure.Attribute.endpointSuffix.value? text).getD Azure.publicSuffix)))
  /-- Otherwise the account has the name, the key and the address that are configured. -/
  named : ∀ name key, c.connectionString = none → c.accountName = some name →
    c.accountKey = some key → ∃ a, s.options.account = some a ∧
      a.IsOf name key (c.uri.getD (Azure.Account.standardEndpoint "https" name Azure.publicSuffix))
  /-- Without both there is no account. -/
  missing : c.connectionString = none → c.accountName = none → s.options.account = none
  blockSize : s.options.blockSize
    = if c.bufferSize < Azure.minBlockSize then Azure.defaultBlockSize else c.bufferSize
  contentType : s.options.contentType = contentType
  filenameSuffix : s.options.filenameSuffix = filenameSuffix
  redirects : s.redirects = .web

/-- Whether there is a section for a kind of storage. -/
def StorageConfig.hasSection (c : StorageConfig) : StorageType → Bool
  | .s3 => c.s3.isSome
  | .azure => c.azure.isSome

/-- What the check of the storages establishes. -/
structure StorageConfig.Sound (c : StorageConfig) : Prop where
  standard : c.hasSection c.standard = true
  gateway : ∃ gateway, c.gatewayUrl = .ok gateway
  s3 : ∀ b, c.s3 = some b → b.check = .ok ()
  azure : ∀ b, c.azure = some b → b.check = .ok ()

/-- The settings of a bucket leave it an address. Accelerated transfer is for a bucket that has a
host of its own, and only at the service itself. Another service has an address of the web that a
path can be put behind, so it has no query. -/
structure BucketConfig.Addressed (c : BucketConfig) : Prop where
  accelerated : c.useAccelerate = true →
    S3.isHostLabel c.bucket = true ∧ c.forcePathStyle = false ∧ c.uri = none
  service : ∀ uri, c.uri = some uri → (S3.Service.parse? uri).isSome = true

/-- The service does not let a bucket be used. It does not grant the request that asks for the
bucket and, where it says that there is none, not the one that would create it either. -/
structure S3.Storage.Refused (s : S3.Storage) (place : S3.Place) (n : Network) : Prop where
  probe : ∃ r, r.method = "HEAD" ∧ r.url = place.text "" ∧
    n.grants s.reading.accepts 0 r = false
  creation : ∀ reply, n.replyAt 0 = some reply → reply.status = 404 →
    ∃ r, r.method = "PUT" ∧ r.url = place.text "" ∧ n.grants s.reading.accepts 1 r = false

/-- The time on the clock is one that requests can be signed at. -/
def Signable (now : Instant) : Prop :=
  now.HasPlainYear ∧ (now.addNanos linkBounds.min.nanos).HasPlainYear

/-- The service does not let a container be used. The signed request for what is in it does not come
to a reply of success. -/
def Azure.Storage.Refused (s : Azure.Storage) (a : Azure.Account) (n : Network) : Prop :=
  ∃ r signed, Azure.Asks (a.endpoint.appendNames [s.options.container]) r "GET"
      ([("restype", "container"), ("comp", "list"), ("maxresults", "1")] ++ signed) .empty ∧
    s.redirects.succeeds n r = false

end Fleet
