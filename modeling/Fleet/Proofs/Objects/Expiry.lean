import Fleet.Proofs.Azure.AccessSignature
import Fleet.Proofs.Azure.Address
import Fleet.Proofs.Objects.Links
import Fleet.Proofs.Url.Form
import Fleet.S3.Storage

/-!
# `Fleet.Proofs.Objects.Expiry`: until when links can be used

A link tells when it expires, and its address carries the time for which it was signed. The
lifetime is brought between its bounds and cut to whole seconds once (`goodFor`), and the link tells
the time now plus this lifetime. A blob service is given both ends of the window, each cut to whole
seconds in UTC. As the lifetime has whole seconds, the two cuts are alike: the window is as long as
the lifetime, and ends no later than the link tells and less than a second before (`AgreesWith`).
The signer of a bucket is given the start and the lifetime as they are (`S3.Presigns`).
`expiry_agrees` says so for all links of both storages.
-/

set_option autoImplicit false

namespace Fleet

open Fleet.Http Fleet.Text Fleet.Time Fleet.Url

/-- For how many seconds a link is good: the span that was asked for, brought between a minute and
seven days and cut to whole seconds. -/
def goodFor (requested : Span) : Nat :=
  max (60 * 1000000000) (min (604800 * 1000000000) requested.nanos) / 1000000000

/-- No link is good for less than a minute or for more than a week. -/
theorem goodFor_bounds (requested : Span) :
    60 ≤ goodFor requested ∧ goodFor requested ≤ 604800 := by
  rw [goodFor]
  omega

/-- The lifetime of a link is a number of whole seconds once it is kept to its bounds. -/
theorem clamp_eq (requested : Span) : linkBounds.clamp requested = .ofSeconds (goodFor requested) :=
  rfl

/-- The end of a link lies those seconds behind now, to the nanosecond, so its fraction is that of
now. -/
theorem addNanos_clamp (now : Instant) (requested : Span) :
    now.addNanos (linkBounds.clamp requested).nanos = now.addSeconds (goodFor requested) := by
  rw [clamp_eq, Span.ofSeconds, Instant.addSeconds, nanosPerSecond, Int.natCast_mul]
  rfl

/-- Whether the address of a link is signed for a window, which its query tells once. -/
def SignedFor (link : Link) (start expiry : Instant) : Prop :=
  ∃ url : Url, link.uri = url.text ∧ (url.pairs.map (·.1)).Nodup ∧
    (url.pairs.lookup "st").bind Instant.parse = some start ∧
    (url.pairs.lookup "se").bind Instant.parse = some expiry

/-- Whether the expiry that a link tells agrees with the window that its address is signed for. -/
structure AgreesWith (link : Link) (now : Instant) (seconds : Nat) : Prop where
  expire : link.expire = now.addSeconds seconds
  window : ∃ start expiry, SignedFor link start expiry ∧
    expiry.nanos - start.nanos = seconds * nanosPerSecond ∧ start.nanos ≤ now.nanos ∧
    0 ≤ link.expire.nanos - expiry.nanos ∧ link.expire.nanos - expiry.nanos < nanosPerSecond

/-! ### Blobs -/

namespace Azure

variable {t : Target} {now : Instant} {key path : String} {method : LinkMethod} {lifetime : Span}
  {disposition : Option String} {link : Link} {s : Storage} {ctx : Context} {n : Nat}

/-- The window that is signed for a link begins now. -/
theorem linkGrant_start : (t.linkGrant now key method lifetime disposition).start = now := rfl

/-- The window that is signed for a link ends when the link does. -/
theorem linkGrant_expiry :
    (t.linkGrant now key method lifetime disposition).expiry = now.addSeconds (goodFor lifetime) :=
  addNanos_clamp now lifetime

/-- A link to a blob says, in its pairs and beside them, that it begins now and ends with its
lifetime. -/
theorem agrees_of_blobLink (h : t.account.Built)
    (hlink : blobLink t now key method lifetime disposition = .ok link) :
    AgreesWith link now (goodFor lifetime) := by
  obtain ⟨url, hurl, pairs, hpairs, hshape⟩ := Target.blobLink_eq_ok_iff.1 hlink
  obtain ⟨hstart, hexpiry, hpairs⟩ := Grant.pairs_eq_ok_iff.1 hpairs
  rw [linkGrant_start] at hstart hpairs
  rw [linkGrant_expiry] at hexpiry hpairs
  -- The address of the blob has no pairs of its own.
  have hread : (url.withPairs pairs).pairs = pairs := by
    rw [Url.pairs, withPairs, Target.query_of_blobUrl h hurl]
    exact parsePairs_renderPairs pairs
  have hsigned : SignedFor link now.wholeSecond
      (now.addSeconds (goodFor lifetime)).wholeSecond := by
    refine ⟨url.withPairs pairs, by rw [← hshape], ?_, ?_, ?_⟩ <;> rw [hread, hpairs]
    · exact Grant.nodup_pairsIn ..
    · rw [Grant.lookup_start, Option.bind_some, Instant.parse_wholeSecondText hstart]
    · rw [Grant.lookup_expiry, Option.bind_some, Instant.parse_wholeSecondText hexpiry]
  have hexpire : link.expire = now.addSeconds (goodFor lifetime) := by
    rw [← hshape]
    exact addNanos_clamp now lifetime
  have hnow := now.wholeSecond_bounds
  have hend := (now.addSeconds (goodFor lifetime)).wholeSecond_bounds
  have hbetween := now.wholeSecond_addSeconds (goodFor lifetime)
  refine ⟨hexpire, _, _, hsigned, ?_, hnow.1, ?_, ?_⟩
  · omega
  · rw [hexpire]
    omega
  · rw [hexpire]
    omega

/-- A link to a blob is made if both ends of its window can be written. -/
theorem exists_blobLink (h : t.account.Built) (hnow : now.HasPlainYear)
    (hexpiry : (now.addSeconds (goodFor lifetime)).HasPlainYear) :
    ∃ link, blobLink t now key method lifetime disposition = .ok link := by
  obtain ⟨url, hurl⟩ := Target.blobUrl_ok h key
  have hpairs : (t.linkGrant now key method lifetime disposition).pairs t.account = .ok _ :=
    Grant.pairs_eq_ok_iff.2 ⟨hnow, by rwa [linkGrant_expiry], rfl⟩
  exact ⟨_, Target.blobLink_eq_ok_iff.2 ⟨url, hurl, _, hpairs, rfl⟩⟩

/-- Headers do not matter. -/
theorem agrees_withHeader (h : AgreesWith link now n) (header : List (String × String)) :
    AgreesWith { link with header } now n :=
  ⟨h.expire, h.window⟩

/-! ### Links of a storage of blobs -/

/-- The disposition of what is downloaded under a file name. -/
def attachment (filename : Option String) : Option String :=
  filename.map fun n => "attachment; filename=\"" ++ n ++ "\""

/-- A download link is what the blob is signed for, once the service has told that there is such a
blob. -/
theorem downloadLink_eq_ok_iff {filename : Option String} {n : Network} :
    (s.downloadLink now ctx path filename lifetime n).1 = .ok link ↔
      ∃ t, s.target ctx .getRequest = .ok t ∧
        (∃ info, (properties s.redirects t now (ctx.objectKey path) .getRequest n).1 = .ok info) ∧
        blobLink t now (ctx.objectKey path) .get lifetime (attachment filename) = .ok link := by
  cases ht : s.target ctx .getRequest with
  | error e =>
    rw [Storage.downloadLink, ht]
    constructor
    · intro h
      cases h
    · rintro ⟨_, h, -⟩
      cases h
  | ok t =>
    rw [downloadLink_answer path filename lifetime ht]
    -- The blob is looked up first; no link is made for one that is not found.
    cases hinfo : (properties s.redirects t now (ctx.objectKey path) .getRequest n).1 with
    | error e =>
      constructor
      · intro h
        cases h
      · rintro ⟨_, h, ⟨_, hfound⟩, -⟩
        cases h
        cases hinfo.symm.trans hfound
    | ok info =>
      constructor
      · exact fun h => ⟨t, rfl, ⟨info, hinfo⟩, h⟩
      · rintro ⟨_, h, -, hlink⟩
        cases h
        exact hlink

/-- An upload link is what the blob is signed for, with the headers that the client is to send
along. -/
theorem uploadLink_eq_ok_iff :
    s.uploadLink now ctx path lifetime = .ok link ↔
      ∃ t, s.target ctx .putRequest = .ok t ∧
        ∃ plain, blobLink t now (ctx.objectKey path) .put lifetime none = .ok plain ∧
          { plain with
            header := optionalHeader "x-ms-blob-content-disposition"
              (s.options.uploadDisposition path) ++ [("x-ms-blob-type", "BlockBlob")] } = link := by
  rw [Storage.uploadLink]
  refine bind_eq_ok_iff.trans (exists_congr fun t => and_congr_right fun _ => ?_)
  refine bind_eq_ok_iff.trans (exists_congr fun plain => and_congr_right fun _ => ?_)
  exact Iff.of_eq (Except.ok.injEq _ _)

/-- A deletion link is what the blob is signed for, and the service is not asked. -/
theorem deletionLink_eq_ok_iff :
    s.deletionLink now ctx path lifetime = .ok link ↔
      ∃ t, s.target ctx .deleteRequest = .ok t ∧
        blobLink t now (ctx.objectKey path) .delete lifetime none = .ok link :=
  bind_eq_ok_iff

/-- Whether the links of a storage agree with the windows that they are signed for, and are given as
long as the years of both ends have four digits. -/
structure LinksAgree (s : Storage) (now : Instant) (ctx : Context) (path : String)
    (lifetime : Span) : Prop where
  download : ∀ filename n link, (s.downloadLink now ctx path filename lifetime n).1 = .ok link →
    AgreesWith link now (goodFor lifetime)
  upload : ∀ link, s.uploadLink now ctx path lifetime = .ok link →
    AgreesWith link now (goodFor lifetime)
  deletion : ∀ link, s.deletionLink now ctx path lifetime = .ok link →
    AgreesWith link now (goodFor lifetime)
  given : now.HasPlainYear → (now.addSeconds (goodFor lifetime)).HasPlainYear →
    (∀ t filename n info, s.target ctx .getRequest = .ok t →
      (properties s.redirects t now (ctx.objectKey path) .getRequest n).1 = .ok info →
      ∃ link, (s.downloadLink now ctx path filename lifetime n).1 = .ok link) ∧
    (∀ t, s.target ctx .putRequest = .ok t →
      ∃ link, s.uploadLink now ctx path lifetime = .ok link) ∧
    ∀ t, s.target ctx .deleteRequest = .ok t →
      ∃ link, s.deletionLink now ctx path lifetime = .ok link

/-- All three kinds of links agree with the lifetime that was asked for, since each is the link of
one signed blob. -/
theorem linksAgree (hs : s.IsBuilt) (now : Instant) (ctx : Context) (path : String)
    (lifetime : Span) : LinksAgree s now ctx path lifetime where
  download filename n link hlink := by
    obtain ⟨t, ht, -, hblob⟩ := downloadLink_eq_ok_iff.1 hlink
    exact agrees_of_blobLink (Storage.built_of_target hs ht) hblob
  upload link hlink := by
    obtain ⟨t, ht, plain, hblob, hheader⟩ := uploadLink_eq_ok_iff.1 hlink
    cases hheader
    exact agrees_withHeader (agrees_of_blobLink (Storage.built_of_target hs ht) hblob) _
  deletion link hlink := by
    obtain ⟨t, ht, hblob⟩ := deletionLink_eq_ok_iff.1 hlink
    exact agrees_of_blobLink (Storage.built_of_target hs ht) hblob
  given hnow hexpiry := by
    refine ⟨fun t filename n info ht hinfo => ?_, fun t ht => ?_, fun t ht => ?_⟩ <;>
      obtain ⟨link, hlink⟩ := exists_blobLink (Storage.built_of_target hs ht) hnow hexpiry
    · exact ⟨link, downloadLink_eq_ok_iff.2 ⟨t, ht, ⟨info, hinfo⟩, hlink⟩⟩
    · exact ⟨_, uploadLink_eq_ok_iff.2 ⟨t, ht, link, hlink, rfl⟩⟩
    · exact ⟨link, deletionLink_eq_ok_iff.2 ⟨t, ht, hlink⟩⟩

end Azure

/-! ### Buckets -/

namespace S3

/-- The link that the signer gives for a start and a lifetime. -/
def presigned (t : Target) (now : Instant) (seconds : Nat) (method : LinkMethod) (place : Place)
    (pairs : List Pair) : Link where
  uri := signedUrl t now (.ofSeconds seconds) method place pairs
  method := method
  expire := now.addSeconds seconds

/-- Whether the links that an answer may be are those that the signer gives for a start now and the
lifetime, whichever target the request has. -/
def Presigns (s : Storage) (now : Instant) (ctx : Context) (path : String) (lifetime : Span)
    (op : ObjectOp) (method : LinkMethod) (answer : Except ObjectError Link) : Prop :=
  ∃ pairs, ∀ link, answer = .ok link ↔ ∃ t, s.target ctx = .ok t ∧
    ∃ place, t.linkPlace op (ctx.objectKey path) = .ok place ∧
      presigned t now (goodFor lifetime) method place pairs = link

variable {s : Storage} {t : Target} {now : Instant} {ctx : Context} {path key : String}
  {lifetime : Span} {op : ObjectOp} {method : LinkMethod} {pairs : List Pair} {link : Link}

/-- A link to an object is what is presigned at its place, if it has one. -/
theorem objectLink_eq_ok_iff : objectLink t now op method key lifetime pairs = .ok link ↔
    ∃ place, t.linkPlace op key = .ok place ∧
      presigned t now (goodFor lifetime) method place pairs = link := by
  refine bind_eq_ok_iff.trans (exists_congr fun place => and_congr_right fun _ => ?_)
  dsimp only
  rw [addNanos_clamp, clamp_eq]
  exact Iff.of_eq (Except.ok.injEq _ _)

/-- A link to an object is presigned for its lifetime, from now on. -/
theorem presigns_objectLink (pairs : List Pair) : Presigns s now ctx path lifetime op method
    ((s.target ctx).bind fun t =>
      objectLink t now op method (ctx.objectKey path) lifetime pairs) := by
  refine ⟨pairs, fun link => ?_⟩
  rw [bind_eq_ok_iff]
  exact exists_congr fun t => and_congr_right fun _ => objectLink_eq_ok_iff

/-- Whether the links of a storage are those that the signer gives, whose addresses tell the start
down to the second and the lifetime. -/
structure LinksPresigned (s : Storage) (now : Instant) (ctx : Context) (path : String)
    (lifetime : Span) : Prop where
  download : ∀ filename, Presigns s now ctx path lifetime .getRequest .get
    (s.downloadLink now ctx path filename lifetime)
  upload : Presigns s now ctx path lifetime .putRequest .put (s.uploadLink now ctx path lifetime)
  deletion : Presigns s now ctx path lifetime .deleteRequest .delete
    (s.deletionLink now ctx path lifetime)
  told : ∀ t, (signingPairs t now (.ofSeconds (goodFor lifetime))).lookup "X-Amz-Date"
      = some now.compactText ∧
    (signingPairs t now (.ofSeconds (goodFor lifetime))).lookup "X-Amz-Expires"
      = some (Nat.repr (goodFor lifetime))

/-- All three kinds of links to objects are presigned for the lifetime that was asked for. -/
theorem linksPresigned (s : Storage) (now : Instant) (ctx : Context) (path : String)
    (lifetime : Span) : LinksPresigned s now ctx path lifetime where
  download filename := presigns_objectLink _
  upload := presigns_objectLink _
  deletion := presigns_objectLink _
  told t := by
    have hseconds : (Span.ofSeconds (goodFor lifetime)).seconds = goodFor lifetime :=
      Nat.mul_div_cancel _ (by decide)
    refine ⟨rfl, ?_⟩
    rw [signingPairs, hseconds]
    rfl

end S3

/-- A link expires when the window ends that its address is signed for. A blob service is given
whole seconds in UTC, so there the window has the lifetime of the link exactly, starts no later than
now and ends less than a second before the expiry that is told. The signer of a bucket is given the
start now and the lifetime. -/
theorem expiry_agrees (now : Instant) (ctx : Context) (path : String) (lifetime : Span) :
    (60 ≤ goodFor lifetime ∧ goodFor lifetime ≤ 604800) ∧
    (∀ s : Azure.Storage, s.IsBuilt → Azure.LinksAgree s now ctx path lifetime) ∧
    ∀ s : S3.Storage, S3.LinksPresigned s now ctx path lifetime :=
  ⟨goodFor_bounds lifetime, fun _ hs => Azure.linksAgree hs now ctx path lifetime,
    fun s => S3.linksPresigned s now ctx path lifetime⟩

/-- A storage of blobs in the sample account. -/
def sampleBlobs : Azure.Storage where
  options := { container := "artifacts", account := some .sample }

/-- The account of the sample container is one that a connection or a key gives. -/
theorem isBuilt_sampleBlobs : sampleBlobs.IsBuilt := fun a ha => by
  cases ha
  exact Azure.Account.built_sample

/-- Half a second past noon in UTC, on a clock one hour to the east. -/
def sampleNow : Instant := ⟨1772366400500000000, 3600⟩

/-- A link for a minute and a half and a bit is good for a minute and a half. -/
theorem expiry_agrees_sample :
    ∃ link, sampleBlobs.uploadLink sampleNow {} "dir/x" (.ofParts 90 700000000) = .ok link ∧
      AgreesWith link sampleNow 90 := by
  have hagree := (expiry_agrees sampleNow {} "dir/x" (.ofParts 90 700000000)).2.1 sampleBlobs
    isBuilt_sampleBlobs
  obtain ⟨-, hupload, -⟩ := hagree.given (by decide +kernel) (by decide +kernel)
  obtain ⟨link, hlink⟩ := hupload _ rfl
  exact ⟨link, hlink, hagree.upload link hlink⟩

end Fleet
