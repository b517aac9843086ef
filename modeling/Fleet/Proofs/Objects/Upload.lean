import Fleet.Proofs.Azure.Account
import Fleet.Proofs.Objects.Transfer

/-!
# `Fleet.Proofs.Objects.Upload`: uploads in pieces, whole or not at all

Both services take a payload in pieces and put it together at the end, when they are told to. The
results here are about both, in the words of `Fleet.Proofs.Objects.Transfer`.

* If every request is granted and the payload fits, the bodies are the payload cut into pieces, and
  what puts them together names exactly these pieces in order (`uploads_reassemble`). That takes
  an address, settings that can be written into headers, and pieces that there can be room for;
  otherwise nothing is sent (`unsendable_uploads_fail`).
* If a request is refused, or something stands in the way of sending all, nothing is put together
  (`failed_uploads_never_commit`). An upload in parts is aborted then, whatever ended it, so that no
  parts are left behind; blocks that are not committed need no such request.
-/

set_option autoImplicit false

namespace Fleet

open Fleet.Http Fleet.Time

variable {n : Network} {ctx : Context} {path : String} {p : Payload}

/-! ### Samples -/

/-- A bucket whose parts are as small as they may be. -/
def sampleBucket : S3.Storage where
  options := { bucket := "rollout", bufferSize := S3.minPartSize }
  bucket :=
    { bucket := "rollout", region := "us-east-1", credentials := { key := "k", secret := "s" } }

/-- The sample bucket has the least size of parts. -/
theorem partSize_sampleBucket : sampleBucket.options.partSize = S3.minPartSize := by
  decide

/-- The place of the object `a` in the bucket. -/
def samplePlace : S3.Place where
  scheme := "https"
  authority := "rollout.s3.us-east-1.amazonaws.com"
  path := "/a"

/-- The sample bucket has a place for the sample object. -/
theorem objectPlace_sampleBucket :
    sampleBucket.bucket.objectPlace .putObject (Context.objectKey {} "a") = .ok samplePlace := by
  decide +kernel

/-- A container in the public cloud whose blocks are as small as they may be. -/
def sampleContainer : Azure.Storage where
  options :=
    { container := "rollout"
      account := some .sample
      bufferSize := Azure.minBlockSize }

/-- The sample container has the least size of blocks. -/
theorem blockSize_sampleContainer : sampleContainer.options.blockSize = Azure.minBlockSize := by
  decide

def sampleTarget : Azure.Target where
  account := .sample
  container := "rollout"

/-- The sample container has a signed address for the sample object. -/
theorem requestUrl_sampleTarget : ∃ url, Azure.requestUrl sampleTarget default
    (Context.objectKey {} "a") .createWrite = .ok url :=
  ⟨_, rfl⟩

/-- Nothing is configured that would have to be written into headers. -/
theorem isWritable_sampleContainer :
    IsWritable sampleContainer.options.contentType ∧
      IsWritable (sampleContainer.options.uploadDisposition "a") :=
  ⟨isWritable_none, isWritable_none⟩

/-- Zeros, and possibly a reader that fails after them. -/
def samplePayload (size : Nat) (failure : Option String := none) : Payload where
  bytes := ⟨Array.replicate size 0⟩
  failure

/-- A sample payload has the size that it is made with. -/
@[simp] theorem size_samplePayload (size : Nat) (failure : Option String) :
    (samplePayload size failure).bytes.size = size :=
  Array.size_replicate

/-- The reply that an upload is begun. -/
def beginningReply : Reply where
  body := "<InitiateMultipartUploadResult><UploadId>u</UploadId></InitiateMultipartUploadResult>".toUTF8

/-- The reply that an upload is completed. It suits all other requests, too, which do not look at
what it says. -/
def completionReply : Reply where
  body := "<CompleteMultipartUploadResult/>".toUTF8

/-- A service that gives some replies and refuses all requests after that. -/
def refusingAfter (replies : List Reply) : Network where
  replies := replies.map some
  later := some { status := 500 }

/-- A service that refuses after some replies gives these in order and then refuses everything. -/
theorem replyAt_refusingAfter (replies : List Reply) (i : Nat) :
    (refusingAfter replies).replyAt i = some (replies[i]?.getD { status := 500 }) := by
  rw [Network.replyAt, refusingAfter, List.getElem?_map]
  cases replies[i]? <;> rfl

/-- The replies to an upload that is begun, of which so many other requests are granted. -/
def grants (count : Nat) : List Reply := beginningReply :: List.replicate count completionReply

/-- The first grant begins an upload. -/
theorem replyAt_grants_zero (count : Nat) :
    (refusingAfter (grants count)).replyAt 0 = some beginningReply := by
  rw [replyAt_refusingAfter, grants, List.getElem?_cons_zero, Option.getD_some]

/-- The grants behind the first one complete what is asked. -/
theorem replyAt_grants {count i : Nat} (h : i < count) :
    (refusingAfter (grants count)).replyAt (i + 1) = some completionReply := by
  rw [replyAt_refusingAfter, grants, List.getElem?_cons_succ, List.getElem?_replicate, if_pos h,
    Option.getD_some]

/-- Behind all grants there are refusals. -/
theorem replyAt_grants_of_le {count i : Nat} (h : count ≤ i) :
    (refusingAfter (grants count)).replyAt (i + 1) = some { status := 500 } := by
  rw [replyAt_refusingAfter, grants, List.getElem?_cons_succ, List.getElem?_replicate,
    if_neg (Nat.not_lt.2 h), Option.getD_none]

/-- The reply that begins an upload grants the request that asks for it. -/
theorem grants_beginningReply :
    S3.Reading.grants (S3.beginRequest samplePlace sampleBucket.options) beginningReply = true := by
  decide +kernel

/-- From the reply that begins an upload its id is read. -/
theorem begun?_of_beginningReply {n : Network} (h : n.replyAt 0 = some beginningReply) :
    S3.begun? .standard sampleBucket.options samplePlace n = some "u" := by
  have hid : S3.Reading.standard.uploadId? beginningReply = some "u" := by decide +kernel
  have haccepts : S3.Reading.standard.accepts
      (S3.beginRequest samplePlace sampleBucket.options) beginningReply = true :=
    grants_beginningReply
  rw [S3.begun?, h, Option.filter_some, if_pos haccepts]
  exact hid

/-- Whatever does not begin an upload is granted by the reply that completes one. -/
theorem grants_completionReply {r : Request} (h : r.method ≠ "POST" ∨ r.body.isEmpty = false) :
    S3.Reading.grants r completionReply = true := by
  have hroot : (S3.Reading.document? completionReply).bind Text.rootName?
      = some "CompleteMultipartUploadResult" := by decide +kernel
  rw [S3.Reading.grants, hroot, S3.Reading.grantingRoot?]
  by_cases hmethod : r.method = "POST"
  · rw [if_neg (not_not_intro hmethod), h.resolve_left (not_not_intro hmethod)]
    rfl
  · rw [if_pos hmethod]
    rfl

/-- The reply of a completed upload grants any request but one that asks for a document of another
kind. -/
theorem accepts_completionReply {r : Request} (h : r.method ≠ "POST" ∨ r.body.isEmpty = false) :
    sampleBucket.reading.accepts r completionReply = true :=
  grants_completionReply h

/-- A list of parts is not empty, whatever it lists: it has a root. -/
theorem isEmpty_body_completeRequest (place : S3.Place) (id : String) (parts : List S3.Part) :
    (S3.completeRequest place id parts).body.isEmpty = false := by
  rw [isEmpty_eq_false_iff]
  refine Nat.pos_of_ne_zero fun hsize => ?_
  have hnone : S3.partList parts = "" := String.utf8ByteSize_eq_zero_iff.1 hsize
  have hread := S3.marks?_partList parts
  rw [hnone] at hread
  simp [Text.Markup.marks?, S3.listMarks] at hread

/-- A request of an upload that has begun is a part, or a completion, which has a body. -/
theorem ne_post_or_of_mem_partPlan {place : S3.Place} {id : String} {bodies : List ByteArray}
    {obstacle : Option ObjectError} {r : Request}
    (hr : r ∈ S3.partPlan place id n bodies obstacle) :
    r.method ≠ "POST" ∨ r.body.isEmpty = false := by
  unfold S3.partPlan at hr
  rcases List.mem_append.1 hr with hr | hr
  · obtain ⟨i, -, rfl⟩ := List.mem_mapIdx.1 hr
    exact .inl (show "PUT" ≠ "POST" by decide)
  · cases obstacle with
    | some e => cases hr
    | none =>
      rw [List.mem_singleton.1 hr]
      exact .inr (isEmpty_body_completeRequest place id _)

/-- An upload is granted where it is begun and all that follows is completed. -/
theorem grantsAll_of_replyAt {rs : List Request} (hfirst : n.replyAt 0 = some beginningReply)
    (hrest : ∀ i < rs.length, n.replyAt (i + 1) = some completionReply)
    (hrs : ∀ r ∈ rs, r.method ≠ "POST" ∨ r.body.isEmpty = false) :
    n.GrantsAll sampleBucket.reading.accepts
      (S3.beginRequest samplePlace sampleBucket.options :: rs) := by
  intro i r hr
  cases i with
  | zero =>
    cases hr
    rw [Network.grants, hfirst]
    exact grants_beginningReply
  | succ i =>
    have hi := (List.getElem?_eq_some_iff.1 hr).1
    rw [Network.grants, hrest i (by simpa using hi)]
    exact accepts_completionReply (hrs r (List.mem_of_getElem? hr))

/-! ### Uploads that are granted -/

/-- An upload that is granted throughout puts together exactly the payload. What is configured about
an object must be such that it can be written into headers, and no piece may be longer than there
can be room for. -/
theorem uploads_reassemble (hreads : p.failure = none) :
    (∀ (s : S3.Storage) (t : S3.Target) (place : S3.Place),
      s.target ctx = .ok t → t.objectPlace .putObject (ctx.objectKey path) = .ok place →
      s.options.partSize ≤ maxPieceSize → IsWritable s.options.contentType →
      p.bytes.size ≤ S3.maxParts * s.options.partSize → s.Reassembles ctx path p n place) ∧
    (∀ (s : Azure.Storage) (now : Instant) (t : Azure.Target) (url : Url),
      s.target ctx .putObject = .ok t →
      Azure.requestUrl t now (ctx.objectKey path) .createWrite = .ok url →
      s.options.blockSize ≤ maxPieceSize →
      (IsWritable s.options.contentType ∧ IsWritable (s.options.uploadDisposition path)) →
      p.bytes.size ≤ Azure.maxBlocks * s.options.blockSize →
      s.Reassembles now ctx path p n t url) :=
  ⟨fun _ _ _ ht hplace hsize hwritable hfit =>
      S3.reassembles ht hplace hsize hwritable hreads hfit,
    fun _ _ _ _ ht hurl hsize hwritable hfit =>
      Azure.reassembles ht hurl hsize hwritable hreads hfit⟩

/-- A service that begins an upload and grants all else. -/
def generous : Network where
  replies := [some beginningReply]
  later := some completionReply

/-- A service that grants all lets any request succeed. -/
theorem succeeds_generous (i : Nat) : generous.succeeds i = true := by
  cases i <;> rfl

/-- In a bucket and in a container, a payload that fits into one request is sent by one, and one
that does not is taken in pieces. -/
theorem uploads_reassemble_sample :
    (∃ n', sampleBucket.put {} "a" (samplePayload 5) { later := some completionReply }
        = (.ok (), n') ∧
      n'.requests = [S3.putRequest samplePlace sampleBucket.options (samplePayload 5).bytes]) ∧
    (∃ bodies n', Payload.Cut S3.minPartSize (samplePayload S3.minPartSize).bytes bodies ∧
      sampleBucket.put {} "a" (samplePayload S3.minPartSize) generous = (.ok (), n') ∧
      n'.requests = S3.partUpload sampleBucket.options samplePlace "u" generous bodies) ∧
    (sampleContainer.put default {} "a" (samplePayload 5) generous).1 = .ok () ∧
    ∃ bodies, Payload.Cut Azure.minBlockSize (samplePayload S3.minPartSize).bytes bodies ∧
      (sampleContainer.put default {} "a" (samplePayload S3.minPartSize) generous).1 = .ok () := by
  obtain ⟨url, hurl⟩ := requestUrl_sampleTarget
  have hbucket (n : Network) (size : Nat) (hfit : size ≤ S3.maxParts * S3.minPartSize) :
      sampleBucket.Reassembles {} "a" (samplePayload size) n samplePlace :=
    (uploads_reassemble rfl).1 _ _ _ rfl objectPlace_sampleBucket
      (by rw [partSize_sampleBucket]; decide) isWritable_none
      (by rwa [size_samplePayload, partSize_sampleBucket])
  have hcontainer (size : Nat) (hfit : size ≤ Azure.maxBlocks * Azure.minBlockSize) :
      sampleContainer.Reassembles default {} "a" (samplePayload size) generous sampleTarget url :=
    (uploads_reassemble rfl).2 _ _ _ _ rfl hurl (by rw [blockSize_sampleContainer]; decide)
      isWritable_sampleContainer (by rwa [size_samplePayload, blockSize_sampleContainer])
  refine ⟨?_, ?_, ?_, ?_⟩
  · exact (hbucket _ 5 (by decide)).short (by rw [size_samplePayload]; decide)
      (grants_completionReply
        (r := S3.putRequest samplePlace sampleBucket.options (samplePayload 5).bytes)
        (.inl (show "PUT" ≠ "POST" by decide)))
  -- As long as a part exactly, the payload goes up in parts.
  · obtain ⟨bodies, hcut, hgranted⟩ := (hbucket generous S3.minPartSize (by decide)).long
      (Nat.le_of_eq (by rw [size_samplePayload, partSize_sampleBucket])) "u"
      (begun?_of_beginningReply rfl)
    rw [S3.partUpload_eq] at hgranted
    obtain ⟨n', hput, hrequests⟩ := hgranted (grantsAll_of_replyAt rfl (fun _ _ => rfl)
      fun _ => ne_post_or_of_mem_partPlan)
    rw [partSize_sampleBucket] at hcut
    exact ⟨bodies, n', hcut, hput, by rw [hrequests, S3.partUpload_eq]; rfl⟩
  · obtain ⟨n', hput, -⟩ := (hcontainer 5 (by decide)).short
      (by rw [size_samplePayload]; decide) (succeeds_generous 0)
    rw [hput]
  · obtain ⟨bodies, hcut, -, hgranted⟩ := (hcontainer S3.minPartSize (by decide)).long
      (by rw [size_samplePayload]; decide)
    obtain ⟨n', hput, -⟩ := hgranted fun i _ => succeeds_generous i
    rw [blockSize_sampleContainer] at hcut
    exact ⟨bodies, hcut, by rw [hput]⟩

/-- A bucket whose objects are to be of a kind that holds a line break. -/
def brokenBucket : S3.Storage :=
  { sampleBucket with options := { sampleBucket.options with contentType := some "a\nb" } }

/-- A container whose blobs are to be of a kind that holds a line break. -/
def brokenContainer : Azure.Storage :=
  { sampleContainer with options := { sampleContainer.options with contentType := some "a\nb" } }

/-- A container whose blocks are longer than there can be room for. -/
def vastContainer : Azure.Storage :=
  { sampleContainer with options := { sampleContainer.options with bufferSize := 2 ^ 63 } }

/-- A bucket that is asked for at the accelerated service and by its name in the path. No address is
of both kinds. -/
def unaddressedBucket : S3.Storage :=
  { sampleBucket with
    bucket := { sampleBucket.bucket with forcePathStyle := true, useAccelerate := true } }

/-- A container in an account that each request has to tell. -/
def anonymousContainer : Azure.Storage :=
  { sampleContainer with options := { sampleContainer.options with account := none } }

/-- Where every request would be granted, nothing is sent and the upload fails all the same if what
is configured cannot be written into a header, if there cannot be room for a piece, or if there is
no address for the object. -/
theorem unsendable_uploads_fail :
    brokenBucket.put {} "a" (samplePayload 5) generous
        = (.error (S3.unwritten .putObject), generous) ∧
      brokenContainer.put default {} "a" (samplePayload 5) generous
        = (.error (Azure.unwritten "failed to upload blob"), generous) ∧
      vastContainer.put default {} "a" (samplePayload 5) generous
        = (.error (.io "capacity overflow"), generous) ∧
      unaddressedBucket.put {} "a" (samplePayload 5) generous
        = (.error (S3.failure .putObject "the object has no address"), generous) ∧
      anonymousContainer.put default {} "a" (samplePayload 5) generous
        = (.error (Azure.failure .putObject "no default credentials"
            "storage settings are required"), generous) := by
  obtain ⟨url, hurl⟩ := requestUrl_sampleTarget
  have hbroken : ¬ IsWritable (some "a\nb") := by
    intro hwritable
    exact absurd (hwritable _ rfl) (by decide)
  refine ⟨?_, ?_, ?_, ?_, ?_⟩
  · refine (S3.put_of_short (s := brokenBucket) rfl objectPlace_sampleBucket (by decide) rfl
      (by rw [size_samplePayload]; decide) _).trans ?_
    exact Exchanging.bind_error (S3.send_of_unwritable _ .putObject (by decide) _)
  · refine (Azure.put_of_short (s := brokenContainer) rfl hurl (by decide) rfl
      (by rw [size_samplePayload]; decide) _).trans ?_
    refine Azure.deliver_of_unwritable _ _ ?_ _
    rw [← Bool.not_eq_true, Azure.isWritable_putRequest_iff]
    exact fun h => hbroken h.1
  · exact Azure.put_of_oversized rfl (by decide) generous
  · exact S3.put_of_unplaced rfl (by decide +kernel) (by decide) rfl generous
  · exact Azure.put_of_untargeted rfl generous

/-! ### Uploads that fail -/

/-- An upload in pieces that fails anywhere is never put together. In a bucket its parts are
aborted, in a container nothing is sent any more. Payloads that fill a piece are taken in pieces, if
there can be room for one. -/
theorem failed_uploads_never_commit (n : Network) :
    (∀ (s : S3.Storage) (t : S3.Target) (place : S3.Place),
      s.target ctx = .ok t → t.objectPlace .putObject (ctx.objectKey path) = .ok place →
      s.options.partSize ≤ maxPieceSize → s.options.partSize ≤ p.bytes.size →
      s.AbortsFailures ctx path p n place) ∧
    (∀ (s : Azure.Storage) (now : Instant) (t : Azure.Target) (url : Url),
      s.target ctx .putObject = .ok t →
      Azure.requestUrl t now (ctx.objectKey path) .createWrite = .ok url →
      s.options.blockSize ≤ maxPieceSize → s.options.blockSize ≤ p.bytes.size →
      s.LeavesFailures now ctx path p n t url) :=
  ⟨fun _ _ _ ht hplace hsize hlong => S3.abortsFailures ht hplace hsize hlong,
    fun _ _ _ _ ht hurl hsize hlong => Azure.leavesFailures ht hurl hsize hlong⟩

/-- The parts of a payload of one part in the bucket, for an upload that is begun. -/
def sampleParts (failure : Option String) : List Request :=
  S3.partRequests samplePlace "u" 0
    (S3.bodies sampleBucket.options (samplePayload S3.minPartSize failure))

/-- A request of the sample upload is a part, or a completion, which has a body. -/
theorem ne_post_or_of_mem_sampleParts {failure : Option String} {r : Request}
    (hr : r ∈ sampleParts failure) : r.method ≠ "POST" ∨ r.body.isEmpty = false := by
  have hplan : r ∈ S3.partPlan samplePlace "u" default
      (S3.bodies sampleBucket.options (samplePayload S3.minPartSize failure)) none :=
    List.mem_append_left _ hr
  exact ne_post_or_of_mem_partPlan hplan

/-- The service refuses what it does not grant, whatever is asked. -/
theorem refuses_after_grants {count i : Nat} (h : count ≤ i) (r : Request) :
    (refusingAfter (grants count)).grants sampleBucket.reading.accepts (i + 1) r = false := by
  rw [Network.grants, replyAt_grants_of_le h]
  rfl

/-- Parts that the service grants. -/
theorem grantsAll_sampleParts {failure : Option String} {count : Nat}
    (hcount : (sampleParts failure).length ≤ count) :
    (refusingAfter (grants count)).GrantsAll sampleBucket.reading.accepts
      (S3.beginRequest samplePlace sampleBucket.options :: sampleParts failure) :=
  grantsAll_of_replyAt (replyAt_grants_zero count)
    (fun _ hi => replyAt_grants (Nat.lt_of_lt_of_le hi hcount))
    fun _ => ne_post_or_of_mem_sampleParts

/-- Where the service grants the parts but not the completion, the upload is aborted. -/
theorem sampleBucket_uncompleted {count : Nat} (hcount : count = (sampleParts none).length)
    (h : sampleBucket.AbortsFailures {} "a" (samplePayload S3.minPartSize)
      (refusingAfter (grants count)) samplePlace) :
    ∃ e r, sampleBucket.put {} "a" (samplePayload S3.minPartSize) (refusingAfter (grants count))
      = (.error e, (refusingAfter (grants count)).after
          (S3.beginRequest samplePlace sampleBucket.options :: sampleParts none
            ++ [r, S3.abortRequest samplePlace "u"])) := by
  have hobstacle := (S3.bodies_of_fits (p := samplePayload S3.minPartSize)
    (o := sampleBucket.options) rfl
    (by rw [size_samplePayload, partSize_sampleBucket]; decide)).2
  -- The request that completes is the one behind the parts.
  obtain ⟨r, hplan⟩ : ∃ r, S3.wholePlan sampleBucket.options samplePlace "u"
      (samplePayload S3.minPartSize) (refusingAfter (grants count))
        = S3.beginRequest samplePlace sampleBucket.options :: (sampleParts none ++ [r]) := by
    rw [S3.wholePlan, hobstacle, S3.partPlan_of_none, sampleParts]
    exact ⟨_, rfl⟩
  have htake : (S3.beginRequest samplePlace sampleBucket.options
      :: (sampleParts none ++ [r])).take (count + 1)
        = S3.beginRequest samplePlace sampleBucket.options :: sampleParts none := by
    rw [List.take_succ_cons, List.take_left' hcount.symm]
  have hlast : (S3.beginRequest samplePlace sampleBucket.options
      :: (sampleParts none ++ [r]))[count + 1]? = some r := by
    rw [List.getElem?_cons_succ, hcount]
    exact List.getElem?_concat_length
  have hput := h.refused isWritable_none "u" (begun?_of_beginningReply (replyAt_grants_zero count))
    count r
  rw [hplan, htake] at hput
  exact ⟨_, r, hput hlast (grantsAll_sampleParts hcount.ge)
    (refuses_after_grants (Nat.le_refl count) r)⟩

/-- Where the reader fails after the parts, the upload is aborted and that error is reported. -/
theorem sampleBucket_interrupted {count : Nat}
    (hcount : (sampleParts (some "gone")).length < count)
    (h : sampleBucket.AbortsFailures {} "a" (samplePayload S3.minPartSize (some "gone"))
      (refusingAfter (grants count)) samplePlace) :
    sampleBucket.put {} "a" (samplePayload S3.minPartSize (some "gone"))
        (refusingAfter (grants count))
      = (.error (.io "gone"), (refusingAfter (grants count)).after
          (S3.beginRequest samplePlace sampleBucket.options
            :: sampleParts (some "gone") ++ [S3.abortRequest samplePlace "u"])) := by
  have hobstacle := h.reader "gone" rfl
  rw [if_pos (by rw [size_samplePayload]; decide)] at hobstacle
  have hplan : S3.wholePlan sampleBucket.options samplePlace "u"
      (samplePayload S3.minPartSize (some "gone")) (refusingAfter (grants count))
        = S3.beginRequest samplePlace sampleBucket.options :: sampleParts (some "gone") := by
    rw [S3.wholePlan, hobstacle, S3.partPlan, List.append_nil, sampleParts]
  -- One reply more is granted, and it answers the abort.
  have hlast : (refusingAfter (grants count)).replyAt ((S3.bodies sampleBucket.options
      (samplePayload S3.minPartSize (some "gone"))).length + 1) = some completionReply := by
    refine replyAt_grants ?_
    rwa [sampleParts, S3.length_partRequests] at hcount
  have hmethod : (S3.abortRequest samplePlace "u").method ≠ "POST" :=
    show "DELETE" ≠ "POST" by decide
  have hgrants : sampleBucket.reading.accepts (S3.abortRequest samplePlace "u") completionReply
      = true := accepts_completionReply (.inl hmethod)
  have haborted : S3.abortError sampleBucket.reading samplePlace "u" (.io "gone")
      (some completionReply) = .io "gone" := by
    rw [S3.abortError, Option.any_some, if_pos hgrants]
  have hput := h.obstructed isWritable_none "u"
    (begun?_of_beginningReply (replyAt_grants_zero count)) (.io "gone") hobstacle
  rw [hplan, hlast, haborted] at hput
  exact hput (grantsAll_sampleParts hcount.le)

/-- The blocks of a payload of one block in the container. -/
def sampleBlocks (url : Url) (failure : Option String) : List Request :=
  Azure.blockRequests url 0
    (Azure.bodies sampleContainer.options (samplePayload Azure.minBlockSize failure))

/-- No reply leads elsewhere, be it one of success or a refusal. -/
theorem stay_refusingAfter (count i : Nat) (r : Request) (reply : Reply)
    (h : (refusingAfter (List.replicate count completionReply)).replyAt i = some reply) :
    sampleContainer.redirects.turn r reply = .stay := by
  have hsuccess : completionReply.leadsOn = false := rfl
  have hrefusal : ({ status := 500 } : Reply).leadsOn = false := rfl
  rw [replyAt_refusingAfter, List.getElem?_replicate] at h
  split at h
  · cases h
    exact sampleContainer.redirects.stays r _ hsuccess
  · cases h
    exact sampleContainer.redirects.stays r _ hrefusal

/-- As many replies of success grant as many requests. -/
theorem grantsAll_replicate {count : Nat} {rs : List Request} (hcount : rs.length ≤ count) :
    (refusingAfter (List.replicate count completionReply)).GrantsAll
      (fun _ reply => reply.isSuccess) rs := by
  refine Azure.grantsAll_of_succeeds _ hcount fun i hi => ?_
  rw [Network.succeeds, replyAt_refusingAfter, List.getElem?_replicate, if_pos hi]
  rfl

/-- After so many requests the next one fails. -/
theorem not_succeeds_after {count : Nat} {rs : List Request} (hcount : count = rs.length)
    (r : Request) : sampleContainer.redirects.succeeds
      ((refusingAfter (List.replicate count completionReply)).after rs) r = false := by
  have hreply : ((refusingAfter (List.replicate count completionReply)).after rs).replyAt 0
      = some { status := 500 } := by
    rw [Network.replyAt_after, replyAt_refusingAfter, List.getElem?_replicate, if_neg (by omega)]
    rfl
  have hrefusal : ({ status := 500 } : Reply).leadsOn = false := rfl
  rw [Redirects.succeeds, Redirects.outcome, Redirects.follow_of_stay _ _ hreply
    (sampleContainer.redirects.stays r _ hrefusal)]
  rfl

section
variable {url : Url}

/-- Where the first block is refused, nothing else is sent. -/
theorem sampleContainer_refused (h : sampleContainer.LeavesFailures default {} "a"
      (samplePayload Azure.minBlockSize) (refusingAfter []) sampleTarget url) :
    ∃ e r, sampleContainer.put default {} "a" (samplePayload Azure.minBlockSize)
        (refusingAfter []) = (.error e, (refusingAfter []).after [r]) := by
  have hcut := (Azure.bodies_of_fits (p := samplePayload Azure.minBlockSize)
    (o := sampleContainer.options) rfl
    (by rw [size_samplePayload, blockSize_sampleContainer]; decide)).1
  have hpos := hcut.length_pos (by rw [size_samplePayload]; decide)
  rw [← Azure.length_blockRequests url 0] at hpos
  obtain ⟨e, -, hput⟩ := h.refused 0 _ (List.getElem?_eq_getElem hpos) nofun
    (@not_succeeds_after 0 [] rfl _)
  rw [List.take_zero, List.nil_append, h.direct _ fun i r reply _ => stay_refusingAfter 0 i r reply]
    at hput
  exact ⟨e, _, hput⟩

/-- Where the service grants the blocks but not the commit, that is the end of it. -/
theorem sampleContainer_uncommitted {count : Nat} (hcount : count = (sampleBlocks url none).length)
    (h : sampleContainer.LeavesFailures default {} "a" (samplePayload Azure.minBlockSize)
      (refusingAfter (List.replicate count completionReply)) sampleTarget url) :
    ∃ e r, sampleContainer.put default {} "a" (samplePayload Azure.minBlockSize)
        (refusingAfter (List.replicate count completionReply))
      = (.error e, (refusingAfter (List.replicate count completionReply)).after
          (sampleBlocks url none ++ [r])) := by
  have hobstacle := (Azure.bodies_of_fits (p := samplePayload Azure.minBlockSize)
    (o := sampleContainer.options) rfl
    (by rw [size_samplePayload, blockSize_sampleContainer]; decide)).2
  obtain ⟨hblocks, hrun⟩ := sampleContainer.redirects.succeedsAll_of_grantsAll
    (grantsAll_replicate hcount.ge)
  rw [sampleBlocks] at hblocks hrun hcount
  obtain ⟨e, -, hput⟩ := h.uncommitted isWritable_sampleContainer hobstacle hblocks
    (by rw [hrun]; exact not_succeeds_after hcount _)
  rw [h.direct _ fun i r reply _ => stay_refusingAfter count i r reply] at hput
  exact ⟨e, _, hput⟩

/-- Where the reader fails after the blocks, nothing is committed. -/
theorem sampleContainer_interrupted {count : Nat}
    (hcount : count = (sampleBlocks url (some "gone")).length)
    (h : sampleContainer.LeavesFailures default {} "a"
      (samplePayload Azure.minBlockSize (some "gone"))
      (refusingAfter (List.replicate count completionReply)) sampleTarget url) :
    sampleContainer.put default {} "a" (samplePayload Azure.minBlockSize (some "gone"))
        (refusingAfter (List.replicate count completionReply))
      = (.error (.io "gone"), (refusingAfter (List.replicate count completionReply)).after
          (sampleBlocks url (some "gone"))) := by
  have hobstacle := h.reader "gone" rfl
  rw [if_pos (by rw [size_samplePayload]; decide)] at hobstacle
  obtain ⟨hblocks, hrun⟩ := sampleContainer.redirects.succeedsAll_of_grantsAll
    (grantsAll_replicate hcount.ge)
  rw [← hrun]
  exact h.obstructed (.io "gone") hobstacle hblocks

end

/-- A completion, a beginning, a block and a commit that are refused, and readers that fail. -/
theorem failed_uploads_never_commit_sample :
    (∃ n e r, sampleBucket.put {} "a" (samplePayload S3.minPartSize) n
      = (.error e, n.after (S3.beginRequest samplePlace sampleBucket.options :: sampleParts none
          ++ [r, S3.abortRequest samplePlace "u"]))) ∧
    (∃ n, sampleBucket.put {} "a" (samplePayload S3.minPartSize (some "gone")) n
      = (.error (.io "gone"), n.after (S3.beginRequest samplePlace sampleBucket.options
          :: sampleParts (some "gone") ++ [S3.abortRequest samplePlace "u"]))) ∧
    (sampleBucket.put {} "a" (samplePayload S3.minPartSize) (refusingAfter [])).1
      = .error (S3.refusal .putObject (S3.beginRequest samplePlace sampleBucket.options)
          (some { status := 500 })) ∧
    (∃ e r, sampleContainer.put default {} "a" (samplePayload Azure.minBlockSize)
      (refusingAfter []) = (.error e, (refusingAfter []).after [r])) ∧
    ∃ url,
      (∃ n e r, sampleContainer.put default {} "a" (samplePayload Azure.minBlockSize) n
        = (.error e, n.after (sampleBlocks url none ++ [r]))) ∧
      ∃ n, sampleContainer.put default {} "a" (samplePayload Azure.minBlockSize (some "gone")) n
        = (.error (.io "gone"), n.after (sampleBlocks url (some "gone"))) := by
  obtain ⟨url, hurl⟩ := requestUrl_sampleTarget
  have hbucket (n : Network) (failure : Option String) : sampleBucket.AbortsFailures {} "a"
      (samplePayload S3.minPartSize failure) n samplePlace :=
    (failed_uploads_never_commit n).1 _ _ _ rfl objectPlace_sampleBucket
      (by rw [partSize_sampleBucket]; decide)
      (Nat.le_of_eq (by rw [size_samplePayload, partSize_sampleBucket]))
  have hcontainer (n : Network) (failure : Option String) :
      sampleContainer.LeavesFailures default {} "a"
        (samplePayload Azure.minBlockSize failure) n sampleTarget url :=
    (failed_uploads_never_commit n).2 _ _ _ _ rfl hurl
      (by rw [blockSize_sampleContainer]; decide)
      (Nat.le_of_eq (by rw [size_samplePayload, blockSize_sampleContainer]))
  -- The network that lets every part through, and one request more.
  obtain ⟨count, hcount⟩ : ∃ count, (sampleParts (some "gone")).length < count :=
    ⟨_, Nat.lt_succ_self _⟩
  refine ⟨⟨_, sampleBucket_uncompleted rfl (hbucket _ none)⟩,
    ⟨_, sampleBucket_interrupted hcount (hbucket _ (some "gone"))⟩, ?_,
    sampleContainer_refused (hcontainer _ none), url,
    ⟨_, sampleContainer_uncommitted rfl (hcontainer _ none)⟩,
    ⟨_, sampleContainer_interrupted rfl (hcontainer _ (some "gone"))⟩⟩
  rw [(hbucket (refusingAfter []) none).not_begun isWritable_none rfl]
  rfl

end Fleet
