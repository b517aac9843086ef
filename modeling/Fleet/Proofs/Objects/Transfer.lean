import Fleet.Proofs.Azure.Upload
import Fleet.Proofs.S3.Upload

/-!
# `Fleet.Proofs.Objects.Transfer`: what an upload sends, for both services

For each service there are two descriptions of an upload. `Reassembles` is what reaches a service
that grants every request; the bodies are the payload cut into pieces, and what puts them together
names exactly these. `AbortsFailures` and `LeavesFailures` are the ways in which an upload fails,
each with what was sent until then. Both descriptions say what the requests hold by
`UploadRequests`, which asks for a method, a query and a body and not for how a request is made.

The four theorems collect what the modules of the services say of a call that puts a payload.
-/

set_option autoImplicit false

namespace Fleet

open Fleet.Http Fleet.Time

variable {n : Network} {ctx : Context} {path : String} {p : Payload}

/-! ### Buckets -/

namespace S3

variable {s : Storage} {t : Target} {place : Place}

/-- The requests of an upload in parts: it is begun, the bodies are sent as parts in order, and
exactly these parts are listed, each with the tag of its reply. -/
def partUpload (o : Options) (place : Place) (id : String) (n : Network)
    (bodies : List ByteArray) : List Request :=
  beginRequest place o
    :: bodies.mapIdx (fun i body => partRequest place id (i + 1) body)
    ++ [completeRequest place id ((List.range bodies.length).map fun i =>
      { number := i + 1, tag := (n.replyAt (i + 1)).bind (·.header? "etag") })]

/-- What reaches a service that grants all: the payload at once, or its parts in order and the list
of exactly these parts. -/
structure Storage.Reassembles (s : Storage) (ctx : Context) (path : String) (p : Payload)
    (n : Network) (place : Place) : Prop where
  requests : UploadRequests place s.options (ctx.objectKey path)
  short : p.bytes.size < s.options.partSize →
    n.grants s.reading.accepts 0 (putRequest place s.options p.bytes) = true → ∃ n',
    s.put ctx path p n = (.ok (), n') ∧
      n'.requests = n.requests ++ [putRequest place s.options p.bytes]
  long : s.options.partSize ≤ p.bytes.size → ∀ id,
    begun? s.reading s.options place n = some id → ∃ bodies,
    Payload.Cut s.options.partSize p.bytes bodies ∧
      (n.GrantsAll s.reading.accepts (partUpload s.options place id n bodies) → ∃ n',
        s.put ctx path p n = (.ok (), n') ∧
          n'.requests = n.requests ++ partUpload s.options place id n bodies)

/-- How an upload in parts fails. Each time it is given what was sent. -/
structure Storage.AbortsFailures (s : Storage) (ctx : Context) (path : String) (p : Payload)
    (n : Network) (place : Place) : Prop where
  requests : UploadRequests place s.options (ctx.objectKey path)
  /-- An upload whose beginning cannot be written sends nothing. -/
  unwritable : ¬ IsWritable s.options.contentType →
    s.put ctx path p n = (.error (unwritten .putObject), n)
  /-- An upload that is not begun is not aborted. -/
  not_begun : IsWritable s.options.contentType → begun? s.reading s.options place n = none →
    s.put ctx path p n
      = (.error (beginError s.reading s.options place (n.replyAt 0)),
        n.after [beginRequest place s.options])
  /-- The first request that is refused, be it a part or the completion, comes right after the
  parts in front of it. Aborting comes right after that. -/
  refused : IsWritable s.options.contentType → ∀ id,
    begun? s.reading s.options place n = some id → ∀ k r,
    (wholePlan s.options place id p n)[k + 1]? = some r →
    n.GrantsAll s.reading.accepts ((wholePlan s.options place id p n).take (k + 1)) →
    n.grants s.reading.accepts (k + 1) r = false →
    s.put ctx path p n
      = (.error (abortError s.reading place id (refusal .putObject r (n.replyAt (k + 1)))
          (n.replyAt (k + 2))),
        n.after ((wholePlan s.options place id p n).take (k + 1) ++ [r, abortRequest place id]))
  /-- Where something stands in the way of sending all, aborting takes the place of the
  completion. -/
  obstructed : IsWritable s.options.contentType → ∀ id,
    begun? s.reading s.options place n = some id → ∀ e, obstacle? s.options p = some e →
    n.GrantsAll s.reading.accepts (wholePlan s.options place id p n) →
    s.put ctx path p n
      = (.error (abortError s.reading place id e (n.replyAt ((bodies s.options p).length + 1))),
        n.after (wholePlan s.options place id p n ++ [abortRequest place id]))
  /-- A reader that fails stands in the way, unless there are too many parts before that. -/
  reader : ∀ detail, p.failure = some detail →
    obstacle? s.options p
      = some (if p.bytes.size / s.options.partSize ≤ maxParts then .io detail else tooManyParts)

/-- The tags of the parts are known from the network before the upload is begun. -/
theorem partUpload_eq (o : Options) (place : Place) (id : String) (n : Network)
    (bodies : List ByteArray) : partUpload o place id n bodies
      = beginRequest place o :: partPlan place id (n.after [beginRequest place o]) bodies none := by
  have hparts : storedParts (n.after [beginRequest place o]) 0 bodies.length
      = (List.range bodies.length).map fun i =>
        { number := i + 1, tag := (n.replyAt (i + 1)).bind (·.header? "etag") } := by
    simp [storedParts]
  rw [partPlan_of_none, hparts, partUpload, partRequests]
  simp

/-- In a bucket an upload that is granted throughout puts the payload together: at once if it is
shorter than a part, and otherwise in parts that are the payload cut up, listed with their tags. -/
theorem reassembles (ht : s.target ctx = .ok t)
    (hplace : t.objectPlace .putObject (ctx.objectKey path) = .ok place)
    (hsize : s.options.partSize ≤ maxPieceSize) (hwritable : IsWritable s.options.contentType)
    (hreads : p.failure = none) (hfit : p.bytes.size ≤ maxParts * s.options.partSize) :
    s.Reassembles ctx path p n place := by
  constructor
  case requests => exact uploadRequests hplace s.options
  case short => exact put_of_short_granted ht hplace hsize hwritable hreads
  case long =>
    intro hlong id hbegun
    obtain ⟨hcut, hobstacle⟩ := bodies_of_fits hreads hfit
    have hplan : wholePlan s.options place id p n
        = partUpload s.options place id n (bodies s.options p) := by
      rw [wholePlan, hobstacle, partUpload_eq]
    refine ⟨bodies s.options p, hcut, fun hgrants => ?_⟩
    rw [← hplan] at hgrants ⊢
    exact ⟨_, put_of_granted ht hplace hsize hlong hwritable hbegun hobstacle hgrants,
      hgrants.requests_after⟩

/-- In a bucket an upload in parts that fails is told as failed and its parts are aborted, whichever
of its requests is refused and whatever its reader fails with. -/
theorem abortsFailures (ht : s.target ctx = .ok t)
    (hplace : t.objectPlace .putObject (ctx.objectKey path) = .ok place)
    (hsize : s.options.partSize ≤ maxPieceSize) (hlong : s.options.partSize ≤ p.bytes.size) :
    s.AbortsFailures ctx path p n place where
  requests := uploadRequests hplace s.options
  unwritable hunwritable := put_of_unwritable ht hplace hsize hlong hunwritable n
  not_begun := put_of_not_begun ht hplace hsize hlong
  refused hwritable _ hbegun _ _ := put_of_refused ht hplace hsize hlong hwritable hbegun
  obstructed hwritable _ hbegun _ := put_of_obstacle ht hplace hsize hlong hwritable hbegun
  reader _ := obstacle?_of_fails

end S3

/-! ### Containers -/

namespace Azure

variable {s : Storage} {now : Instant} {t : Target} {url : Url}

/-- The requests of an upload in blocks: the bodies are staged in order under names that count them,
and exactly these names are committed. -/
def blockUpload (o : Options) (url : Url) (disposition : Option String)
    (bodies : List ByteArray) : List Request :=
  List.zipWith (blockRequest url) (blockIds 0 bodies.length) bodies
    ++ [commitRequest o url disposition (blockIds 0 bodies.length)]

/-- What reaches a service that grants all: the payload at once, or its blocks in order and the list
of exactly their names. There are no more than can be named. -/
structure Storage.Reassembles (s : Storage) (now : Instant) (ctx : Context) (path : String)
    (p : Payload) (n : Network) (t : Target) (url : Url) : Prop where
  requests : UploadRequests t now (ctx.objectKey path) url s.options
    (s.options.uploadDisposition path)
  short : p.bytes.size < s.options.blockSize → n.succeeds 0 = true → ∃ n',
    s.put now ctx path p n = (.ok (), n') ∧
      n'.requests = n.requests
        ++ [putRequest s.options url (s.options.uploadDisposition path) p.bytes]
  long : s.options.blockSize ≤ p.bytes.size → ∃ bodies,
    Payload.Cut s.options.blockSize p.bytes bodies ∧ bodies.length ≤ maxBlocks ∧
      ((∀ i ≤ bodies.length, n.succeeds i = true) → ∃ n',
        s.put now ctx path p n = (.ok (), n') ∧
          n'.requests = n.requests
            ++ blockUpload s.options url (s.options.uploadDisposition path) bodies)

/-- How an upload in blocks fails. Each time it is given what was sent, where `run` is the network
after some requests and those that follow replies which lead elsewhere. -/
structure Storage.LeavesFailures (s : Storage) (now : Instant) (ctx : Context) (path : String)
    (p : Payload) (n : Network) (t : Target) (url : Url) : Prop where
  requests : UploadRequests t now (ctx.objectKey path) url s.options
    (s.options.uploadDisposition path)
  /-- Where no reply leads elsewhere, nothing follows any request. -/
  direct : ∀ rs, (∀ i r reply, rs[i]? = some r → n.replyAt i = some reply →
    s.redirects.turn r reply = .stay) → s.redirects.run n rs = n.after rs
  /-- Nothing is sent after a block that fails. -/
  refused : ∀ k r, (blockRequests url 0 (bodies s.options p))[k]? = some r →
    s.redirects.SucceedsAll n ((blockRequests url 0 (bodies s.options p)).take k) →
    s.redirects.succeeds
      (s.redirects.run n ((blockRequests url 0 (bodies s.options p)).take k)) r = false →
    ∃ e, accepted .putObject "failed to stage block" r (s.redirects.outcome
        (s.redirects.run n ((blockRequests url 0 (bodies s.options p)).take k)) r) = .error e ∧
      s.put now ctx path p n = (.error e,
        s.redirects.run n ((blockRequests url 0 (bodies s.options p)).take k ++ [r]))
  /-- Where something stands in the way of staging all, nothing is committed. -/
  obstructed : ∀ e, obstacle? s.options p = some e →
    s.redirects.SucceedsAll n (blockRequests url 0 (bodies s.options p)) →
    s.put now ctx path p n
      = (.error e, s.redirects.run n (blockRequests url 0 (bodies s.options p)))
  /-- A commit that cannot be written is not sent. -/
  unwritable : ¬ (IsWritable s.options.contentType ∧
      IsWritable (s.options.uploadDisposition path)) →
    obstacle? s.options p = none →
    s.redirects.SucceedsAll n (blockRequests url 0 (bodies s.options p)) →
    s.put now ctx path p n = (.error (unwritten "failed to commit block list"),
      s.redirects.run n (blockRequests url 0 (bodies s.options p)))
  /-- A commit that fails comes after all blocks, and nothing is sent after it. -/
  uncommitted : IsWritable s.options.contentType ∧
      IsWritable (s.options.uploadDisposition path) →
    obstacle? s.options p = none →
    s.redirects.SucceedsAll n (blockRequests url 0 (bodies s.options p)) →
    s.redirects.succeeds (s.redirects.run n (blockRequests url 0 (bodies s.options p)))
      (wholeCommit s.options url (s.options.uploadDisposition path) p) = false →
    ∃ e, accepted .putObject "failed to commit block list"
        (wholeCommit s.options url (s.options.uploadDisposition path) p)
        (s.redirects.outcome (s.redirects.run n (blockRequests url 0 (bodies s.options p)))
          (wholeCommit s.options url (s.options.uploadDisposition path) p)) = .error e ∧
      s.put now ctx path p n = (.error e, s.redirects.run n
        (blockRequests url 0 (bodies s.options p)
          ++ [wholeCommit s.options url (s.options.uploadDisposition path) p]))
  /-- A reader that fails stands in the way, unless there are too many blocks before that. -/
  reader : ∀ detail, p.failure = some detail →
    obstacle? s.options p
      = some (if p.bytes.size / s.options.blockSize ≤ maxBlocks then .io detail
        else tooManyBlocks)

/-- Where all replies are of success, any requests so many succeed. -/
theorem grantsAll_of_succeeds (count : Nat) {rs : List Request} (hcount : rs.length ≤ count)
    (h : ∀ i < count, n.succeeds i = true) :
    n.GrantsAll (fun _ reply => reply.isSuccess) rs := by
  intro i r hr
  have hi := (List.getElem?_eq_some_iff.1 hr).1
  exact h i (by omega)

/-- An upload in blocks is one request for each block and one for their list. -/
theorem length_blockUpload (o : Options) (url : Url) (disposition : Option String)
    (bodies : List ByteArray) :
    (blockUpload o url disposition bodies).length = bodies.length + 1 := by
  simp [blockUpload, blockIds]

/-- In a container an upload that is granted throughout puts the payload together: at once if it is
shorter than a block, and otherwise in blocks that are the payload cut up, listed by their names. -/
theorem reassembles (ht : s.target ctx .putObject = .ok t)
    (hurl : requestUrl t now (ctx.objectKey path) .createWrite = .ok url)
    (hsize : s.options.blockSize ≤ maxPieceSize)
    (hwritable : IsWritable s.options.contentType ∧
      IsWritable (s.options.uploadDisposition path))
    (hreads : p.failure = none) (hfit : p.bytes.size ≤ maxBlocks * s.options.blockSize) :
    s.Reassembles now ctx path p n t url := by
  constructor
  case requests => exact uploadRequests hurl s.options _
  case short => exact put_of_short_succeeds ht hurl hsize hwritable hreads
  case long =>
    intro hlong
    obtain ⟨hcut, hobstacle⟩ := bodies_of_fits hreads hfit
    refine ⟨bodies s.options p, hcut, length_bodies_le _ _, fun hsucceeds => ?_⟩
    have hgrants : n.GrantsAll (fun _ reply => reply.isSuccess)
        (blockRequests url 0 (bodies s.options p)
          ++ [wholeCommit s.options url (s.options.uploadDisposition path) p]) :=
      grantsAll_of_succeeds ((bodies s.options p).length + 1)
        (by simp [length_blockRequests]) fun i hi => hsucceeds i (by omega)
    obtain ⟨hall, hrun⟩ := s.redirects.succeedsAll_of_grantsAll hgrants
    have hcommit := hall (blockRequests url 0 (bodies s.options p)).length _
      List.getElem?_concat_length
    rw [List.take_left' rfl] at hcommit
    refine ⟨_, put_of_commit_succeeds ht hurl hsize hlong hall.left hobstacle hwritable hcommit, ?_⟩
    rw [hrun]
    exact hgrants.requests_after

/-- In a container an upload in blocks that fails is told as failed, and no request follows the one
that was refused. So the list is sent only behind all blocks. -/
theorem leavesFailures (ht : s.target ctx .putObject = .ok t)
    (hurl : requestUrl t now (ctx.objectKey path) .createWrite = .ok url)
    (hsize : s.options.blockSize ≤ maxPieceSize) (hlong : s.options.blockSize ≤ p.bytes.size) :
    s.LeavesFailures now ctx path p n t url where
  requests := uploadRequests hurl s.options _
  direct _ := s.redirects.run_of_stay
  refused _ _ := put_of_block_refused ht hurl hsize hlong
  obstructed _ hobstacle hblocks := by
    rw [put_of_blocks_succeed ht hurl hsize hlong hblocks, hobstacle]
  unwritable hunwritable hobstacle hblocks :=
    put_of_commit_unwritable ht hurl hsize hlong hblocks hobstacle hunwritable
  uncommitted hwritable hobstacle hblocks :=
    put_of_commit_refused ht hurl hsize hlong hblocks hobstacle hwritable
  reader _ := obstacle?_of_fails

end Azure

end Fleet
