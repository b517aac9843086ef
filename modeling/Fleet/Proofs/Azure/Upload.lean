import Fleet.Proofs.Azure.Request
import Fleet.Proofs.Objects.Pieces

/-!
# `Fleet.Proofs.Azure.Upload`: how uploads in blocks run

Bodies are staged one after another under names that count them, and the list of these names is
committed at the end. Each request is sent with those that follow replies which lead elsewhere, and
it fails if that does not come to a reply of success (`Redirects.succeeds`). Staging relays the
blocks up to the first that fails (`stage_run`), and whatever ends an upload before the commit,
nothing is sent after that (`put_of_long`).

A request can also fail before it is sent, because a header of it cannot be written. That is never
so for a block.
-/

set_option autoImplicit false

namespace Fleet.Azure

open Fleet.Http Fleet.Time

/-! ### Requests and refusals -/

/-- The error for a request whose headers cannot be written. -/
def unwritten (activity : String) : ObjectError := failure .putObject activity "builder error"

/-- The error for a payload of more than `maxBlocks` blocks. -/
def tooManyBlocks : ObjectError :=
  failure .putObject "failed to upload blob"
    ("payload exceeds " ++ Nat.repr maxBlocks ++ " blocks")

/-- Hands over a request of an upload whose reply is of no use. -/
def deliver (c : Redirects) (activity : String) (r : Request) : Exchanging ObjectError Unit :=
  discard (send c .putObject activity r)

variable {c : Redirects} {r : Request} {n : Network}

/-- A request with a header that cannot be written is never sent. -/
theorem deliver_of_unwritable (c : Redirects) (activity : String)
    (hunwritable : r.headers.all isWritableHeader = false) (n : Network) :
    deliver c activity r n = (.error (unwritten activity), n) := by
  rw [deliver, send, hunwritable]
  rfl

/-- A request that can be written ends with what the service says in the end. -/
theorem send_run (c : Redirects) (op : ObjectOp) (activity : String)
    (hwritable : r.headers.all isWritableHeader = true) (n : Network) :
    send c op activity r n = (accepted op activity r (c.outcome n r), c.run n [r]) := by
  rw [send, hwritable]
  exact Exchanging.bind_ok c.deliver_run

/-- A request that succeeds, at the end of its redirections, is answered with that reply. -/
theorem send_of_succeeds (op : ObjectOp) (activity : String)
    (hwritable : r.headers.all isWritableHeader = true) (h : c.succeeds n r = true) :
    ∃ reply, send c op activity r n = (.ok reply, c.run n [r]) := by
  rw [send_run c op activity hwritable]
  rw [Redirects.succeeds] at h
  cases houtcome : c.outcome n r with
  | silence => simp [houtcome] at h
  | failure reason => simp [houtcome] at h
  | reply reply =>
    have hsuccess : reply.isSuccess = true := by simpa [houtcome] using h
    exact ⟨reply, by rw [accepted, if_pos hsuccess]⟩

/-- A request whose reply is of no use is delivered if it succeeds. -/
theorem deliver_of_succeeds (activity : String)
    (hwritable : r.headers.all isWritableHeader = true) (h : c.succeeds n r = true) :
    deliver c activity r n = (.ok (), c.run n [r]) := by
  obtain ⟨reply, hsend⟩ := send_of_succeeds .putObject activity hwritable h
  exact Exchanging.bind_ok hsend

/-- What does not come to a reply of success is an error. -/
theorem deliver_of_refused (activity : String)
    (hwritable : r.headers.all isWritableHeader = true) (h : c.succeeds n r = false) :
    ∃ e, accepted .putObject activity r (c.outcome n r) = .error e ∧
      deliver c activity r n = (.error e, c.run n [r]) := by
  have hrefused : ∃ e, accepted .putObject activity r (c.outcome n r) = .error e := by
    rw [Redirects.succeeds] at h
    cases houtcome : c.outcome n r with
    | silence => exact ⟨_, rfl⟩
    | failure reason => exact ⟨_, rfl⟩
    | reply reply =>
      have hsuccess : reply.isSuccess = false := by simpa [houtcome] using h
      rw [accepted, if_neg (by simp [hsuccess])]
      split <;> exact ⟨_, rfl⟩
  obtain ⟨e, he⟩ := hrefused
  refine ⟨e, he, Exchanging.bind_error ?_⟩
  rw [send_run c .putObject activity hwritable, he]

variable {rs : List Request} (activity : String)

/-- Requests that succeed are all sent. -/
theorem relay_of_succeeds (hwritable : ∀ r ∈ rs, r.headers.all isWritableHeader = true)
    (h : c.SucceedsAll n rs) :
    Exchanging.relay (deliver c activity) rs n = (.ok (), c.run n rs) := by
  refine Exchanging.relay_of_delivered (m := c.run n) fun i r hr => ?_
  rw [deliver_of_succeeds activity (hwritable r (List.mem_of_getElem? hr)) (h i r hr),
    Redirects.run_append]

/-- The first request that fails is the last one that is sent. -/
theorem relay_of_refused (hwritable : ∀ r ∈ rs, r.headers.all isWritableHeader = true) {k : Nat}
    (hr : rs[k]? = some r) (hbefore : c.SucceedsAll n (rs.take k))
    (hrefused : c.succeeds (c.run n (rs.take k)) r = false) :
    ∃ e, accepted .putObject activity r (c.outcome (c.run n (rs.take k)) r) = .error e ∧
      Exchanging.relay (deliver c activity) rs n = (.error e, c.run n (rs.take k ++ [r])) := by
  have hsent := relay_of_succeeds activity (fun r hr => hwritable r (List.mem_of_mem_take hr))
    hbefore
  obtain ⟨e, he, hfails⟩ :=
    deliver_of_refused activity (hwritable r (List.mem_of_getElem? hr)) hrefused
  refine ⟨e, he, ?_⟩
  rw [Redirects.run_append]
  exact Exchanging.relay_of_failed hr hsent hfails

/-! ### Blocks -/

/-- The requests that stage bodies as blocks, of which some are there already. -/
def blockRequests (url : Url) (there : Nat) (bodies : List ByteArray) : List Request :=
  List.zipWith (blockRequest url) (blockIds there bodies.length) bodies

variable (url : Url)

/-- The first body is staged under the next name, and the other ones follow. -/
theorem blockRequests_cons (there : Nat) (body : ByteArray) (bodies : List ByteArray) :
    blockRequests url there (body :: bodies)
      = blockRequest url (blockId there) body :: blockRequests url (there + 1) bodies := by
  rw [blockRequests, List.length_cons, blockIds_succ, List.zipWith_cons_cons, blockRequests]

/-- There is one request for each body. -/
theorem length_blockRequests (there : Nat) (bodies : List ByteArray) :
    (blockRequests url there bodies).length = bodies.length := by
  simp [blockRequests, blockIds]

/-- What holds of each block that may be staged holds of the requests that stage some. -/
theorem of_mem_blockRequests {P : Request → Prop} (hP : ∀ id body, P (blockRequest url id body))
    {there : Nat} {bodies : List ByteArray} (hr : r ∈ blockRequests url there bodies) : P r := by
  induction bodies generalizing there with
  | nil => cases hr
  | cons body bodies ih =>
    rw [blockRequests_cons] at hr
    rcases List.mem_cons.1 hr with rfl | hr
    · exact hP _ body
    · exact ih hr

/-- All blocks can be written, whatever is configured. -/
theorem isWritable_of_mem_blockRequests {there : Nat} {bodies : List ByteArray}
    (hr : r ∈ blockRequests url there bodies) : r.headers.all isWritableHeader = true :=
  of_mem_blockRequests (P := fun r => r.headers.all isWritableHeader = true) url
    isWritable_blockRequest hr

/-- The bodies are relayed as blocks. -/
theorem stage_run (pieces : List Piece) (ids : List String) (n : Network) :
    stage c url ids pieces n =
      match Exchanging.relay (deliver c "failed to stage block") (blockRequests url ids.length
          (Piece.cut tooManyBlocks (maxBlocks - ids.length) pieces).1) n with
      | (.error e, n') => (.error e, n')
      | (.ok (), n') =>
        (match (Piece.cut tooManyBlocks (maxBlocks - ids.length) pieces).2 with
          | some e => .error e
          | none => .ok (ids ++ blockIds ids.length
              (Piece.cut tooManyBlocks (maxBlocks - ids.length) pieces).1.length), n') := by
  induction pieces generalizing ids n with
  | nil => simp [stage, blockRequests, blockIds, Exchanging.relay, Exchanging.pure_run]
  | cons piece rest ih =>
    cases piece with
    | error e =>
      simp [stage, blockRequests, Exchanging.relay, Exchanging.throw_run, Exchanging.pure_run]
    | ok body =>
      rw [stage]
      cases hempty : body.isEmpty with
      | true =>
        simp [Piece.cut_of_isEmpty, hempty, blockRequests, blockIds, Exchanging.relay,
          Exchanging.pure_run]
      | false =>
        cases hroom : maxBlocks - ids.length with
        | zero =>
          -- There is one block too many, and it is not sent.
          rw [if_neg Bool.false_ne_true, if_pos (by omega), Piece.cut_zero _ _ _ hempty]
          rfl
        | succ room =>
          -- The block takes one place of those that are left.
          have hnext : maxBlocks - (ids ++ [blockId ids.length]).length = room := by
            rw [List.length_append, List.length_singleton]
            omega
          rw [if_neg Bool.false_ne_true, if_neg (by omega), Piece.cut_succ _ _ _ _ hempty,
            blockRequests_cons, Exchanging.relay]
          cases hblock : deliver c "failed to stage block"
              (blockRequest url (blockId ids.length) body) n with
          | mk x n' =>
            cases x with
            | error e =>
              rw [Exchanging.bind_error hblock]
              exact Exchanging.bind_error hblock
            | ok u =>
              rw [Exchanging.bind_ok hblock]
              refine (Exchanging.bind_ok hblock).trans ?_
              rw [ih, hnext, List.length_append, List.length_singleton, List.length_cons,
                blockIds_succ, List.append_assoc]
              rfl

/-! ### Payloads -/

/-- Blocks are never empty by their size, whatever is configured. -/
theorem blockSize_pos (o : Options) : 0 < o.blockSize := by
  have hmin : 0 < minBlockSize := by decide
  have hdefault : 0 < defaultBlockSize := by decide
  rw [Options.blockSize]
  split <;> omega

variable {url} {s : Storage} {now : Instant} {ctx : Context} {path : String} {p : Payload}
  {t : Target}

/-- Where there cannot be room for a block nothing is sent. -/
theorem put_of_oversized (ht : s.target ctx .putObject = .ok t)
    (hsize : maxPieceSize < s.options.blockSize) (n : Network) :
    s.put now ctx path p n = (.error (.io "capacity overflow"), n) := by
  rw [Storage.put, Payload.read_of_lt hsize]
  exact Exchanging.bind_ok ((Exchanging.lift_run _).trans (congrArg (·, n) ht))

/-- Where it is not known in which account a blob is to be nothing is sent. -/
theorem put_of_untargeted {e : ObjectError} (ht : s.target ctx .putObject = .error e)
    (n : Network) : s.put now ctx path p n = (.error e, n) := by
  rw [Storage.put]
  exact Exchanging.bind_error ((Exchanging.lift_run _).trans (congrArg (·, n) ht))

section
variable (ht : s.target ctx .putObject = .ok t)
  (hurl : requestUrl t now (ctx.objectKey path) .createWrite = .ok url)
  (hsize : s.options.blockSize ≤ maxPieceSize)
include ht hurl hsize

/-- A payload that is shorter than a block is uploaded by one request. -/
theorem put_of_short (hreads : p.failure = none) (hshort : p.bytes.size < s.options.blockSize)
    (n : Network) : s.put now ctx path p n = deliver s.redirects "failed to upload blob"
      (putRequest s.options url (s.options.uploadDisposition path) p.bytes) n := by
  rw [Storage.put, Payload.read_of_short hsize hreads hshort]
  refine (Exchanging.bind_ok ((Exchanging.lift_run _).trans (congrArg (·, n) ht))).trans ?_
  exact Exchanging.bind_ok ((Exchanging.lift_run _).trans (congrArg (·, n) hurl))

/-- That is the only request if it succeeds. -/
theorem put_of_short_succeeds
    (hwritable : IsWritable s.options.contentType ∧ IsWritable (s.options.uploadDisposition path))
    (hreads : p.failure = none) (hshort : p.bytes.size < s.options.blockSize)
    (hsucceeds : n.succeeds 0 = true) : ∃ n', s.put now ctx path p n = (.ok (), n') ∧
      n'.requests = n.requests
        ++ [putRequest s.options url (s.options.uploadDisposition path) p.bytes] := by
  obtain ⟨reply, hreply, hsuccess⟩ := Network.exists_of_succeeds hsucceeds
  have hfollow := s.redirects.follow_of_stay s.redirects.limit hreply
    (s.redirects.stays (putRequest s.options url (s.options.uploadDisposition path) p.bytes) reply
      (Reply.leadsOn_of_isSuccess hsuccess))
  refine ⟨_, ?_, Network.requests_after_singleton (by rw [hreply]; rfl)⟩
  rw [put_of_short ht hurl hsize hreads hshort, deliver_of_succeeds _
    (isWritable_putRequest_iff.2 hwritable) (by
      rw [Redirects.succeeds, Redirects.outcome, hfollow]
      exact hsuccess)]
  exact congrArg (Except.ok (), ·) (congrArg Prod.snd hfollow)

/-- A payload that fills a block is staged, and committed after that. -/
theorem put_eq_of_long (hlong : s.options.blockSize ≤ p.bytes.size) (n : Network) :
    s.put now ctx path p n
      = (do commit s.redirects s.options url (s.options.uploadDisposition path)
              (← stage s.redirects url [] (p.pieces s.options.blockSize)) :
          Exchanging ObjectError Unit) n := by
  obtain ⟨first, second, rest, hpieces⟩ := Payload.exists_pieces_of_le (blockSize_pos _) hlong
  rw [Storage.put, Payload.read_of_le hsize, hpieces]
  refine (Exchanging.bind_ok ((Exchanging.lift_run _).trans (congrArg (·, n) ht))).trans ?_
  exact Exchanging.bind_ok ((Exchanging.lift_run _).trans (congrArg (·, n) hurl))

/-- The commit comes only once all blocks are staged. -/
theorem put_of_long (hlong : s.options.blockSize ≤ p.bytes.size) (n : Network) :
    s.put now ctx path p n =
      match Exchanging.relay (deliver s.redirects "failed to stage block") (blockRequests url 0
          (Piece.cut tooManyBlocks maxBlocks (p.pieces s.options.blockSize)).1) n with
      | (.error e, n') => (.error e, n')
      | (.ok (), n') =>
        match (Piece.cut tooManyBlocks maxBlocks (p.pieces s.options.blockSize)).2 with
        | some e => (.error e, n')
        | none => deliver s.redirects "failed to commit block list"
            (commitRequest s.options url (s.options.uploadDisposition path) (blockIds 0
              (Piece.cut tooManyBlocks maxBlocks (p.pieces s.options.blockSize)).1.length)) n' := by
  have hstage := stage_run (c := s.redirects) url (p.pieces s.options.blockSize) [] n
  rw [List.length_nil, Nat.sub_zero] at hstage
  rw [put_eq_of_long ht hurl hsize hlong]
  cases hrelay : Exchanging.relay (deliver s.redirects "failed to stage block")
      (blockRequests url 0
        (Piece.cut tooManyBlocks maxBlocks (p.pieces s.options.blockSize)).1) n with
  | mk x n' =>
    rw [hrelay] at hstage
    cases x with
    | error e => exact Exchanging.bind_error hstage
    | ok u =>
      dsimp only at hstage ⊢
      -- All blocks are staged; the list is sent unless something stopped the cutting.
      cases hobstacle : (Piece.cut tooManyBlocks maxBlocks (p.pieces s.options.blockSize)).2 with
      | some e =>
        rw [hobstacle] at hstage
        exact Exchanging.bind_error hstage
      | none =>
        rw [hobstacle] at hstage
        exact Exchanging.bind_ok hstage

end

/-! ### How an upload in blocks ends -/

/-- The bodies of the blocks of a payload. -/
def bodies (o : Options) (p : Payload) : List ByteArray :=
  (Piece.cut tooManyBlocks maxBlocks (p.pieces o.blockSize)).1

/-- What stands in the way of staging a payload whole. -/
def obstacle? (o : Options) (p : Payload) : Option ObjectError :=
  (Piece.cut tooManyBlocks maxBlocks (p.pieces o.blockSize)).2

/-- There are no more blocks than there may be. -/
theorem length_bodies_le (o : Options) (p : Payload) : (bodies o p).length ≤ maxBlocks :=
  Piece.length_cut_le _ _ _

/-- A payload that fits is staged whole. -/
theorem bodies_of_fits {o : Options} (hreads : p.failure = none)
    (hfit : p.bytes.size ≤ maxBlocks * o.blockSize) :
    Payload.Cut o.blockSize p.bytes (bodies o p) ∧ obstacle? o p = none :=
  Payload.cut_pieces tooManyBlocks (blockSize_pos o) hfit hreads

/-- A reader that fails stands in the way, unless there are too many blocks before that. -/
theorem obstacle?_of_fails {o : Options} {detail : String} (hfails : p.failure = some detail) :
    obstacle? o p
      = some (if p.bytes.size / o.blockSize ≤ maxBlocks then .io detail else tooManyBlocks) :=
  Payload.obstacle_pieces tooManyBlocks (blockSize_pos o) hfails

/-- The request that commits all blocks of a payload. -/
def wholeCommit (o : Options) (url : Url) (disposition : Option String) (p : Payload) : Request :=
  commitRequest o url disposition (blockIds 0 (bodies o p).length)

section
variable (ht : s.target ctx .putObject = .ok t)
  (hurl : requestUrl t now (ctx.objectKey path) .createWrite = .ok url)
  (hsize : s.options.blockSize ≤ maxPieceSize) (hlong : s.options.blockSize ≤ p.bytes.size)
include ht hurl hsize hlong

/-- A block that fails is the last request. -/
theorem put_of_block_refused {k : Nat}
    (hr : (blockRequests url 0 (bodies s.options p))[k]? = some r)
    (hbefore : s.redirects.SucceedsAll n ((blockRequests url 0 (bodies s.options p)).take k))
    (hrefused : s.redirects.succeeds
      (s.redirects.run n ((blockRequests url 0 (bodies s.options p)).take k)) r = false) :
    ∃ e, accepted .putObject "failed to stage block" r (s.redirects.outcome
        (s.redirects.run n ((blockRequests url 0 (bodies s.options p)).take k)) r) = .error e ∧
      s.put now ctx path p n = (.error e,
        s.redirects.run n ((blockRequests url 0 (bodies s.options p)).take k ++ [r])) := by
  obtain ⟨e, he, hrelay⟩ := relay_of_refused "failed to stage block"
    (fun r hr => isWritable_of_mem_blockRequests url hr) hr hbefore hrefused
  exact ⟨e, he, by rw [put_of_long ht hurl hsize hlong, ← bodies, hrelay]⟩

variable (hblocks : s.redirects.SucceedsAll n (blockRequests url 0 (bodies s.options p)))
include hblocks

/-- Blocks that succeed are committed unless something stood in the way of staging all. -/
theorem put_of_blocks_succeed :
    s.put now ctx path p n = match obstacle? s.options p with
      | some e => (.error e, s.redirects.run n (blockRequests url 0 (bodies s.options p)))
      | none => deliver s.redirects "failed to commit block list"
          (wholeCommit s.options url (s.options.uploadDisposition path) p)
          (s.redirects.run n (blockRequests url 0 (bodies s.options p))) := by
  have hstaged := relay_of_succeeds "failed to stage block"
    (fun r hr => isWritable_of_mem_blockRequests url hr) hblocks
  rw [put_of_long ht hurl hsize hlong, ← bodies, ← obstacle?, hstaged]
  rfl

variable (hobstacle : obstacle? s.options p = none)
include hobstacle

/-- A commit that cannot be written is not sent. -/
theorem put_of_commit_unwritable (hunwritable : ¬ (IsWritable s.options.contentType ∧
      IsWritable (s.options.uploadDisposition path))) :
    s.put now ctx path p n = (.error (unwritten "failed to commit block list"),
      s.redirects.run n (blockRequests url 0 (bodies s.options p))) := by
  rw [put_of_blocks_succeed ht hurl hsize hlong hblocks, hobstacle]
  refine deliver_of_unwritable _ _ ?_ _
  rwa [wholeCommit, ← Bool.not_eq_true, isWritable_commitRequest_iff]

variable (hwritable : IsWritable s.options.contentType ∧
  IsWritable (s.options.uploadDisposition path))
include hwritable

/-- A commit that succeeds ends the upload well. -/
theorem put_of_commit_succeeds (hcommit : s.redirects.succeeds
      (s.redirects.run n (blockRequests url 0 (bodies s.options p)))
      (wholeCommit s.options url (s.options.uploadDisposition path) p) = true) :
    s.put now ctx path p n = (.ok (), s.redirects.run n
      (blockRequests url 0 (bodies s.options p)
        ++ [wholeCommit s.options url (s.options.uploadDisposition path) p])) := by
  rw [put_of_blocks_succeed ht hurl hsize hlong hblocks, hobstacle, Redirects.run_append]
  exact deliver_of_succeeds _ (isWritable_commitRequest_iff.2 hwritable) hcommit

/-- A commit that fails is the last request. -/
theorem put_of_commit_refused (hcommit : s.redirects.succeeds
      (s.redirects.run n (blockRequests url 0 (bodies s.options p)))
      (wholeCommit s.options url (s.options.uploadDisposition path) p) = false) :
    ∃ e, accepted .putObject "failed to commit block list"
        (wholeCommit s.options url (s.options.uploadDisposition path) p)
        (s.redirects.outcome (s.redirects.run n (blockRequests url 0 (bodies s.options p)))
          (wholeCommit s.options url (s.options.uploadDisposition path) p)) = .error e ∧
      s.put now ctx path p n = (.error e, s.redirects.run n
        (blockRequests url 0 (bodies s.options p)
          ++ [wholeCommit s.options url (s.options.uploadDisposition path) p])) := by
  obtain ⟨e, he, hfails⟩ := deliver_of_refused "failed to commit block list"
    (isWritable_commitRequest_iff.2 hwritable) hcommit
  rw [put_of_blocks_succeed ht hurl hsize hlong hblocks, hobstacle, Redirects.run_append]
  exact ⟨e, he, hfails⟩

end

end Fleet.Azure
