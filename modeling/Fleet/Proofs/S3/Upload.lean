import Fleet.Proofs.Objects.Pieces
import Fleet.Proofs.S3.Request

/-!
# `Fleet.Proofs.S3.Upload`: how uploads in parts run

An upload in parts is a list of requests that is known in advance but for the tags of the parts,
which are those of the replies: the upload is begun, each body is sent as a part, and the parts are
listed to complete it. `partPlan` is that list after the beginning. Where something stands in the
way of sending all bodies the completion is not part of it.

`putParts_of_begun` says what becomes of the plan: it is relayed up to the first request that is not
granted. If that is not the end of it, because of such a request or because something stood in the
way, one request follows, which aborts the upload (`abortParts_run`).

Whether a reply grants a request is up to the `Reading`. A request whose headers cannot be written
is not sent; only the kind of the contents, which is configured, can be like that.
-/

set_option autoImplicit false

namespace Fleet.S3

open Fleet.Http Fleet.Text Fleet.Url

/-! ### Requests and refusals -/

/-- The error for a request that is refused, or not replied to. -/
def refusal (op : ObjectOp) (r : Request) : Option Reply → ObjectError
  | none => failure op ("no reply from " ++ r.url)
  | some reply => if reply.status = 404 then .notFound else failure op (statusText reply.status)

/-- The error for a request whose headers cannot be written. -/
def unwritten (op : ObjectOp) : ObjectError := failure op "failed to construct request"

/-- The error for a payload of more than `maxParts` parts. -/
def tooManyParts : ObjectError :=
  failure .putObject ("payload exceeds " ++ Nat.repr maxParts ++ " multipart parts")

/-- Hands over a request of an upload whose reply is of no use. -/
def deliver (reading : Reading) (r : Request) : Exchanging ObjectError Unit :=
  discard (send reading .putObject r)

variable {reading : Reading} {r : Request} {n : Network}

/-- A request with a header that cannot be written is never sent. -/
theorem send_of_unwritable (reading : Reading) (op : ObjectOp)
    (hunwritable : r.headers.all isWritableHeader = false) (n : Network) :
    send reading op r n = (.error (unwritten op), n) := by
  rw [send, hunwritable]
  rfl

/-- A request that is granted is answered with its reply. -/
theorem send_of_grants (op : ObjectOp) (hwritable : r.headers.all isWritableHeader = true)
    (h : n.grants reading.accepts 0 r = true) :
    ∃ reply, n.replyAt 0 = some reply ∧ send reading op r n = (.ok reply, n.after [r]) := by
  obtain ⟨reply, hreply, haccepts⟩ := Network.exists_of_grants h
  refine ⟨reply, hreply, ?_⟩
  rw [send, hwritable]
  refine (Exchanging.bind_ok (Exchanging.ask_run r n)).trans ?_
  rw [hreply]
  dsimp only
  rw [if_pos haccepts]
  rfl

/-- A request that is not granted fails, with an error made from the reply or from its absence. -/
theorem send_of_refused (op : ObjectOp) (hwritable : r.headers.all isWritableHeader = true)
    (h : n.grants reading.accepts 0 r = false) :
    send reading op r n = (.error (refusal op r (n.replyAt 0)), n.after [r]) := by
  rw [Network.grants] at h
  rw [send, hwritable]
  refine (Exchanging.bind_ok (Exchanging.ask_run r n)).trans ?_
  cases hreply : n.replyAt 0 with
  | none => rfl
  | some reply =>
    have hrefused : reading.accepts r reply = false := by simpa [hreply] using h
    dsimp only
    rw [hrefused, if_neg Bool.false_ne_true, refusal]
    split <;> rfl

/-- A request whose reply is of no use is delivered if it is granted. -/
theorem deliver_of_grants (hwritable : r.headers.all isWritableHeader = true)
    (h : n.grants reading.accepts 0 r = true) : deliver reading r n = (.ok (), n.after [r]) := by
  obtain ⟨reply, -, hsend⟩ := send_of_grants .putObject hwritable h
  exact Exchanging.bind_ok hsend

/-- A request whose reply is of no use fails if it is not granted, as an upload. -/
theorem deliver_of_refused (hwritable : r.headers.all isWritableHeader = true)
    (h : n.grants reading.accepts 0 r = false) :
    deliver reading r n = (.error (refusal .putObject r (n.replyAt 0)), n.after [r]) :=
  Exchanging.bind_error (send_of_refused .putObject hwritable h)

variable {rs : List Request}

/-- Requests that are granted are all sent. -/
theorem relay_of_grants (hwritable : ∀ r ∈ rs, r.headers.all isWritableHeader = true)
    (h : n.GrantsAll reading.accepts rs) :
    Exchanging.relay (deliver reading) rs n = (.ok (), n.after rs) := by
  refine Exchanging.relay_of_delivered (m := n.after) fun i r hr => ?_
  have hi : i < rs.length := (List.getElem?_eq_some_iff.1 hr).1
  have hgrants : (n.after (rs.take i)).grants reading.accepts 0 r = true := by
    rw [Network.grants_after, List.length_take_of_le hi.le]
    exact h i r hr
  rw [deliver_of_grants (hwritable r (List.mem_of_getElem? hr)) hgrants, Network.after_append]

/-- The first request that is not granted is the last one that is sent. -/
theorem relay_of_refused (hwritable : ∀ r ∈ rs, r.headers.all isWritableHeader = true) {k : Nat}
    (hr : rs[k]? = some r) (hbefore : n.GrantsAll reading.accepts (rs.take k))
    (hrefused : n.grants reading.accepts k r = false) :
    Exchanging.relay (deliver reading) rs n
      = (.error (refusal .putObject r (n.replyAt k)), n.after (rs.take k ++ [r])) := by
  have hk : k < rs.length := (List.getElem?_eq_some_iff.1 hr).1
  have hposition : (rs.take k).length + 0 = k := List.length_take_of_le hk.le
  have hsent := relay_of_grants (fun r hr => hwritable r (List.mem_of_mem_take hr)) hbefore
  have hgrants : (n.after (rs.take k)).grants reading.accepts 0 r = false := by
    rw [Network.grants_after, hposition]
    exact hrefused
  have hfails := deliver_of_refused (hwritable r (List.mem_of_getElem? hr)) hgrants
  rw [Network.replyAt_after, hposition, ← Network.after_append] at hfails
  exact Exchanging.relay_of_failed hr hsent hfails

/-! ### Parts -/

/-- The requests that upload bodies as parts, of which some are there already. -/
def partRequests (place : Place) (id : String) (there : Nat) (bodies : List ByteArray) :
    List Request :=
  bodies.mapIdx fun i body => partRequest place id (there + i + 1) body

/-- The parts that a network takes for the next requests, of which some are there already. -/
def storedParts (n : Network) (there count : Nat) : List Part :=
  (List.range count).map fun i =>
    { number := there + i + 1, tag := (n.replyAt i).bind (·.header? "etag") }

variable (place : Place) (id : String)

/-- The first body is sent with the next number, and the other ones follow. -/
theorem partRequests_cons (there : Nat) (body : ByteArray) (bodies : List ByteArray) :
    partRequests place id there (body :: bodies)
      = partRequest place id (there + 1) body :: partRequests place id (there + 1) bodies := by
  have hshift : (fun i body => partRequest place id (there + (i + 1) + 1) body)
      = fun i body => partRequest place id (there + 1 + i + 1) body := by
    funext i body
    rw [Nat.add_assoc there 1 i, Nat.add_comm 1 i]
  rw [partRequests, List.mapIdx_cons, partRequests, hshift, Nat.add_zero]

/-- There is one request for each body. -/
theorem length_partRequests (there : Nat) (bodies : List ByteArray) :
    (partRequests place id there bodies).length = bodies.length :=
  List.length_mapIdx

/-- What a part is does not depend on what is configured, so its request can always be written. -/
theorem isWritable_partRequest (number : Nat) (body : ByteArray) :
    (partRequest place id number body).headers.all isWritableHeader = true :=
  show (contentHeader plainBytes).all isWritableHeader = true by decide

/-- The first stored part has the next number and the tag of the next reply, and the other ones
follow. -/
theorem storedParts_succ (there count : Nat) :
    storedParts n there (count + 1)
      = { number := there + 1, tag := (n.replyAt 0).bind (·.header? "etag") }
        :: storedParts (n.after [r]) (there + 1) count := by
  rw [storedParts, List.range_succ_eq_map, List.map_cons, List.map_map, storedParts]
  congr 1
  refine List.map_congr_left fun i _ => ?_
  rw [Function.comp_apply, Network.replyAt_after_singleton]
  congr 1
  omega

/-- The bodies are relayed as parts. Where nothing stands in the way the parts are known then. -/
theorem uploadParts_run (pieces : List Piece) (parts : List Part) (n : Network) :
    uploadParts reading place id parts pieces n =
      match Exchanging.relay (deliver reading) (partRequests place id parts.length
          (Piece.cut tooManyParts (maxParts - parts.length) pieces).1) n with
      | (.error e, n') => (.error e, n')
      | (.ok (), n') =>
        (match (Piece.cut tooManyParts (maxParts - parts.length) pieces).2 with
          | some e => .error e
          | none => .ok (parts ++ storedParts n parts.length
              (Piece.cut tooManyParts (maxParts - parts.length) pieces).1.length), n') := by
  induction pieces generalizing parts n with
  | nil =>
    simp [uploadParts, partRequests, storedParts, Exchanging.relay, Exchanging.pure_run]
  | cons piece rest ih =>
    cases piece with
    | error e =>
      simp [uploadParts, partRequests, Exchanging.relay, Exchanging.throw_run,
        Exchanging.pure_run]
    | ok body =>
      rw [uploadParts]
      cases hempty : body.isEmpty with
      | true =>
        simp [Piece.cut_of_isEmpty, hempty, partRequests, storedParts, Exchanging.relay,
          Exchanging.pure_run]
      | false =>
        cases hroom : maxParts - parts.length with
        | zero =>
          -- There is one part too many, and it is not sent.
          rw [if_neg Bool.false_ne_true, if_pos (by omega), Piece.cut_zero _ _ _ hempty]
          rfl
        | succ room =>
          -- The part takes one place of those that are left.
          have hnext (tag : Option String) :
              maxParts - (parts ++ [(⟨parts.length + 1, tag⟩ : Part)]).length = room := by
            rw [List.length_append, List.length_singleton]
            omega
          have hwritable := isWritable_partRequest place id (parts.length + 1) body
          rw [if_neg Bool.false_ne_true, if_neg (by omega), Piece.cut_succ _ _ _ _ hempty,
            partRequests_cons, Exchanging.relay]
          cases hgrants :
              n.grants reading.accepts 0 (partRequest place id (parts.length + 1) body) with
          | false =>
            rw [Exchanging.bind_error (deliver_of_refused hwritable hgrants)]
            exact Exchanging.bind_error (send_of_refused .putObject hwritable hgrants)
          | true =>
            obtain ⟨reply, hreply, hsend⟩ := send_of_grants .putObject hwritable hgrants
            rw [Exchanging.bind_ok (deliver_of_grants hwritable hgrants)]
            refine (Exchanging.bind_ok hsend).trans ?_
            rw [ih, hnext, List.length_append, List.length_singleton, List.length_cons,
              storedParts_succ (r := partRequest place id (parts.length + 1) body), hreply,
              List.append_assoc]
            rfl

/-! ### Uploads -/

/-- The requests of an upload once it is begun, if all are granted. -/
def partPlan (n : Network) (bodies : List ByteArray) (obstacle : Option ObjectError) :
    List Request :=
  partRequests place id 0 bodies ++ match obstacle with
    | none => [completeRequest place id (storedParts n 0 bodies.length)]
    | some _ => []

/-- The parts and their completion can always be written: none of their headers is configured. -/
theorem isWritable_of_mem_partPlan {bodies : List ByteArray} {obstacle : Option ObjectError}
    (hr : r ∈ partPlan place id n bodies obstacle) :
    r.headers.all isWritableHeader = true := by
  unfold partPlan at hr
  rcases List.mem_append.1 hr with hr | hr
  · obtain ⟨i, -, rfl⟩ := List.mem_mapIdx.1 hr
    exact isWritable_partRequest place id _ _
  · cases obstacle with
    | some e => cases hr
    | none =>
      rw [List.mem_singleton.1 hr]
      exact show (contentHeader "application/xml").all isWritableHeader = true by decide

/-- The parts and what completes them, if nothing stands in the way, are relayed. -/
theorem transfer_run (pieces : List Piece) (n : Network) :
    (do completeParts reading place id (← uploadParts reading place id [] pieces) :
        Exchanging ObjectError Unit) n =
      match Exchanging.relay (deliver reading) (partPlan place id n
          (Piece.cut tooManyParts maxParts pieces).1
          (Piece.cut tooManyParts maxParts pieces).2) n with
      | (.error e, n') => (.error e, n')
      | (.ok (), n') =>
        (match (Piece.cut tooManyParts maxParts pieces).2 with
          | some e => .error e
          | none => .ok (), n') := by
  have hparts : uploadParts reading place id [] pieces n = _ := uploadParts_run place id pieces [] n
  rw [List.length_nil, Nat.sub_zero] at hparts
  unfold partPlan
  rw [Exchanging.relay_append]
  cases hrelay : Exchanging.relay (deliver reading)
      (partRequests place id 0 (Piece.cut tooManyParts maxParts pieces).1) n with
  | mk x n' =>
    rw [hrelay] at hparts
    cases x with
    | error e => exact Exchanging.bind_error hparts
    | ok u =>
      -- The parts that were cut are up; what stopped the cutting stops the transfer.
      cases hobstacle : (Piece.cut tooManyParts maxParts pieces).2 with
      | some e =>
        rw [hobstacle] at hparts
        exact Exchanging.bind_error hparts
      | none =>
        rw [hobstacle] at hparts
        refine (Exchanging.bind_ok hparts).trans ?_
        rw [List.nil_append]
        dsimp only
        rw [Exchanging.relay_singleton]
        show deliver reading (completeRequest place id _) n' = _
        cases deliver reading (completeRequest place id
          (storedParts n 0 (Piece.cut tooManyParts maxParts pieces).1.length)) n' with
        | mk x n'' => cases x <;> rfl

/-- The error after an attempt to abort an upload: its cause, or both if aborting fails too. -/
def abortError (reading : Reading) (place : Place) (id : String) (cause : ObjectError)
    (reply : Option Reply) : ObjectError :=
  if reply.any (reading.accepts (abortRequest place id)) then cause
  else
    failure .putObject (cause.message ++ "; aborting multipart upload " ++ id ++ " failed: "
      ++ (refusal .putObject (abortRequest place id) reply).message)

/-- An abort is one request. Its reply decides whether the original failure is told alone or with
that of the abort. -/
theorem abortParts_run (cause : ObjectError) (n : Network) :
    abortParts reading place id cause n
      = (.error (abortError reading place id cause (n.replyAt 0)),
        n.after [abortRequest place id]) := by
  have hcaught := Exchanging.catch_run (deliver reading (abortRequest place id))
    (fun e => throw (failure .putObject
      (cause.message ++ "; aborting multipart upload " ++ id ++ " failed: " ++ e.message))) n
  rw [abortParts, ← abortRequest, abortError, ← Network.grants]
  cases hgrants : n.grants reading.accepts 0 (abortRequest place id) with
  | true =>
    rw [deliver_of_grants rfl hgrants] at hcaught
    exact Exchanging.bind_ok hcaught
  | false =>
    rw [deliver_of_refused rfl hgrants] at hcaught
    exact Exchanging.bind_error hcaught

/-- The name of the upload that is begun by the next reply. -/
def begun? (reading : Reading) (o : Options) (place : Place) (n : Network) : Option String :=
  ((n.replyAt 0).filter (reading.accepts (beginRequest place o))).bind reading.uploadId?

/-- The error for an upload that is not begun: the request is refused, or the reply does not tell
the name of the upload. -/
def beginError (reading : Reading) (o : Options) (place : Place) (reply : Option Reply) :
    ObjectError :=
  if reply.any (reading.accepts (beginRequest place o)) then
    failure .putObject "multipart upload id missing"
  else refusal .putObject (beginRequest place o) reply

/-- Beginning an upload is one request. It fails unless the reply grants it and holds an upload
id. -/
theorem beginParts_run {o : Options} (hwritable : IsWritable o.contentType) (n : Network) :
    beginParts reading o place n
      = ((match begun? reading o place n with
        | some id => .ok id
        | none => .error (beginError reading o place (n.replyAt 0))),
        n.after [beginRequest place o]) := by
  rw [← isWritable_beginRequest_iff place] at hwritable
  rw [begun?, beginError, ← Network.grants]
  cases hgrants : n.grants reading.accepts 0 (beginRequest place o) with
  | false =>
    have hnone : (n.replyAt 0).filter (reading.accepts (beginRequest place o)) = none := by
      rw [Network.grants] at hgrants
      cases hreply : n.replyAt 0 with
      | none => rfl
      | some reply => simpa [hreply] using hgrants
    rw [hnone]
    exact Exchanging.bind_error (send_of_refused .putObject hwritable hgrants)
  | true =>
    obtain ⟨reply, hreply, hsend⟩ := send_of_grants .putObject hwritable hgrants
    have hsome : (n.replyAt 0).filter (reading.accepts (beginRequest place o)) = some reply := by
      rw [Network.grants] at hgrants
      simpa [hreply] using hgrants
    rw [hsome, Option.bind_some]
    refine (Exchanging.bind_ok hsend).trans ?_
    -- A reply that is accepted may still name no upload.
    cases reading.uploadId? reply <;> rfl

/-- An upload whose beginning cannot be written sends nothing. -/
theorem putParts_of_unwritable {o : Options} (hunwritable : ¬ IsWritable o.contentType)
    (pieces : List Piece) (n : Network) :
    putParts reading o place pieces n = (.error (unwritten .putObject), n) := by
  rw [← isWritable_beginRequest_iff place, Bool.not_eq_true] at hunwritable
  have hbegin : beginParts reading o place n = (.error (unwritten .putObject), n) :=
    Exchanging.bind_error (send_of_unwritable reading .putObject hunwritable n)
  exact Exchanging.bind_error hbegin

/-- An upload that is not begun ends with that. -/
theorem putParts_of_not_begun {o : Options} {n : Network} (hwritable : IsWritable o.contentType)
    (pieces : List Piece) (h : begun? reading o place n = none) :
    putParts reading o place pieces n
      = (.error (beginError reading o place (n.replyAt 0)), n.after [beginRequest place o]) := by
  have hbegin : beginParts reading o place n = _ := beginParts_run place hwritable n
  rw [h] at hbegin
  exact Exchanging.bind_error hbegin

variable {place id}

/-- An upload that is begun relays its plan. Whatever ends it before it is completed, it is
aborted. -/
theorem putParts_of_begun {o : Options} {n : Network} (hwritable : IsWritable o.contentType)
    (pieces : List Piece) (h : begun? reading o place n = some id) :
    putParts reading o place pieces n =
      match Exchanging.relay (deliver reading)
          (partPlan place id (n.after [beginRequest place o])
            (Piece.cut tooManyParts maxParts pieces).1
            (Piece.cut tooManyParts maxParts pieces).2) (n.after [beginRequest place o]) with
      | (.error e, n') => abortParts reading place id e n'
      | (.ok (), n') =>
        match (Piece.cut tooManyParts maxParts pieces).2 with
        | some e => abortParts reading place id e n'
        | none => (.ok (), n') := by
  have hbegin : beginParts reading o place n = _ := beginParts_run place hwritable n
  rw [h] at hbegin
  refine (Exchanging.bind_ok hbegin).trans ?_
  rw [Exchanging.catch_run, transfer_run]
  cases Exchanging.relay (deliver reading) (partPlan place id (n.after [beginRequest place o])
    (Piece.cut tooManyParts maxParts pieces).1 (Piece.cut tooManyParts maxParts pieces).2)
    (n.after [beginRequest place o]) with
  | mk x n' =>
    cases x with
    | error e => rfl
    | ok u => cases (Piece.cut tooManyParts maxParts pieces).2 <;> rfl

/-! ### Payloads -/

/-- Parts are never empty by their size, whatever is configured. -/
theorem partSize_pos (o : Options) : 0 < o.partSize := by
  have hle : minPartSize ≤ o.partSize := Nat.le_max_right _ _
  exact Nat.lt_of_lt_of_le (by decide) hle

variable {s : Storage} {ctx : Context} {path : String} {p : Payload} {t : Target}

/-- Where there cannot be room for a part nothing is sent. -/
theorem put_of_oversized (ht : s.target ctx = .ok t) (hsize : maxPieceSize < s.options.partSize)
    (n : Network) : s.put ctx path p n = (.error (.io "capacity overflow"), n) := by
  rw [Storage.put, Payload.read_of_lt hsize]
  exact Exchanging.bind_ok ((Exchanging.lift_run _).trans (congrArg (·, n) ht))

/-- Where an object has no address nothing is sent. -/
theorem put_of_unplaced {e : ObjectError} (ht : s.target ctx = .ok t)
    (hnone : t.objectPlace .putObject (ctx.objectKey path) = .error e)
    (hsize : s.options.partSize ≤ maxPieceSize) (hreads : p.failure = none) (n : Network) :
    s.put ctx path p n = (.error e, n) := by
  have hupload : upload s.reading s.options t (ctx.objectKey path) (p.read s.options.partSize) n
      = (.error e, n) := by
    rcases Nat.lt_or_ge p.bytes.size s.options.partSize with hshort | hlong
    · rw [Payload.read_of_short hsize hreads hshort]
      exact Exchanging.bind_error ((Exchanging.lift_run _).trans (congrArg (·, n) hnone))
    · obtain ⟨first, second, rest, hpieces⟩ :=
        Payload.exists_pieces_of_le (partSize_pos _) hlong
      rw [Payload.read_of_le hsize, hpieces]
      exact Exchanging.bind_error ((Exchanging.lift_run _).trans (congrArg (·, n) hnone))
  rw [Storage.put]
  exact (Exchanging.bind_ok ((Exchanging.lift_run _).trans (congrArg (·, n) ht))).trans hupload

section
variable (ht : s.target ctx = .ok t)
  (hplace : t.objectPlace .putObject (ctx.objectKey path) = .ok place)
  (hsize : s.options.partSize ≤ maxPieceSize)
include ht hplace hsize

/-- A payload that is shorter than a part is uploaded by one request. -/
theorem put_of_short (hreads : p.failure = none) (hshort : p.bytes.size < s.options.partSize)
    (n : Network) :
    s.put ctx path p n = deliver s.reading (putRequest place s.options p.bytes) n := by
  rw [Storage.put, Payload.read_of_short hsize hreads hshort]
  refine (Exchanging.bind_ok ((Exchanging.lift_run _).trans (congrArg (·, n) ht))).trans ?_
  exact Exchanging.bind_ok ((Exchanging.lift_run _).trans (congrArg (·, n) hplace))

/-- That is the only request if it is granted. -/
theorem put_of_short_granted (hwritable : IsWritable s.options.contentType)
    (hreads : p.failure = none) (hshort : p.bytes.size < s.options.partSize)
    (hgrants : n.grants s.reading.accepts 0 (putRequest place s.options p.bytes) = true) :
    ∃ n', s.put ctx path p n = (.ok (), n') ∧
      n'.requests = n.requests ++ [putRequest place s.options p.bytes] := by
  refine ⟨_, ?_, Network.requests_after_singleton (Network.isSome_of_grants hgrants)⟩
  rw [put_of_short ht hplace hsize hreads hshort]
  exact deliver_of_grants (isWritable_putRequest place hwritable _) hgrants

/-- A payload that fills a part is uploaded in parts. -/
theorem put_of_long (hlong : s.options.partSize ≤ p.bytes.size) (n : Network) :
    s.put ctx path p n
      = putParts s.reading s.options place (p.pieces s.options.partSize) n := by
  obtain ⟨first, second, rest, hpieces⟩ := Payload.exists_pieces_of_le (partSize_pos _) hlong
  rw [Storage.put, Payload.read_of_le hsize, hpieces]
  refine (Exchanging.bind_ok ((Exchanging.lift_run _).trans (congrArg (·, n) ht))).trans ?_
  exact Exchanging.bind_ok ((Exchanging.lift_run _).trans (congrArg (·, n) hplace))

end

/-! ### How an upload in parts ends -/

/-- The bodies of the parts of a payload. -/
def bodies (o : Options) (p : Payload) : List ByteArray :=
  (Piece.cut tooManyParts maxParts (p.pieces o.partSize)).1

/-- What stands in the way of sending a payload whole. -/
def obstacle? (o : Options) (p : Payload) : Option ObjectError :=
  (Piece.cut tooManyParts maxParts (p.pieces o.partSize)).2

/-- A payload that fits is sent whole. -/
theorem bodies_of_fits {o : Options} (hreads : p.failure = none)
    (hfit : p.bytes.size ≤ maxParts * o.partSize) :
    Payload.Cut o.partSize p.bytes (bodies o p) ∧ obstacle? o p = none :=
  Payload.cut_pieces tooManyParts (partSize_pos o) hfit hreads

/-- A reader that fails stands in the way, unless there are too many parts before that. -/
theorem obstacle?_of_fails {o : Options} {detail : String} (hfails : p.failure = some detail) :
    obstacle? o p
      = some (if p.bytes.size / o.partSize ≤ maxParts then .io detail else tooManyParts) :=
  Payload.obstacle_pieces tooManyParts (partSize_pos o) hfails

/-- With nothing in the way, the parts are followed by their completion. -/
theorem partPlan_of_none (n : Network) (bodies : List ByteArray) :
    partPlan place id n bodies none
      = partRequests place id 0 bodies
        ++ [completeRequest place id (storedParts n 0 bodies.length)] :=
  rfl

/-- All requests of an upload of which nothing is refused. -/
def wholePlan (o : Options) (place : Place) (id : String) (p : Payload) (n : Network) :
    List Request :=
  beginRequest place o
    :: partPlan place id (n.after [beginRequest place o]) (bodies o p) (obstacle? o p)

/-- Aborting comes last, whatever was sent since the upload was begun. -/
theorem abortParts_after (o : Options) (cause : ObjectError) (sent : List Request) :
    abortParts reading place id cause ((n.after [beginRequest place o]).after sent)
      = (.error (abortError reading place id cause (n.replyAt (sent.length + 1))),
        n.after (beginRequest place o :: sent ++ [abortRequest place id])) := by
  rw [abortParts_run, Network.replyAt_after, Network.replyAt_after_singleton,
    Network.after_append, Network.after_cons]
  rfl

section
variable (ht : s.target ctx = .ok t)
  (hplace : t.objectPlace .putObject (ctx.objectKey path) = .ok place)
  (hsize : s.options.partSize ≤ maxPieceSize) (hlong : s.options.partSize ≤ p.bytes.size)
include ht hplace hsize hlong

/-- Nothing is sent if the kind of the contents cannot be said. -/
theorem put_of_unwritable (hunwritable : ¬ IsWritable s.options.contentType) (n : Network) :
    s.put ctx path p n = (.error (unwritten .putObject), n) := by
  rw [put_of_long ht hplace hsize hlong, putParts_of_unwritable _ hunwritable]

variable (hwritable : IsWritable s.options.contentType)
include hwritable

/-- Without a name of the upload there is nothing to abort. -/
theorem put_of_not_begun (hbegun : begun? s.reading s.options place n = none) :
    s.put ctx path p n
      = (.error (beginError s.reading s.options place (n.replyAt 0)),
        n.after [beginRequest place s.options]) := by
  rw [put_of_long ht hplace hsize hlong, putParts_of_not_begun _ hwritable _ hbegun]

variable (hbegun : begun? s.reading s.options place n = some id)
include hbegun

/-- An upload of which all is granted is completed. -/
theorem put_of_granted (hobstacle : obstacle? s.options p = none)
    (hgrants : n.GrantsAll s.reading.accepts (wholePlan s.options place id p n)) :
    s.put ctx path p n = (.ok (), n.after (wholePlan s.options place id p n)) := by
  have hrelay := relay_of_grants (fun r hr => isWritable_of_mem_partPlan place id hr) hgrants.tail
  rw [put_of_long ht hplace hsize hlong, putParts_of_begun hwritable _ hbegun, ← bodies,
    ← obstacle?, hrelay, hobstacle, wholePlan, hobstacle]
  rfl

/-- A request of the plan that is refused is the last one but for that which aborts. -/
theorem put_of_refused {k : Nat}
    (hr : (partPlan place id (n.after [beginRequest place s.options]) (bodies s.options p)
      (obstacle? s.options p))[k]? = some r)
    (hbefore : n.GrantsAll s.reading.accepts
      ((wholePlan s.options place id p n).take (k + 1)))
    (hrefused : n.grants s.reading.accepts (k + 1) r = false) :
    s.put ctx path p n
      = (.error (abortError s.reading place id (refusal .putObject r (n.replyAt (k + 1)))
          (n.replyAt (k + 2))),
        n.after ((wholePlan s.options place id p n).take (k + 1)
          ++ [r, abortRequest place id])) := by
  have hk := (List.getElem?_eq_some_iff.1 hr).1
  have hgrants : (n.after [beginRequest place s.options]).grants s.reading.accepts k r = false := by
    rwa [Network.grants_after_singleton]
  have hrelay := relay_of_refused (fun r hr => isWritable_of_mem_partPlan place id hr) hr
    hbefore.tail hgrants
  rw [put_of_long ht hplace hsize hlong, putParts_of_begun hwritable _ hbegun, ← bodies,
    ← obstacle?, hrelay]
  dsimp only
  rw [abortParts_after, List.length_append, List.length_take_of_le hk.le, List.length_singleton,
    Network.replyAt_after_singleton, wholePlan, List.take_succ_cons, ← List.cons_append,
    List.append_assoc]
  rfl

/-- What stands in the way of sending all is noticed after the parts in front of it. -/
theorem put_of_obstacle {e : ObjectError} (hobstacle : obstacle? s.options p = some e)
    (hgrants : n.GrantsAll s.reading.accepts (wholePlan s.options place id p n)) :
    s.put ctx path p n
      = (.error (abortError s.reading place id e (n.replyAt ((bodies s.options p).length + 1))),
        n.after (wholePlan s.options place id p n ++ [abortRequest place id])) := by
  have hrelay := relay_of_grants (fun r hr => isWritable_of_mem_partPlan place id hr) hgrants.tail
  have hlength : (partPlan place id (n.after [beginRequest place s.options])
      (bodies s.options p) (some e)).length = (bodies s.options p).length := by
    simp [partPlan, length_partRequests]
  rw [put_of_long ht hplace hsize hlong, putParts_of_begun hwritable _ hbegun, ← bodies,
    ← obstacle?, hrelay, hobstacle]
  dsimp only
  rw [abortParts_after, hlength, wholePlan, hobstacle]

end

end Fleet.S3
