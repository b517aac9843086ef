import Fleet.Proofs.Objects.Upload

/-!
# `Fleet.Proofs.Objects.AtOnce`: payloads that are uploaded by one request

Both services decide by what is read first: a payload that ends within the first piece is uploaded
at once. One that fills the first piece to the last byte does not end there as far as can be told
from what was read, so it is uploaded in pieces, of which there is only one
(`exact_payloads_not_at_once`). That is where the line runs: a payload is uploaded at once exactly
if it is shorter than a piece, and for one that is not nothing like it is ever sent, whatever
becomes of the upload (`at_once_iff_short`).

The latter is shown of every request that an upload in pieces can send (`Exchanging.Sends`), those
included that follow replies which lead elsewhere.
-/

set_option autoImplicit false

namespace Fleet

open Fleet.Http Fleet.Time

variable {n : Network} {ctx : Context} {path : String} {p : Payload}

/-- If a task sends one request for what is short, and none of its kind for what is long, then
that request is all it sends exactly for what is short. -/
theorem sends_whole_iff {task : Exchanging ObjectError Unit} {IsWhole : Request → Prop}
    {whole : Request} {length size : Nat} (hwhole : IsWhole whole)
    (hshort : length < size →
      ∃ n', task n = (.ok (), n') ∧ n'.requests = n.requests ++ [whole])
    (hlong : size ≤ length → ∃ sent, (task n).2 = n.after sent ∧ ∀ r ∈ sent, ¬ IsWhole r) :
    (∃ n', task n = (.ok (), n') ∧ n'.requests = n.requests ++ [whole]) ↔ length < size := by
  refine ⟨?_, hshort⟩
  rintro ⟨n', htask, hrequests⟩
  refine Nat.lt_of_not_le fun hle => ?_
  obtain ⟨sent, hsent, hnone⟩ := hlong hle
  obtain ⟨got, hgot, hamong⟩ := Network.exists_requests_after n sent
  rw [← hsent, htask, hrequests] at hgot
  have hmem : whole ∈ got := by
    rw [← List.append_cancel_left hgot]
    exact List.mem_singleton_self _
  exact hnone _ (hamong _ hmem) hwhole

/-! ### Buckets -/

namespace S3

/-- A request that uploads an object at once. -/
def Place.IsWholePut (place : Place) (r : Request) : Prop :=
  ∃ body, place.Asks r "PUT" [("x-id", "PutObject")] body

variable (place : Place) {reading : Reading}

/-- What asks for something else does not upload an object at once. -/
theorem not_isWholePut_of_asks {place : Place} {r : Request} {method : String}
    {pairs : List Url.Pair} {body : ByteArray} (h : place.Asks r method pairs body)
    (hpairs : pairs ≠ [("x-id", "PutObject")]) : ¬ place.IsWholePut r := by
  rintro ⟨body', hwhole⟩
  exact hpairs (h.unique hwhole).2

/-- Sending one request sends no other. -/
theorem sends_send {P : Request → Prop} {r : Request} (hr : P r) (op : ObjectOp) :
    Exchanging.Sends P (send reading op r) := by
  intro n
  cases hwritable : r.headers.all isWritableHeader with
  | false => exact ⟨[], by rw [send_of_unwritable reading op hwritable]; rfl, nofun⟩
  | true =>
    refine ⟨[r], ?_, fun r' hr' => ?_⟩
    · cases hgrants : n.grants reading.accepts 0 r with
      | true =>
        obtain ⟨reply, -, hsend⟩ := send_of_grants op hwritable hgrants
        rw [hsend]
      | false => rw [send_of_refused op hwritable hgrants]
    · rwa [List.mem_singleton.1 hr']

/-- Uploading parts sends parts, whatever the pieces are. -/
theorem sends_uploadParts {P : Request → Prop} {id : String}
    (hpart : ∀ number body, P (partRequest place id number body)) (parts : List Part)
    (pieces : List Piece) : Exchanging.Sends P (uploadParts reading place id parts pieces) := by
  induction pieces generalizing parts with
  | nil => exact Exchanging.sends_pure parts
  | cons piece rest ih =>
    cases piece with
    | error e => exact Exchanging.sends_throw e
    | ok body =>
      rw [uploadParts]
      dsimp only
      split
      · exact Exchanging.sends_pure parts
      · split
        · exact (Exchanging.sends_throw _).bind fun _ =>
            (sends_send (hpart _ _) _).bind fun _ => ih _
        · exact (sends_send (hpart _ _) _).bind fun _ => ih _

/-- An upload in parts sends no request that uploads the object at once, however it ends. -/
theorem sends_putParts (o : Options) (pieces : List Piece) :
    Exchanging.Sends (fun r => ¬ place.IsWholePut r) (putParts reading o place pieces) := by
  have hbegin : ¬ place.IsWholePut (beginRequest place o) :=
    not_isWholePut_of_asks (asks_beginRequest place o) (by decide)
  have hpart (id : String) (number : Nat) (body : ByteArray) :
      ¬ place.IsWholePut (partRequest place id number body) :=
    not_isWholePut_of_asks (asks_partRequest place id number body) (by simp)
  have hcomplete (id : String) (parts : List Part) :
      ¬ place.IsWholePut (completeRequest place id parts) :=
    not_isWholePut_of_asks (asks_completeRequest place id parts) (by simp)
  have habort (id : String) : ¬ place.IsWholePut (abortRequest place id) :=
    not_isWholePut_of_asks (asks_abortRequest place id) (by simp)
  refine Exchanging.Sends.bind (Exchanging.Sends.bind (sends_send hbegin _) fun reply => ?_)
    fun id => ?_
  · cases reading.uploadId? reply with
    | some id => exact Exchanging.sends_pure id
    | none => exact Exchanging.sends_throw _
  · refine Exchanging.Sends.catch ?_ fun e => ?_
    · exact (sends_uploadParts place (hpart id) [] pieces).bind fun parts =>
        (sends_send (hcomplete id parts) _).discard
    · refine Exchanging.Sends.bind ?_ fun _ => Exchanging.sends_throw e
      exact Exchanging.Sends.catch (sends_send (habort id) _).discard fun _ =>
        Exchanging.sends_throw _

/-- When a bucket takes a payload at once. -/
structure Storage.PutsAtOnce (s : Storage) (ctx : Context) (path : String) (p : Payload)
    (n : Network) (place : Place) : Prop where
  requests : UploadRequests place s.options (ctx.objectKey path)
  /-- Where the request is granted and reading does not fail, that is so for short payloads. -/
  iff_short : p.failure = none → s.options.partSize ≤ maxPieceSize →
    IsWritable s.options.contentType →
    n.grants s.reading.accepts 0 (putRequest place s.options p.bytes) = true →
    ((∃ n', s.put ctx path p n = (.ok (), n') ∧
      n'.requests = n.requests ++ [putRequest place s.options p.bytes]) ↔
        p.bytes.size < s.options.partSize)
  /-- A payload that is not taken at once sends nothing like it, whatever the replies are. -/
  long : s.options.partSize ≤ p.bytes.size → ∀ n, ∃ sent,
    (s.put ctx path p n).2 = n.after sent ∧ ∀ r ∈ sent, ¬ place.IsWholePut r

variable {place} {s : Storage} {t : Target}

/-- In a bucket, exactly the payloads that are shorter than a part are sent by one request. The
other ones are begun as uploads, whatever is replied. -/
theorem putsAtOnce (ht : s.target ctx = .ok t)
    (hplace : t.objectPlace .putObject (ctx.objectKey path) = .ok place) :
    s.PutsAtOnce ctx path p n place := by
  have hlong (hle : s.options.partSize ≤ p.bytes.size) (n : Network) : ∃ sent,
      (s.put ctx path p n).2 = n.after sent ∧ ∀ r ∈ sent, ¬ place.IsWholePut r := by
    by_cases hsize : s.options.partSize ≤ maxPieceSize
    · rw [put_of_long ht hplace hsize hle]
      exact sends_putParts place s.options _ n
    · exact ⟨[], by rw [put_of_oversized ht (Nat.lt_of_not_le hsize)]; rfl, nofun⟩
  refine ⟨uploadRequests hplace s.options, fun hreads hsize hwritable hgrants => ?_, hlong⟩
  exact sends_whole_iff ⟨_, asks_putRequest place _ p.bytes⟩
    (fun hshort => put_of_short_granted ht hplace hsize hwritable hreads hshort hgrants)
    fun hle => hlong hle n

end S3

/-! ### Containers -/

namespace Azure

/-- A request that uploads a blob at once: it says what kind of blob that is. -/
def IsWholePut (r : Request) : Prop := "x-ms-blob-type" ∈ r.headers.map (·.1)

/-- The request that uploads a blob at once is known by its header for the type of blob. -/
theorem isWholePut_putRequest (o : Options) (url : Url) (disposition : Option String)
    (body : ByteArray) : IsWholePut (putRequest o url disposition body) :=
  List.mem_cons_self

/-- A request without that header uploads no blob at once. -/
theorem not_isWholePut_iff {r : Request} :
    ¬ IsWholePut r ↔ ∀ h ∈ r.headers, h.1 ≠ "x-ms-blob-type" := by
  refine ⟨fun hnone h hh hname => hnone (List.mem_map.2 ⟨h, hh, hname⟩), fun hnone hmem => ?_⟩
  obtain ⟨h, hh, hname⟩ := List.mem_map.1 hmem
  exact hnone h hh hname

/-- The headers that every request carries do not say it. -/
theorem isWholePut_request {method : String} {url : Url} {headers : Headers} {body : ByteArray} :
    IsWholePut (request method url headers body) ↔ "x-ms-blob-type" ∈ headers.map (·.1) := by
  rw [IsWholePut, request]
  cases url.user? <;> simp

/-- The request that stages a block uploads no blob at once. -/
theorem not_isWholePut_blockRequest (url : Url) (id : String) (body : ByteArray) :
    ¬ IsWholePut (blockRequest url id body) := by
  rw [blockRequest, isWholePut_request]
  exact List.not_mem_nil

/-- The request that commits blocks uploads no blob at once. -/
theorem not_isWholePut_commitRequest (o : Options) (url : Url) (disposition : Option String)
    (ids : List String) : ¬ IsWholePut (commitRequest o url disposition ids) := by
  rw [commitRequest, isWholePut_request]
  cases o.contentType <;> cases disposition <;> simp [optionalHeader]

/-- Whatever follows a request that does not upload a blob at once does not do so either. -/
theorem sends_send (c : Redirects) (op : ObjectOp) (activity : String) {r : Request}
    (hr : ¬ IsWholePut r) : Exchanging.Sends (fun r => ¬ IsWholePut r) (send c op activity r) := by
  have hreferer (h : String × String) (hname : h.1 = "referer") : h.1 ≠ "x-ms-blob-type" := by
    rw [hname]
    decide
  have hdelivered := c.sends_deliver (ε := ObjectError) hreferer (not_isWholePut_iff.1 hr)
  simp only [← not_isWholePut_iff] at hdelivered
  rw [send]
  split
  · exact (Exchanging.sends_throw _).bind fun _ => hdelivered.bind fun _ =>
      Exchanging.sends_lift _
  · exact hdelivered.bind fun _ => Exchanging.sends_lift _

/-- An upload in blocks sends no request that uploads the blob at once, however it ends. -/
theorem sends_stage (c : Redirects) (url : Url) (pieces : List Piece) (ids : List String) :
    Exchanging.Sends (fun r => ¬ IsWholePut r) (stage c url ids pieces) := by
  induction pieces generalizing ids with
  | nil => exact Exchanging.sends_pure ids
  | cons piece rest ih =>
    cases piece with
    | error e => exact Exchanging.sends_throw e
    | ok body =>
      have hblock := (sends_send c .putObject "failed to stage block"
        (not_isWholePut_blockRequest url (blockId ids.length) body)).discard
      rw [stage]
      split
      · exact Exchanging.sends_pure ids
      · split
        · exact (Exchanging.sends_throw _).bind fun _ => hblock.bind fun _ => ih _
        · exact hblock.bind fun _ => ih _

/-- When a container takes a payload at once. -/
structure Storage.PutsAtOnce (s : Storage) (now : Instant) (ctx : Context) (path : String)
    (p : Payload) (n : Network) (t : Target) (url : Url) : Prop where
  requests : UploadRequests t now (ctx.objectKey path) url s.options
    (s.options.uploadDisposition path)
  /-- Where the request succeeds and reading does not fail, that is so for short payloads. -/
  iff_short : p.failure = none → s.options.blockSize ≤ maxPieceSize →
    (IsWritable s.options.contentType ∧ IsWritable (s.options.uploadDisposition path)) →
    n.succeeds 0 = true →
    ((∃ n', s.put now ctx path p n = (.ok (), n') ∧ n'.requests = n.requests
      ++ [putRequest s.options url (s.options.uploadDisposition path) p.bytes]) ↔
        p.bytes.size < s.options.blockSize)
  /-- A payload that is not taken at once sends nothing like it, whatever the replies are. -/
  long : s.options.blockSize ≤ p.bytes.size → ∀ n, ∃ sent,
    (s.put now ctx path p n).2 = n.after sent ∧ ∀ r ∈ sent, ¬ IsWholePut r

variable {s : Storage} {now : Instant} {t : Target} {url : Url}

/-- In a container, exactly the payloads that are shorter than a block are sent by one request. The
other ones are staged in blocks, whatever is replied. -/
theorem putsAtOnce (ht : s.target ctx .putObject = .ok t)
    (hurl : requestUrl t now (ctx.objectKey path) .createWrite = .ok url) :
    s.PutsAtOnce now ctx path p n t url := by
  have hlong (hle : s.options.blockSize ≤ p.bytes.size) (n : Network) : ∃ sent,
      (s.put now ctx path p n).2 = n.after sent ∧ ∀ r ∈ sent, ¬ IsWholePut r := by
    by_cases hsize : s.options.blockSize ≤ maxPieceSize
    · rw [put_eq_of_long ht hurl hsize hle]
      exact ((sends_stage s.redirects url _ []).bind fun ids => (sends_send _ _ _
        (not_isWholePut_commitRequest s.options url _ ids)).discard) n
    · exact ⟨[], by rw [put_of_oversized ht (Nat.lt_of_not_le hsize)]; rfl, nofun⟩
  refine ⟨uploadRequests hurl s.options _, fun hreads hsize hwritable hsucceeds => ?_, hlong⟩
  exact sends_whole_iff (isWholePut_putRequest s.options url _ p.bytes)
    (fun hshort => put_of_short_succeeds ht hurl hsize hwritable hreads hshort hsucceeds)
    fun hle => hlong hle n

end Azure

/-! ### Both services -/

/-- A payload is uploaded by one request exactly if it is shorter than a part or a block. One that
is not sends no request that could upload it at once, even if it is no longer than that. -/
theorem at_once_iff_short (n : Network) :
    (∀ (s : S3.Storage) (t : S3.Target) (place : S3.Place),
      s.target ctx = .ok t → t.objectPlace .putObject (ctx.objectKey path) = .ok place →
      s.PutsAtOnce ctx path p n place) ∧
    (∀ (s : Azure.Storage) (now : Instant) (t : Azure.Target) (url : Url),
      s.target ctx .putObject = .ok t →
      Azure.requestUrl t now (ctx.objectKey path) .createWrite = .ok url →
      s.PutsAtOnce now ctx path p n t url) :=
  ⟨fun _ _ _ ht hplace => S3.putsAtOnce ht hplace,
    fun _ _ _ _ ht hurl => Azure.putsAtOnce ht hurl⟩

/-- One byte less than a part and a block. -/
theorem at_once_iff_short_sample :
    (∃ n', sampleBucket.put {} "a" (samplePayload (S3.minPartSize - 1))
        { later := some completionReply } = (.ok (), n') ∧
      n'.requests = [S3.putRequest samplePlace sampleBucket.options
        (samplePayload (S3.minPartSize - 1)).bytes]) ∧
    ∃ n' url, sampleContainer.put default {} "a" (samplePayload (Azure.minBlockSize - 1))
        { later := some completionReply } = (.ok (), n') ∧
      n'.requests = [Azure.putRequest sampleContainer.options url none
        (samplePayload (Azure.minBlockSize - 1)).bytes] := by
  obtain ⟨url, hurl⟩ := requestUrl_sampleTarget
  have hbucket : sampleBucket.PutsAtOnce {} "a" (samplePayload (S3.minPartSize - 1))
      { later := some completionReply } samplePlace :=
    (at_once_iff_short _).1 _ _ _ rfl objectPlace_sampleBucket
  have hcontainer : sampleContainer.PutsAtOnce default {} "a"
      (samplePayload (Azure.minBlockSize - 1)) { later := some completionReply } sampleTarget url :=
    (at_once_iff_short _).2 _ _ _ _ rfl hurl
  have hgrants : ({ later := some completionReply } : Network).grants sampleBucket.reading.accepts 0
      (S3.putRequest samplePlace sampleBucket.options (samplePayload (S3.minPartSize - 1)).bytes)
        = true :=
    accepts_completionReply (.inl (show "PUT" ≠ "POST" by decide))
  obtain ⟨n', hput, hrequests⟩ := (hcontainer.iff_short rfl
    (by rw [blockSize_sampleContainer]; decide) isWritable_sampleContainer rfl).2
    (by rw [size_samplePayload, blockSize_sampleContainer]; decide)
  exact ⟨(hbucket.iff_short rfl (by rw [partSize_sampleBucket]; decide) isWritable_none hgrants).2
    (by rw [size_samplePayload, partSize_sampleBucket]; decide), n', url, hput, hrequests⟩

/-- Payloads of the size of a part and of a block are not uploaded at once, even where all requests
are granted. -/
theorem exact_payloads_not_at_once :
    ((samplePayload S3.minPartSize).bytes.size ≤ sampleBucket.options.partSize ∧
      ¬ ∃ r, (sampleBucket.put {} "a" (samplePayload S3.minPartSize) generous).2.requests
        = [r]) ∧
    (samplePayload Azure.minBlockSize).bytes.size ≤ sampleContainer.options.blockSize ∧
      ¬ ∃ r, (sampleContainer.put default {} "a" (samplePayload Azure.minBlockSize)
        generous).2.requests = [r] := by
  obtain ⟨url, hurl⟩ := requestUrl_sampleTarget
  have hpart : (samplePayload S3.minPartSize).bytes.size = sampleBucket.options.partSize := by
    rw [size_samplePayload, partSize_sampleBucket]
  have hblock : (samplePayload Azure.minBlockSize).bytes.size
      = sampleContainer.options.blockSize := by
    rw [size_samplePayload, blockSize_sampleContainer]
  refine ⟨⟨Nat.le_of_eq hpart, ?_⟩, Nat.le_of_eq hblock, ?_⟩
  · rintro ⟨r, hr⟩
    have hbucket : sampleBucket.Reassembles {} "a" (samplePayload S3.minPartSize) generous
        samplePlace :=
      S3.reassembles rfl objectPlace_sampleBucket (by rw [partSize_sampleBucket]; decide)
        isWritable_none rfl (by rw [hpart]; exact Nat.le_mul_of_pos_left _ (by decide))
    obtain ⟨bodies, -, hgranted⟩ :=
      hbucket.long (Nat.le_of_eq hpart.symm) "u" (begun?_of_beginningReply rfl)
    rw [S3.partUpload_eq] at hgranted
    obtain ⟨n', hput, hrequests⟩ := hgranted (grantsAll_of_replyAt rfl (fun _ _ => rfl)
      fun _ => ne_post_or_of_mem_partPlan)
    -- Beginning and completing alone are two requests.
    rw [hput, hrequests, S3.partPlan_of_none] at hr
    have hlength := congrArg List.length hr
    simp only [List.length_append, List.length_cons] at hlength
    omega
  · rintro ⟨r, hr⟩
    have hcontainer : sampleContainer.Reassembles default {} "a"
        (samplePayload Azure.minBlockSize) generous sampleTarget url :=
      Azure.reassembles rfl hurl (by rw [blockSize_sampleContainer]; decide)
        isWritable_sampleContainer rfl
        (by rw [hblock]; exact Nat.le_mul_of_pos_left _ (by decide))
    obtain ⟨bodies, hcut, -, hgranted⟩ := hcontainer.long (Nat.le_of_eq hblock.symm)
    obtain ⟨n', hput, hrequests⟩ := hgranted fun i _ => succeeds_generous i
    -- A payload that is not empty has a block, and the list is a request of its own.
    have hpos := hcut.length_pos (by rw [size_samplePayload]; decide)
    rw [hput, hrequests] at hr
    have hlength := congrArg List.length hr
    rw [List.length_append, Azure.length_blockUpload, List.length_singleton] at hlength
    omega

end Fleet
