import Fleet.Azure.Storage
import Fleet.Proofs.Hash.Base64
import Fleet.Proofs.Http.Exchange
import Fleet.Proofs.Text.Digits
import Fleet.Proofs.Text.Markup
import Fleet.Proofs.Text.Utf8
import Fleet.Proofs.Url.Form
import Mathlib.Data.List.Nodup

/-!
# `Fleet.Proofs.Azure.Request`: what requests about a blob hold

A request about a blob goes to the signed address of the blob, with more pairs in its query that
say what is to be done (`Asks`). A block is staged under a name that counts it. The names are
pairwise different and of one length (`nodup_blockIds`, `length_blockId`), and the document that
commits blocks is read as the list of exactly these names (`marks?_blockList`).

Only what is configured about a blob can keep a request from being written: the kind of its contents
and the name under which it is to be stored (`isWritable_putRequest_iff`,
`isWritable_commitRequest_iff`). Blocks can always be staged.
-/

set_option autoImplicit false

namespace Fleet.Azure

open Fleet.Hash Fleet.Http Fleet.Text Fleet.Time Fleet.Url

/-! ### Requests -/

/-- A request asks for something to be done at an address. Besides the pairs that the address has,
the query holds those that say what. -/
structure Asks (url : Url) (r : Request) (method : String) (pairs : List Pair)
    (body : ByteArray) : Prop where
  method : r.method = method
  body : r.body = body
  address : ∃ query, parsePairs query = url.pairs ++ pairs ∧
    r.url = ({ url with query := some query } : Url).withoutUser.text

/-- The request that uploads a payload at once. -/
def putRequest (o : Options) (url : Url) (disposition : Option String) (body : ByteArray) :
    Request :=
  request "PUT" url
    (("x-ms-blob-type", "BlockBlob") :: optionalHeader "content-type" o.contentType
      ++ optionalHeader "x-ms-blob-content-disposition" disposition)
    body

/-- The request that stages a block. -/
def blockRequest (url : Url) (id : String) (body : ByteArray) : Request :=
  request "PUT" (url.withPairs [("comp", "block"), ("blockid", id)]) [] body

/-- The request that commits blocks. -/
def commitRequest (o : Options) (url : Url) (disposition : Option String) (ids : List String) :
    Request :=
  request "PUT" (url.withPairs [("comp", "blocklist")])
    (optionalHeader "x-ms-blob-content-type" o.contentType
      ++ optionalHeader "x-ms-blob-content-disposition" disposition)
    (blockList ids).toUTF8

variable (url : Url)

/-- A request asks for the pairs that were put behind those of the signature. -/
theorem asks_request (method : String) (pairs : List Pair) (headers : Headers)
    (body : ByteArray) :
    Asks url (request method (url.withPairs pairs) headers body) method pairs body where
  method := rfl
  body := rfl
  address := ⟨_, parsePairs_appendPairs _ _, rfl⟩

/-- The whole payload is put as the blob. The address needs no more than it has. -/
theorem asks_putRequest (o : Options) (disposition : Option String) (body : ByteArray)
    (hquery : url.query.isSome = true) :
    Asks url (putRequest o url disposition body) "PUT" [] body where
  method := rfl
  body := rfl
  address := by
    obtain ⟨query, hsome⟩ := Option.isSome_iff_exists.1 hquery
    refine ⟨query, ?_, ?_⟩
    · rw [Url.pairs, hsome, List.append_nil]
      rfl
    · rw [← hsome]
      rfl

/-! ### Headers -/

/-- The headers that every request carries can be written. -/
theorem isWritable_request (method : String) (headers : Headers) (body : ByteArray) :
    (request method url headers body).headers.all isWritableHeader
      = headers.all isWritableHeader := by
  have hversion : isWritableHeader ("x-ms-version", serviceVersion) = true := by decide
  have huser (user : List UInt8) :
      isWritableHeader ("authorization", "Basic " ++ Base64.encode user) = true := by
    have hbasic : isWritableHeader ("authorization", "Basic ") = true := by decide
    have hcode : isWritableHeader ("authorization", Base64.encode user) = true := by
      refine List.all_eq_true.2 fun c hc => ?_
      have hprintable := Base64.isPrintable_encode hc
      have hdelete : c ≠ '\x7f' := by
        rintro rfl
        exact absurd hprintable.2 (by decide)
      simp [hprintable.1, hdelete]
    rw [isWritableHeader] at hbasic hcode ⊢
    simp only [String.toList_append, List.all_append, hbasic, hcode, Bool.and_self]
  rw [request]
  cases url.user? with
  | none => simp [hversion]
  | some user => simp [hversion, huser user]

/-- An optional header can be written exactly if its value can. -/
theorem all_optionalHeader_iff (name : String) (value : Option String) :
    (optionalHeader name value).all isWritableHeader = true ↔ IsWritable value := by
  cases value with
  | none => simp [optionalHeader, isWritable_none]
  | some v =>
    have hname : isWritableHeader (name, v) = isWritableHeader ("", v) := rfl
    simp [optionalHeader, IsWritable, hname]

variable {url}

/-- An upload at once can be written exactly if the content type and the disposition can. -/
theorem isWritable_putRequest_iff {o : Options} {disposition : Option String}
    {body : ByteArray} : (putRequest o url disposition body).headers.all isWritableHeader = true ↔
      IsWritable o.contentType ∧ IsWritable disposition := by
  have htype : isWritableHeader ("x-ms-blob-type", "BlockBlob") = true := by decide
  rw [putRequest, isWritable_request, List.cons_append, List.all_cons, htype, Bool.true_and,
    List.all_append, Bool.and_eq_true, all_optionalHeader_iff, all_optionalHeader_iff]

/-- A commit can be written exactly if the content type and the disposition can. -/
theorem isWritable_commitRequest_iff {o : Options} {disposition : Option String}
    {ids : List String} :
    (commitRequest o url disposition ids).headers.all isWritableHeader = true ↔
      IsWritable o.contentType ∧ IsWritable disposition := by
  rw [commitRequest, isWritable_request, List.all_append, Bool.and_eq_true, all_optionalHeader_iff,
    all_optionalHeader_iff]

/-- A block can always be written, as it has no configured header. So a failure to write shows at
the commit, after all blocks. -/
theorem isWritable_blockRequest (id : String) (body : ByteArray) :
    (blockRequest url id body).headers.all isWritableHeader = true :=
  isWritable_request _ _ _ _

/-! ### Names of blocks -/

/-- The names of blocks at positions from `there` on. -/
def blockIds (there count : Nat) : List String :=
  (List.range count).map fun i => blockId (there + i)

/-- Different blocks have different names. -/
theorem blockId_injective {i j : Nat} (h : blockId i = blockId j) : i = j := by
  have htext : padded 5 i = padded 5 j := utf8Text_injective (Base64.encode_injective h)
  have hread := congrArg (fun s : String => readDigits s.toList) htext
  simp only [readDigits_padded, Option.some.injEq] at hread
  exact hread

/-- Five digits name every block, so all names have one length. -/
theorem length_blockId {i : Nat} (h : i < maxBlocks) : (blockId i).toList.length = 8 := by
  have hdigits : (padded 5 i).toList.length = 5 :=
    length_padded (by decide) (Nat.lt_trans h (by decide))
  rw [blockId, Base64.length_encode, utf8Text,
    length_utf8_of_isDigit fun c hc => isDigit_of_mem_padded hc, hdigits]

/-- No name stands twice among those of an upload. -/
theorem nodup_blockIds (there count : Nat) : (blockIds there count).Nodup := by
  refine List.Nodup.map (fun i j h => ?_) List.nodup_range
  have hsame := blockId_injective h
  omega

/-- The first block has the next name, and the other ones follow. -/
theorem blockIds_succ (there count : Nat) :
    blockIds there (count + 1) = blockId there :: blockIds (there + 1) count := by
  have hshift : (fun i => blockId (there + i)) ∘ Nat.succ = fun i => blockId (there + 1 + i) := by
    funext i
    rw [Function.comp_apply, Nat.succ_eq_add_one, Nat.add_assoc there 1 i, Nat.add_comm 1 i]
  rw [blockIds, List.range_succ_eq_map, List.map_cons, List.map_map, blockIds, hshift, Nat.add_zero]

/-- Names of blocks are written as they stand. -/
theorem escape_blockId (i : Nat) : Markup.escape (blockId i) = blockId i := by
  have hdigits : ∀ n : Fin 64, Markup.namedChars.lookup (Base64.digit n) = none := by decide
  refine Markup.escape_eq_self fun c hc => ?_
  rcases Base64.eq_or_exists_of_mem_encode hc with rfl | ⟨n, rfl⟩
  · decide
  · by_cases hn : n < 64
    · exact hdigits ⟨n, hn⟩
    · rw [Base64.digit_of_le (Nat.le_of_not_lt hn)]
      decide

/-! ### Lists of blocks -/

/-- The marks of a list of blocks, of which the latest of each name is to be taken. -/
def listMarks (ids : List String) : List Mark :=
  .opening "BlockList" :: ids.flatMap (Markup.elementMarks "Latest") ++ [.closing "BlockList"]

/-- The names in a list of blocks are read back in order, by induction on the list. They need no
escapes. -/
theorem marks?_latest (ids : List String) (hplain : ∀ id ∈ ids, Markup.escape id = id)
    (rest : List Char) :
    Markup.marks? ((String.join (ids.map fun id => "<Latest>" ++ id ++ "</Latest>")).toList ++ rest)
      = (Markup.marks? rest).map (ids.flatMap (Markup.elementMarks "Latest") ++ ·) := by
  induction ids with
  | nil => simp [String.join_nil]
  | cons id ids ih =>
    have hopening : Markup.tagMarks? "Latest".toList = some [.opening "Latest"] := by decide
    have hclosing : Markup.tagMarks? ('/' :: "Latest".toList) = some [.closing "Latest"] := by
      decide
    have hshape (s : String) (rest : List Char) : ("<Latest>" ++ s ++ "</Latest>").toList ++ rest
        = '<' :: ("Latest".toList ++ '>' :: (s.toList
          ++ '<' :: ('/' :: "Latest".toList ++ '>' :: rest))) := by
      simp
    have hfirst := Markup.marks?_element (by decide) hopening hclosing id
      ((String.join (ids.map fun id => "<Latest>" ++ id ++ "</Latest>")).toList ++ rest)
    rw [hplain id List.mem_cons_self, ih fun id hid => hplain id (List.mem_cons_of_mem _ hid),
      Option.map_map] at hfirst
    rw [List.map_cons, String.join_cons, String.toList_append, List.append_assoc, hshape, hfirst]
    simp [Function.comp_def]

/-- The opening of the list is read as the element that the list is in, behind the declaration of
the document. -/
theorem marks?_listOpening (rest : List Char) :
    Markup.marks? ("<?xml version=\"1.0\" encoding=\"utf-8\"?><BlockList>".toList ++ rest)
      = (Markup.marks? rest).map ([.opening "BlockList"] ++ ·) := by
  have hshape : "<?xml version=\"1.0\" encoding=\"utf-8\"?><BlockList>".toList
      = '<' :: ("?xml version=\"1.0\" encoding=\"utf-8\"?".toList
        ++ '>' :: '<' :: ("BlockList".toList ++ ['>'])) := by decide +kernel
  have hdeclaration : Markup.tagMarks? "?xml version=\"1.0\" encoding=\"utf-8\"?".toList
      = some [] := by decide +kernel
  have hopening : Markup.tagMarks? "BlockList".toList = some [.opening "BlockList"] := by decide
  have hfirst := Markup.marks?_tag (by decide +kernel) hdeclaration
    ('<' :: ("BlockList".toList ++ '>' :: rest))
  rw [Markup.marks?_tag (by decide) hopening rest, Option.map_map] at hfirst
  rw [hshape, List.cons_append, List.append_assoc, List.cons_append, List.cons_append,
    List.append_assoc, List.singleton_append]
  exact hfirst

/-- The document is read as the list of the names that it was written for, in their order. -/
theorem marks?_blockList (there count : Nat) :
    Markup.marks? (blockList (blockIds there count)).toList
      = some (listMarks (blockIds there count)) := by
  have hplain : ∀ id ∈ blockIds there count, Markup.escape id = id := by
    intro id hid
    obtain ⟨i, -, rfl⟩ := List.mem_map.1 hid
    exact escape_blockId _
  have hclosing : Markup.marks? "</BlockList>".toList = some [.closing "BlockList"] := by
    decide +kernel
  refine (congrArg Markup.marks? (Markup.toList_append_append _ _ _)).trans ?_
  refine (marks?_listOpening _).trans ?_
  rw [marks?_latest _ hplain, hclosing]
  simp [listMarks]

/-! ### All requests of uploads -/

/-- The address of a blob for a request carries a grant on that very blob. -/
theorem exists_of_requestUrl {t : Target} {now : Instant} {key : String} {permission : Permission}
    (h : requestUrl t now key permission = .ok url) :
    ∃ plain pairs, t.blobUrl key = .ok plain ∧
      (grantFor now permission (.blob t.container key) requestLifetime none).pairs t.account
        = .ok pairs ∧
      url = plain.withPairs pairs := by
  rw [requestUrl] at h
  cases hplain : t.blobUrl key with
  | error e =>
    rw [hplain] at h
    cases h
  | ok plain =>
    rw [hplain] at h
    replace h : signUrl t _ plain = .ok url := h
    rw [signUrl, Grant.sign] at h
    cases hpairs : (grantFor now permission (.blob t.container key) requestLifetime none).pairs
        t.account with
    | error e =>
      rw [hpairs] at h
      cases h
    | ok pairs =>
      rw [hpairs] at h
      cases h
      exact ⟨plain, pairs, rfl, rfl, rfl⟩

/-- What the requests of uploads under a key hold: where they go, what they ask for and what they
bring. -/
structure UploadRequests (t : Target) (now : Instant) (key : String) (url : Url) (o : Options)
    (disposition : Option String) : Prop where
  /-- They go to the address of the blob, with a grant to write it. -/
  address : ∃ plain pairs, t.blobUrl key = .ok plain ∧
    (grantFor now .createWrite (.blob t.container key) requestLifetime none).pairs t.account
      = .ok pairs ∧
    url = plain.withPairs pairs
  put : ∀ body, Asks url (putRequest o url disposition body) "PUT" [] body
  /-- What is put at once is said to be a blob of its own. -/
  blob : ∀ body, ("x-ms-blob-type", "BlockBlob") ∈ (putRequest o url disposition body).headers
  /-- A block is put under its name. -/
  block : ∀ id body,
    Asks url (blockRequest url id body) "PUT" [("comp", "block"), ("blockid", id)] body
  /-- What commits blocks lists their names in order. -/
  commits : ∀ count, ∃ document : String,
    Asks url (commitRequest o url disposition (blockIds 0 count)) "PUT" [("comp", "blocklist")]
        document.toUTF8 ∧
      Markup.marks? document.toList = some (listMarks (blockIds 0 count))
  /-- The names of blocks can be told apart. -/
  distinct : ∀ count, (blockIds 0 count).Nodup
  same_length : ∀ count ≤ maxBlocks, ∀ id ∈ blockIds 0 count, id.toList.length = 8

/-- What the requests of an upload ask for and hold, in one place. The pairs of the signature stand
in front of those of the request. -/
theorem uploadRequests {t : Target} {now : Instant} {key : String}
    (h : requestUrl t now key .createWrite = .ok url) (o : Options)
    (disposition : Option String) : UploadRequests t now key url o disposition where
  address := exists_of_requestUrl h
  put body := by
    obtain ⟨plain, pairs, -, -, rfl⟩ := exists_of_requestUrl h
    exact asks_putRequest _ o disposition body rfl
  blob _ := List.mem_append_left _ List.mem_cons_self
  block id body := asks_request url "PUT" _ _ body
  commits count := ⟨_, asks_request url "PUT" _ _ _, marks?_blockList 0 count⟩
  distinct := nodup_blockIds 0
  same_length count hcount id hid := by
    obtain ⟨i, hi, rfl⟩ := List.mem_map.1 hid
    have hbelow := List.mem_range.1 hi
    exact length_blockId (by omega)

end Fleet.Azure
