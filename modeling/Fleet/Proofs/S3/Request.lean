import Fleet.Proofs.Http.Exchange
import Fleet.Proofs.Text.Digits
import Fleet.Proofs.Text.Markup
import Fleet.Proofs.Url.Form
import Fleet.S3.Storage

/-!
# `Fleet.Proofs.S3.Request`: what requests about an object hold

A request says by its method and the pairs of its query what is to be done about the object at its
address (`Place.Asks`). The pairs are read back from the query as they were written, whatever
characters they hold (`parsePairs_writePairs`), so a request for a part names its number and its
upload, and one that aborts or completes an upload names that upload.

The document that completes an upload is read back, too: it lists exactly the given parts in their
order, each with its number and with its tag, if it has one (`marks?_partList`).
-/

set_option autoImplicit false

namespace Fleet.S3

open Fleet.Http Fleet.Text Fleet.Url

/-! ### Queries -/

/-- Written by percent signs a text is read as it was, since neither plus signs nor percent signs
stand for themselves there. -/
theorem formDecode_percentEncode (cs : List Char) :
    formDecode (percentEncode reservedSet cs) = cs := by
  have hplus : 0x2B ∉ utf8 (percentEncode reservedSet cs) := by
    intro hmem
    obtain ⟨c, hc, hbyte⟩ := List.mem_flatMap.1 hmem
    obtain rfl : c = '+' := Char.toNat_inj.1 (encode_of_ascii_mem hbyte (by decide))
    have hdigit : ∀ n : Fin 16, hexUpper n ≠ '+' := by decide
    rcases of_mem_percentEncode hc with ⟨-, hplain⟩ | hpercent | ⟨n, hn, hhex⟩
    · exact absurd hplain (by decide)
    · exact absurd hpercent (by decide)
    · exact hdigit ⟨n, hn⟩ hhex.symm
  show decodeLossy (percentDecode ((utf8 (percentEncode reservedSet cs)).map plusByte)) = cs
  rw [map_plusByte_of_not_mem hplus, percentDecode_percentEncode (by decide), decodeLossy_utf8]

/-- Nothing that parts pairs, or names from values, is left of a written text. -/
theorem ne_of_mem_percentEncode {c : Char} {cs : List Char}
    (h : c ∈ percentEncode reservedSet cs) : c ≠ '&' ∧ c ≠ '=' := by
  have hdigit : ∀ n : Fin 16, hexUpper n ≠ '&' ∧ hexUpper n ≠ '=' := by decide
  rcases of_mem_percentEncode h with ⟨-, hplain⟩ | rfl | ⟨n, hn, rfl⟩
  · constructor <;>
    · rintro rfl
      exact absurd hplain (by decide)
  · decide
  · exact hdigit ⟨n, hn⟩

/-- The text of a pair in a query. -/
def pairText (p : Pair) : List Char :=
  percentEncode reservedSet p.1.toList ++ '=' :: percentEncode reservedSet p.2.toList

/-- A written query is the texts of its pairs with ampersands between them. -/
theorem toList_writePairs (pairs : List Pair) :
    (writePairs pairs).toList = ['&'].intercalate (pairs.map pairText) := by
  rw [writePairs, String.toList_intercalate, List.map_map]
  refine congrArg _ (List.map_congr_left fun p _ => ?_)
  simp [writePair, percentText, pairText]

/-- A pair is read back from its text, the value of an upload id included, whatever characters it
has. -/
theorem parsePair_pairText (p : Pair) : parsePair (pairText p) = p := by
  have hname : '=' ∉ percentEncode reservedSet p.1.toList :=
    fun hmem => (ne_of_mem_percentEncode hmem).2 rfl
  rw [parsePair, pairText, splitFirst?_append hname]
  dsimp only
  rw [formDecode_percentEncode, formDecode_percentEncode, String.ofList_toList,
    String.ofList_toList]

/-- The text of a pair holds no ampersand, so pairs can be joined by it. -/
theorem ampersand_not_mem_pairText (p : Pair) : '&' ∉ pairText p := by
  intro hmem
  rcases List.mem_append.1 hmem with hmem | hmem
  · exact (ne_of_mem_percentEncode hmem).1 rfl
  · rcases List.mem_cons.1 hmem with hmem | hmem
    · cases hmem
    · exact (ne_of_mem_percentEncode hmem).1 rfl

/-- The pairs of a query are those that it was written for. -/
theorem parsePairs_writePairs (pairs : List Pair) : parsePairs (writePairs pairs) = pairs := by
  have hpieces := parsePairs_intercalate
    (fun piece (hpiece : piece ∈ pairs.map pairText) => by
      obtain ⟨p, -, rfl⟩ := List.mem_map.1 hpiece
      exact List.append_ne_nil_of_right_ne_nil _ (List.cons_ne_nil _ _))
    (fun piece hpiece => by
      obtain ⟨p, -, rfl⟩ := List.mem_map.1 hpiece
      exact ampersand_not_mem_pairText p)
  rw [← toList_writePairs, String.ofList_toList, List.map_map] at hpieces
  rw [hpieces]
  exact List.map_id'' parsePair_pairText _

/-! ### Requests -/

/-- A request asks for something to be done at a place. The method and the pairs of the query say
what, and the body with what. -/
structure Place.Asks (place : Place) (r : Request) (method : String) (pairs : List Pair)
    (body : ByteArray) : Prop where
  method : r.method = method
  body : r.body = body
  address : ∃ query, parsePairs query = pairs ∧
    r.url = place.scheme ++ "://" ++ place.authority ++ place.path ++ "?" ++ query

/-- A request asks for one thing only: its address tells the query, and that its pairs. -/
theorem Place.Asks.unique {place : Place} {r : Request} {method method' : String}
    {pairs pairs' : List Pair} {body body' : ByteArray} (h : place.Asks r method pairs body)
    (h' : place.Asks r method' pairs' body') : method = method' ∧ pairs = pairs' := by
  obtain ⟨query, hquery, hurl⟩ := h.address
  obtain ⟨query', hquery', hurl'⟩ := h'.address
  have hsame : query = query' := String.append_right_inj _ |>.1 (hurl.symm.trans hurl')
  exact ⟨h.method.symm.trans h'.method, by rw [← hquery, hsame, hquery']⟩

variable (place : Place)

/-- A request asks for what its query is read as. Where there is a query, the address is read up to
the question mark. -/
theorem asks_request (method : String) {query : String} {pairs : List Pair} (headers : Headers)
    (body : ByteArray) (hquery : parsePairs query = pairs) (hsome : query.isEmpty = false) :
    place.Asks (request method place query headers body) method pairs body where
  method := rfl
  body := rfl
  address := by
    refine ⟨query, hquery, ?_⟩
    rw [request, Place.text, hsome, if_neg Bool.false_ne_true, ← String.append_assoc]

/-- A query that is written for some pair is not empty: the pair has an equals sign. -/
theorem isEmpty_writePairs (p : Pair) (pairs : List Pair) :
    (writePairs (p :: pairs)).isEmpty = false := by
  have hread := parsePairs_writePairs (p :: pairs)
  cases hempty : (writePairs (p :: pairs)).isEmpty with
  | false => rfl
  | true =>
    rw [String.isEmpty_iff.1 hempty] at hread
    cases hread

/-- The request that uploads a payload at once. -/
def putRequest (o : Options) (body : ByteArray) : Request :=
  request "PUT" place "x-id=PutObject" (contentHeader (o.contentType.getD plainBytes)) body

/-- The request that begins an upload. -/
def beginRequest (o : Options) : Request :=
  request "POST" place "uploads"
    (match o.contentType with
      | some kind => contentHeader kind
      | none => [])

/-- The request that uploads a part. -/
def partRequest (id : String) (number : Nat) (body : ByteArray) : Request :=
  request "PUT" place
    (writePairs [("x-id", "UploadPart"), ("partNumber", Nat.repr number), ("uploadId", id)])
    (contentHeader plainBytes) body

/-- The request that completes an upload. -/
def completeRequest (id : String) (parts : List Part) : Request :=
  request "POST" place (writePairs [("uploadId", id)]) (contentHeader "application/xml")
    (partList parts).toUTF8

/-- The request that aborts an upload. -/
def abortRequest (id : String) : Request :=
  request "DELETE" place (writePairs [("x-id", "AbortMultipartUpload"), ("uploadId", id)])

/-- The whole payload is put as the object. -/
theorem asks_putRequest (o : Options) (body : ByteArray) :
    place.Asks (putRequest place o body) "PUT" [("x-id", "PutObject")] body :=
  asks_request place _ _ _ (by decide +kernel) rfl

/-- The request that begins an upload asks for uploads with an empty body. -/
theorem asks_beginRequest (o : Options) :
    place.Asks (beginRequest place o) "POST" [("uploads", "")] .empty :=
  asks_request place _ _ _ (by decide +kernel) rfl

/-- A part is put under its number and the name of its upload. -/
theorem asks_partRequest (id : String) (number : Nat) (body : ByteArray) :
    place.Asks (partRequest place id number body) "PUT"
      [("x-id", "UploadPart"), ("partNumber", Nat.repr number), ("uploadId", id)] body :=
  asks_request place _ _ _ (parsePairs_writePairs _) (isEmpty_writePairs _ _)

/-- The request that completes an upload names the upload id, and its body is the list of parts. -/
theorem asks_completeRequest (id : String) (parts : List Part) :
    place.Asks (completeRequest place id parts) "POST" [("uploadId", id)]
      (partList parts).toUTF8 :=
  asks_request place _ _ _ (parsePairs_writePairs _) (isEmpty_writePairs _ _)

/-- What aborts an upload names it. -/
theorem asks_abortRequest (id : String) :
    place.Asks (abortRequest place id) "DELETE"
      [("x-id", "AbortMultipartUpload"), ("uploadId", id)] .empty :=
  asks_request place _ _ _ (parsePairs_writePairs _) (isEmpty_writePairs _ _)

/-- A request without headers but for one that says what a body is can be written, if that
can. -/
theorem isWritable_putRequest {o : Options} (h : IsWritable o.contentType) (body : ByteArray) :
    (putRequest place o body).headers.all isWritableHeader = true := by
  have hplain : isWritableHeader ("content-type", plainBytes) = true := by decide
  cases hkind : o.contentType with
  | none => simpa [putRequest, request, contentHeader, hkind] using hplain
  | some kind =>
    have hwritable := isWritableHeader_of_isWritable "content-type" h hkind
    simpa [putRequest, request, contentHeader, hkind] using hwritable

/-- An upload can be begun exactly if the kind of its contents can be said. -/
theorem isWritable_beginRequest_iff (o : Options) :
    (beginRequest place o).headers.all isWritableHeader = true ↔ IsWritable o.contentType := by
  cases hkind : o.contentType with
  | none => simp [beginRequest, request, hkind, isWritable_none]
  | some kind =>
    have hname : isWritableHeader ("content-type", kind) = isWritableHeader ("", kind) := rfl
    simp [beginRequest, request, contentHeader, hkind, IsWritable, hname]

/-! ### Lists of parts -/

/-- The marks of a part in a list: its tag, if it has one, and its number. -/
def partMarks (p : Part) : List Mark :=
  .opening "Part" :: (p.tag.map (Markup.elementMarks "ETag")).getD []
    ++ Markup.elementMarks "PartNumber" (Nat.repr p.number) ++ [.closing "Part"]

/-- The marks of a list of parts. -/
def listMarks (parts : List Part) : List Mark :=
  .opening "CompleteMultipartUpload" :: parts.flatMap partMarks
    ++ [.closing "CompleteMultipartUpload"]

/-- Digits have no names. -/
theorem escape_repr (n : Nat) : Markup.escape (Nat.repr n) = Nat.repr n := by
  have hnames : ∀ p ∈ Markup.namedChars, p.1.isDigit = false := by decide
  refine Markup.escape_eq_self fun c hc => List.lookup_eq_none_iff.2 fun p hp => ?_
  rw [bne_iff_ne]
  rintro rfl
  have hdigit := isDigit_of_mem_repr hc
  rw [hnames p hp] at hdigit
  cases hdigit

/-- The tag of a part is read back as an element, quotes in it included. A part without a tag has no
such element. -/
theorem marks?_tagText (tag : Option String) (rest : List Char) :
    Markup.marks? ((tagText tag).toList ++ rest)
      = (Markup.marks? rest).map ((tag.map (Markup.elementMarks "ETag")).getD [] ++ ·) := by
  cases tag with
  | none =>
    rw [tagText, Option.map_none, Option.getD_none]
    exact Option.map_id'.symm
  | some tag =>
    have hshape : (tagText (some tag)).toList ++ rest
        = '<' :: ("ETag".toList ++ '>' :: ((Markup.escape tag).toList
          ++ '<' :: ('/' :: "ETag".toList ++ '>' :: rest))) := by
      simp [tagText]
    rw [hshape]
    exact Markup.marks?_element (by decide) (by decide) (by decide) tag rest

/-- A part is read as it was written. -/
theorem marks?_partText (p : Part) (rest : List Char) :
    Markup.marks? ((partText p).toList ++ rest)
      = (Markup.marks? rest).map (partMarks p ++ ·) := by
  have hshape : (partText p).toList ++ rest
      = '<' :: ("Part".toList ++ '>' :: ((tagText p.tag).toList
        ++ '<' :: ("PartNumber".toList ++ '>' :: ((Markup.escape (Nat.repr p.number)).toList
          ++ '<' :: ('/' :: "PartNumber".toList
            ++ '>' :: '<' :: ("/Part".toList ++ '>' :: rest)))))) := by
    simp [partText, escape_repr]
  have hopening : Markup.tagMarks? "Part".toList = some [.opening "Part"] := by decide
  have hnumber : Markup.tagMarks? "PartNumber".toList = some [.opening "PartNumber"] := by decide
  have hclosing : Markup.tagMarks? "/Part".toList = some [.closing "Part"] := by decide
  rw [hshape, Markup.marks?_tag (by decide) hopening, marks?_tagText,
    Markup.marks?_element (by decide) hnumber (by decide), Markup.marks?_tag (by decide) hclosing]
  simp [Option.map_map, Function.comp_def, partMarks]

/-- The parts of a list are read back in order, by induction on the list. -/
theorem marks?_partTexts (parts : List Part) (rest : List Char) :
    Markup.marks? ((String.join (parts.map partText)).toList ++ rest)
      = (Markup.marks? rest).map (parts.flatMap partMarks ++ ·) := by
  induction parts with
  | nil => simp [String.join_nil]
  | cons p parts ih =>
    rw [List.map_cons, String.join_cons, String.toList_append, List.append_assoc, marks?_partText,
      ih, Option.map_map]
    simp [Function.comp_def]

/-- The opening of the list is read as the element that the list is in, whatever namespace it
names. -/
theorem marks?_listOpening (rest : List Char) :
    Markup.marks? ("<CompleteMultipartUpload xmlns=\"http://s3.amazonaws.com/doc/2006-03-01/\">".toList
      ++ rest) = (Markup.marks? rest).map ([.opening "CompleteMultipartUpload"] ++ ·) := by
  have hshape : "<CompleteMultipartUpload xmlns=\"http://s3.amazonaws.com/doc/2006-03-01/\">".toList
      = '<' :: ("CompleteMultipartUpload xmlns=\"http://s3.amazonaws.com/doc/2006-03-01/\"".toList
        ++ ['>']) := by decide +kernel
  have htag : Markup.tagMarks?
      "CompleteMultipartUpload xmlns=\"http://s3.amazonaws.com/doc/2006-03-01/\"".toList
        = some [.opening "CompleteMultipartUpload"] := by decide +kernel
  have hread := Markup.marks?_tag (by decide +kernel) htag rest
  rw [hshape, List.cons_append, List.append_assoc, List.singleton_append]
  exact hread

/-- The list of parts is read as the parts that it was written for, in their order. -/
theorem marks?_partList (parts : List Part) :
    Markup.marks? (partList parts).toList = some (listMarks parts) := by
  have hclosing : Markup.marks? "</CompleteMultipartUpload>".toList
      = some [.closing "CompleteMultipartUpload"] := by decide +kernel
  refine (congrArg Markup.marks? (Markup.toList_append_append _ _ _)).trans ?_
  refine (marks?_listOpening _).trans ?_
  rw [marks?_partTexts, hclosing]
  simp [listMarks]

/-! ### All requests of uploads -/

/-- What the requests of uploads under a key hold, for a key with a place: where they go, what they
ask for and what they bring. -/
structure UploadRequests (place : Place) (o : Options) (key : String) : Prop where
  /-- The path of the place ends in the key, special characters being written by percent signs. -/
  key : ∃ front, place.path = front ++ ("/" ++ percentText keySet key)
  put : ∀ body, place.Asks (putRequest place o body) "PUT" [("x-id", "PutObject")] body
  begins : place.Asks (beginRequest place o) "POST" [("uploads", "")] .empty
  /-- A part is put under its number and the name of its upload. -/
  part : ∀ id number body, place.Asks (partRequest place id number body) "PUT"
    [("x-id", "UploadPart"), ("partNumber", Nat.repr number), ("uploadId", id)] body
  /-- What completes an upload names it and lists the parts, with their tags, in order. -/
  completes : ∀ id parts, ∃ document : String,
    place.Asks (completeRequest place id parts) "POST" [("uploadId", id)] document.toUTF8 ∧
      Markup.marks? document.toList = some (listMarks parts)
  aborts : ∀ id, place.Asks (abortRequest place id) "DELETE"
    [("x-id", "AbortMultipartUpload"), ("uploadId", id)] .empty

/-- Whatever stands in front of it, the path of a place ends in the key. -/
theorem path_of_placeAt {t : Target} {uri : Option String} {key : String} {place : Place}
    (h : t.placeAt uri key = some place) :
    ∃ front, place.path = front ++ ("/" ++ percentText keySet key) := by
  unfold Target.placeAt at h
  split at h
  · split at h
    · cases h
      exact ⟨"", (String.empty_append).symm⟩
    · cases h
  · split at h
    · next uri =>
      obtain ⟨service, -, rfl⟩ := Option.map_eq_some_iff.1 h
      split
      · exact ⟨service.front, rfl⟩
      · exact ⟨service.front ++ "/" ++ percentText reservedSet t.bucket, rfl⟩
    · split at h
      · cases h
        exact ⟨"", (String.empty_append).symm⟩
      · cases h
        exact ⟨"/" ++ percentText reservedSet t.bucket, rfl⟩

/-- What the requests of an upload ask for and hold, in one place. The key is read off the path of
the address. -/
theorem uploadRequests {t : Target} {op : ObjectOp} {key : String} {place : Place}
    (h : t.objectPlace op key = .ok place) (o : Options) : UploadRequests place o key where
  key := by
    unfold Target.objectPlace at h
    split at h
    · next hplace =>
      cases h
      split at hplace
      · cases hplace
      · exact path_of_placeAt hplace
    · cases h
  put := asks_putRequest place o
  begins := asks_beginRequest place o
  part := asks_partRequest place
  completes id parts := ⟨_, asks_completeRequest place id parts, marks?_partList parts⟩
  aborts := asks_abortRequest place

end Fleet.S3
