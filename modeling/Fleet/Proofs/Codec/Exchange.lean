import Fleet.Codec.Context
import Fleet.Proofs.Codec.RoundTrip

/-!
# `Fleet.Proofs.Codec.Exchange`: exchanged values are read back from their documents

The documents of the store are in `Fleet.Proofs.Codec.RoundTrip`. Here are the others: reports,
queries, links with their headers, instructions, facts about objects, storage settings and
callers. Reports, settings and callers hold no times and no numbers, so all of them are read
back.

The headers of a link are an object whose reader sorts by name. Headers in ascending order pass
through it unchanged (`foldl_insertHeader`). A link without headers has no member for them.
-/

set_option autoImplicit false

namespace Fleet

/-! ### Tokens -/

/-- The token of a filter by status is read back as that filter. -/
theorem StatusFilter.ofToken?_token (f : StatusFilter) : ofToken? f.token = some f := by
  cases f <;> decide

/-- The token of a method is read back as that method. -/
theorem LinkMethod.ofToken?_token (m : LinkMethod) : ofToken? m.token = some m := by
  cases m <;> decide

/-- The token of a kind of storage is read back as that kind. -/
theorem StorageType.ofToken?_token (t : StorageType) : ofToken? t.token = some t := by
  cases t <;> decide

/-! ### What can be exchanged -/

namespace Query

/-- The numbers fit their words, and the bounds on creation have exchange texts. -/
structure Storable (q : Query) : Prop where
  createdAfter : ∀ t ∈ q.createdAfter, t.Representable
  createdBefore : ∀ t ∈ q.createdBefore, t.Representable
  skip : q.skip < 2 ^ 64
  limit : ∀ n ∈ q.limit, n < 2 ^ 64

end Query

namespace Link

/-- The link expires at a time with an exchange text, and its headers are in order. -/
structure Storable (l : Link) : Prop where
  expire : l.expire.Representable
  header : l.header.Pairwise fun a b => a.1 < b.1

end Link

namespace ObjectInfo

/-- The size fits its word, and the time of the last change has an exchange text. -/
structure Storable (i : ObjectInfo) : Prop where
  size : ∀ n ∈ i.size, n < 2 ^ 64
  lastModified : ∀ t ∈ i.lastModified, t.Representable

end ObjectInfo

namespace Instructions

/-- The link to the artifact is storable. -/
def Storable (i : Instructions) : Prop := i.artifact.source.Storable

end Instructions

namespace Codec

open Fleet.Time Fleet.Json

/-- A value that is kept as a token stands for itself if its token is read back. -/
theorem faithful_token {α : Type} {token : α → String} {ofToken : String → Option α} {a : α}
    (depth : Nat) (h : ofToken (token a) = some a) :
    Faithful depth (.str (token a)) (asToken ofToken) a where
  plain := .str _
  reads := h

namespace ReadsFields

variable {α : Type} {members : List (String × Json)}

/-- A field with a name that does not occur has its own value. -/
theorem absent {name : String} {dec : Decoder α} {default : α}
    (h : members.filter (·.1 == name) = []) :
    ReadsFields (FieldReader.defaulted name dec default) members default := by
  have hnext : ReadsFields (FieldReader.next name) members none := by
    unfold ReadsFields FieldReader.next
    dsimp only
    rw [h]
  exact hnext.bind (.pure default)

/-- A field that may be `null` is found under its name and read. -/
theorem nullable {name : String} {v : Json} {dec : Decoder α} {a : Option α}
    (h : members.filter (·.1 == name) = [(name, v)]) (hv : asOption dec v = some a) :
    ReadsFields (FieldReader.nullable name dec) members a := by
  have hget : ReadsFields get members (FieldSource.named members) := rfl
  exact (next h).bind (hget.bind (lift hv))

end ReadsFields

/-! ### Headers -/

/-- A name after all others is put at the end. -/
theorem insertHeader_of_forall_lt {name : String} (value : String) {done : List (String × String)}
    (h : ∀ e ∈ done, e.1 < name) : insertHeader name value done = done ++ [(name, value)] := by
  induction done with
  | nil => rfl
  | cons e rest ih =>
    have he := h e List.mem_cons_self
    have hrest := ih fun e' he' => h e' (List.mem_cons_of_mem e he')
    rw [insertHeader, if_neg (String.lt_asymm he), if_neg (Ne.symm (String.ne_of_lt he)), hrest,
      List.cons_append]

/-- Ascending headers are inserted one behind the other. -/
theorem foldl_insertHeader {header : List (String × String)} (done : List (String × String))
    (h : (done ++ header).Pairwise fun a b => a.1 < b.1) :
    header.foldl (fun done e => insertHeader e.1 e.2 done) done = done ++ header := by
  induction header generalizing done with
  | nil => rw [List.foldl_nil, List.append_nil]
  | cons e rest ih =>
    have hlast : insertHeader e.1 e.2 done = done ++ [e] :=
      insertHeader_of_forall_lt e.2 fun e' he' =>
        (List.pairwise_append.1 h).2.2 e' he' e List.mem_cons_self
    rw [List.append_cons] at h
    rw [List.foldl_cons, hlast, ih _ h, ← List.append_cons]

/-- Headers stand for themselves if their names ascend. They are kept as an object, which is sorted
as it is read. -/
theorem faithful_header {header : List (String × String)} (depth : Nat)
    (h : header.Pairwise fun a b => a.1 < b.1) :
    Faithful (depth + 1) (encodeHeader header) decodeHeader header where
  plain := .obj fun m hm => by
    obtain ⟨e, -, rfl⟩ := List.mem_map.1 hm
    exact .str e.2
  reads := by
    have hmembers : asMembers asString (encodeHeader header) = some header := by
      show (header.map _).mapM _ = _
      rw [List.mapM_map]
      exact (mapM_eq_pure_map fun _ _ => rfl).trans (congrArg some (List.map_id header))
    rw [decodeHeader, hmembers, Option.map_some]
    exact congrArg some (foldl_insertHeader [] h)

/-! ### Links and instructions -/

/-- A link with a representable end can be written and stands for itself. -/
theorem written_link {l : Link} (depth : Nat) (h : l.Storable) :
    Written (depth + 2) encodeLink decodeLink l := by
  obtain ⟨uri, method, expire, header⟩ := l
  have huri := faithful_string (depth + 1) uri
  have hmethod := faithful_token (depth + 1) (LinkMethod.ofToken?_token method)
  obtain ⟨_, hwrite, hexpire⟩ := written_instant (depth + 1) h.expire
  have hheader := faithful_header depth h.header
  -- The member for the headers is written only if there are any.
  cases header with
  | nil =>
    refine ⟨_, by rw [encodeLink, hwrite]; rfl, PlainMembers.obj ?_, ReadsFields.asRecord ?_⟩
    · exact .cons huri.plain <| .cons hmethod.plain <| .cons hexpire.plain .nil
    · exact .bind (.required rfl huri.reads) <| .bind (.required rfl hmethod.reads) <|
        .bind (.required rfl hexpire.reads) <| .bind (.absent rfl) <| .pure _
  | cons e rest =>
    refine ⟨_, by rw [encodeLink, hwrite]; rfl, PlainMembers.obj ?_, ReadsFields.asRecord ?_⟩
    · exact .cons huri.plain <| .cons hmethod.plain <| .cons hexpire.plain <|
        .cons hheader.plain .nil
    · exact .bind (.required rfl huri.reads) <| .bind (.required rfl hmethod.reads) <|
        .bind (.required rfl hexpire.reads) <| .bind (.defaulted rfl hheader.reads) <| .pure _

/-- The source of an artifact can be written and stands for itself if its link does. -/
theorem written_artifactSource {a : ArtifactSource} (depth : Nat) (h : a.source.Storable) :
    Written (depth + 3) encodeArtifactSource decodeArtifactSource a := by
  have hname := faithful_string (depth + 2) a.artifactName
  obtain ⟨_, hwrite, hsource⟩ := written_link depth h
  have htypes := faithful_strings (depth + 1) a.deviceTypes
  refine ⟨_, by rw [encodeArtifactSource, hwrite]; rfl, PlainMembers.obj ?_,
    ReadsFields.asRecord ?_⟩
  · exact .cons hname.plain <| .cons hsource.plain <| .cons htypes.plain .nil
  · exact .bind (.required rfl hname.reads) <| .bind (.required rfl hsource.reads) <|
      .bind (.required rfl htypes.reads) <| .pure _

/-- Instructions can be written and stand for themselves if the link in them does. -/
theorem written_instructions {i : Instructions} (depth : Nat) (h : i.Storable) :
    Written (depth + 4) encodeInstructions decodeInstructions i := by
  have hid := faithful_string (depth + 3) i.id
  obtain ⟨_, hwrite, hartifact⟩ := written_artifactSource depth h
  refine ⟨_, by rw [encodeInstructions, hwrite]; rfl, PlainMembers.obj ?_,
    ReadsFields.asRecord ?_⟩
  · exact .cons hid.plain <| .cons hartifact.plain .nil
  · exact .bind (.required rfl hid.reads) <| .bind (.required rfl hartifact.reads) <| .pure _

/-! ### Reports, queries and facts about objects -/

/-- A report of a device stands for itself. -/
theorem faithful_report (depth : Nat) (r : StatusReport) :
    Faithful (depth + 1) (encodeReport r) decodeReport r := by
  have hstatus := faithful_status depth r.status
  have hsubstate := faithful_optionalString depth r.substate
  refine ⟨PlainMembers.obj ?_, ReadsFields.asRecord ?_⟩
  · exact .cons hstatus.plain <| .cons hsubstate.plain .nil
  · exact .bind (.required rfl hstatus.reads) <| .bind (.optional rfl hsubstate.reads) <| .pure _

/-- A storable query can be written and stands for itself. -/
theorem written_query {q : Query} (depth : Nat) (h : q.Storable) :
    Written (depth + 1) encodeQuery decodeQuery q := by
  have htext := faithful_optionalString depth q.searchText
  have hstatus := faithful_token depth (StatusFilter.ofToken?_token q.status)
  obtain ⟨_, hwriteAfter, hafter⟩ := written_optionalInstant depth h.createdAfter
  obtain ⟨_, hwriteBefore, hbefore⟩ := written_optionalInstant depth h.createdBefore
  have hskip := faithful_word depth h.skip
  have hlimit := faithful_optionalWord depth h.limit
  refine ⟨_, by rw [encodeQuery, hwriteAfter, hwriteBefore]; rfl, PlainMembers.obj ?_,
    ReadsFields.asRecord ?_⟩
  · exact .cons htext.plain <| .cons hstatus.plain <| .cons hafter.plain <| .cons hbefore.plain <|
      .cons hskip.plain <| .cons hlimit.plain .nil
  · exact .bind (.optional rfl htext.reads) <| .bind (.defaulted rfl hstatus.reads) <|
      .bind (.optional rfl hafter.reads) <| .bind (.optional rfl hbefore.reads) <|
      .bind (.defaulted rfl hskip.reads) <| .bind (.optional rfl hlimit.reads) <| .pure _

/-- The properties of an object can be written and stand for themselves if their time does. -/
theorem written_objectInfo {i : ObjectInfo} (depth : Nat) (h : i.Storable) :
    Written (depth + 1) encodeObjectInfo decodeObjectInfo i := by
  have hpath := faithful_string depth i.path
  have hsize := faithful_optionalWord depth h.size
  obtain ⟨_, hwrite, hmodified⟩ := written_optionalInstant depth h.lastModified
  refine ⟨_, by rw [encodeObjectInfo, hwrite]; rfl, PlainMembers.obj ?_, ReadsFields.asRecord ?_⟩
  · exact .cons hpath.plain <| .cons hsize.plain <| .cons hmodified.plain .nil
  · exact .bind (.required rfl hpath.reads) <| .bind (.nullable rfl hsize.reads) <|
      .bind (.optional rfl hmodified.reads) <| .pure _

/-! ### Settings and callers -/

/-- Settings of a storage stand for themselves. -/
theorem faithful_settings (depth : Nat) (s : StorageSettings) :
    Faithful (depth + 1) (encodeSettings s) decodeSettings s := by
  have hkind := faithful_token depth (StorageType.ofToken?_token s.kind)
  have hbucket := faithful_string depth s.bucket
  have hregion := faithful_optionalString depth s.region
  have hkey := faithful_optionalString depth s.key
  have hsecret := faithful_optionalString depth s.secret
  have htoken := faithful_optionalString depth s.token
  have huri := faithful_optionalString depth s.uri
  have hexternal := faithful_optionalString depth s.externalUri
  have hconnection := faithful_optionalString depth s.connectionString
  have hstyle := faithful_bool depth s.forcePathStyle
  have haccelerate := faithful_bool depth s.useAccelerate
  refine ⟨PlainMembers.obj ?_, ReadsFields.asRecord ?_⟩
  · exact .cons hkind.plain <| .cons hbucket.plain <| .cons hregion.plain <| .cons hkey.plain <|
      .cons hsecret.plain <| .cons htoken.plain <| .cons huri.plain <| .cons hexternal.plain <|
      .cons hconnection.plain <| .cons hstyle.plain <| .cons haccelerate.plain .nil
  · exact .bind (.defaulted rfl hkind.reads) <| .bind (.required rfl hbucket.reads) <|
      .bind (.optional rfl hregion.reads) <| .bind (.optional rfl hkey.reads) <|
      .bind (.optional rfl hsecret.reads) <| .bind (.optional rfl htoken.reads) <|
      .bind (.optional rfl huri.reads) <| .bind (.optional rfl hexternal.reads) <|
      .bind (.optional rfl hconnection.reads) <| .bind (.defaulted rfl hstyle.reads) <|
      .bind (.defaulted rfl haccelerate.reads) <| .pure _

/-- An identity stands for itself. -/
theorem faithful_identity (depth : Nat) (i : Identity) :
    Faithful (depth + 1) (encodeIdentity i) decodeIdentity i := by
  have hsubject := faithful_string depth i.subject
  have htenant := faithful_optionalString depth i.tenant
  refine ⟨PlainMembers.obj ?_, ReadsFields.asRecord ?_⟩
  · exact .cons hsubject.plain <| .cons htenant.plain .nil
  · exact .bind (.required rfl hsubject.reads) <| .bind (.optional rfl htenant.reads) <| .pure _

end Codec

end Fleet
