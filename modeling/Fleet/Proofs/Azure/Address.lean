import Fleet.Azure.Storage
import Fleet.Proofs.Azure.Account
import Fleet.Proofs.Text.Split
import Fleet.Proofs.Url.Append

/-!
# `Fleet.Proofs.Azure.Address`: where blobs are found

The signature of a grant covers the key of a blob as it stands, while its address is put together
segment by segment. `Target.address_names_blob` says when the two agree: exactly if no part of the
key, nor the container, is dots or holds a tab or a line break, and the endpoint leaves room for
them (`Target.Addressable`). Keys of this kind never share an address. Others do:
`Target.keys_share_address` has two keys with one address.
-/

set_option autoImplicit false

namespace Fleet

/-- What follows a step is reached through its result. -/
theorem bind_eq_ok_iff {ε α β : Type} {x : Except ε α} {f : α → Except ε β} {b : β} :
    x.bind f = .ok b ↔ ∃ a, x = .ok a ∧ f a = .ok b := by
  cases x with
  | error e => exact ⟨nofun, fun ⟨_, h, _⟩ => nomatch h⟩
  | ok a =>
    refine ⟨fun h => ⟨a, rfl, h⟩, fun ⟨_, h, hb⟩ => ?_⟩
    cases h
    exact hb

namespace Azure

open Fleet.Text Fleet.Time Fleet.Url

/-! ### Accounts of targets -/

namespace Storage

variable {s : Storage} {t : Target} {ctx : Context} {op : ObjectOp}

/-- Whether the account of a storage, if there is one, was built. -/
def IsBuilt (s : Storage) : Prop := ∀ a ∈ s.options.account, a.Built

/-- The account of settings that come with a request is built from them. -/
theorem built_of_settings {settings : StorageSettings} (h : Target.ofSettings settings = .ok t) :
    t.account.Built := by
  -- Whichever way the account is made, a failure to make it is passed on.
  have hmade {x : Except CredentialsError Account}
      (hx : ((x.mapError fun e => ObjectError.invalidSettings e.message).bind fun account =>
        .ok { account, container := settings.bucket }) = Except.ok t) : x = .ok t.account := by
    cases x with
    | error e => cases hx
    | ok account =>
      cases hx
      rfl
  rw [Target.ofSettings] at h
  by_cases hkind : settings.kind = .azure
  · rw [if_neg (not_not_intro hkind)] at h
    cases hvalid : settings.validate with
    | error e =>
      rw [hvalid] at h
      cases h
    | ok u =>
      rw [hvalid] at h
      cases hconnection : settings.connectionString with
      | some connection =>
        rw [hconnection] at h
        exact .inr ⟨connection, hmade h⟩
      | none =>
        cases hkey : settings.key with
        | none =>
          rw [hconnection, hkey] at h
          cases h
        | some key =>
          cases hsecret : settings.secret with
          | none =>
            rw [hconnection, hkey, hsecret] at h
            cases h
          | some secret =>
            rw [hconnection, hkey, hsecret] at h
            exact .inl ⟨key, secret, settings.uri, hmade h⟩
  · rw [if_pos hkind] at h
    cases h

/-- Whether settings come with the request or not, the account was built. -/
theorem built_of_target (hs : s.IsBuilt) (h : s.target ctx op = .ok t) : t.account.Built := by
  rw [target] at h
  cases hsettings : ctx.settings with
  | some settings =>
    rw [hsettings] at h
    exact built_of_settings h
  | none =>
    rw [hsettings] at h
    cases haccount : s.options.account with
    | none =>
      rw [haccount] at h
      cases h
    | some account =>
      rw [haccount] at h
      cases h
      exact hs account haccount

end Storage

namespace Target

variable {t : Target} {key key' : String} {url url' : Url}

/-- The names that lead to a blob: that of the container, then the parts of the key. -/
def names (t : Target) (key : String) : List String := t.container :: splitText '/' key

/-- What the path of the endpoint has in front of its last slash. -/
def front (t : Target) : List String := t.account.endpoint.segments.dropLast

/-- Whether an address leads to a blob: behind the segments of the endpoint, its segments are
decoded to the names of the blob. -/
def LeadsTo (t : Target) (url : Url) (key : String) : Prop :=
  ∃ rest, url.segments = t.front ++ rest ∧ rest.map segmentBytes = (t.names key).map utf8Text

/-- Whether a blob can be addressed. -/
structure Addressable (t : Target) (key : String) : Prop where
  /-- No name is dots or holds what is dropped. -/
  isName : ∀ name ∈ t.names key, IsName name
  /-- The path of the endpoint is no pair of slashes, of which one would be lost. -/
  front : t.front ≠ [""]
  /-- The container has a name, or the endpoint a path in front of it. -/
  container : t.front = [] → t.container ≠ ""

/-! ### Names -/

/-- The signed name of a blob is made of the names that lead to it. -/
theorem canonical_blob (t : Target) (key : String) :
    (Resource.blob t.container key).canonical t.account.name
      = "/blob/" ++ t.account.name ++ "/" ++ "/".intercalate (t.names key) := by
  have hkey : "/".intercalate (splitText '/' key) = key := intercalate_splitText '/' key
  have hne : splitText '/' key ≠ [] := by simpa [splitText] using split_ne_nil '/' key.toList
  rw [names, String.intercalate_cons_of_ne_nil hne, hkey, Resource.canonical]
  simp only [String.append_assoc]

/-- An address leads to one blob of a container. -/
theorem LeadsTo.unique (h : t.LeadsTo url key) (h' : t.LeadsTo url' key')
    (hpath : url'.path = url.path) : key' = key := by
  obtain ⟨rest, hrest, hnames⟩ := h
  obtain ⟨rest', hrest', hnames'⟩ := h'
  have hsegments : url'.segments = url.segments := by rw [segments, hpath]; rfl
  have hsame : rest' = rest := List.append_cancel_left
    (hrest'.symm.trans (hsegments.trans hrest))
  rw [hsame, hnames] at hnames'
  have hparts : t.names key = t.names key' :=
    (List.map_inj_right fun _ _ => utf8Text_injective).1 hnames'
  exact splitText_inj (List.cons.inj hparts).2.symm

/-! ### Addresses -/

/-- Names are put behind an endpoint without the slash at its end. -/
theorem appendNames_endpoint (h : IsServiceAddress url) :
    ∃ start : Url, (∀ names, url.appendNames names = names.foldl appendName start) ∧
      start.trunk = if url.segments.dropLast = [""] then [] else url.segments.dropLast := by
  have hsegments : url.segments = url.segments.dropLast ++ [""] := by
    conv => lhs; rw [segments, h.path]
  have hlast : url.segments.getLast? = some "" := by rw [hsegments, List.getLast?_concat]
  by_cases hlong : 2 ≤ url.segments.length
  · refine ⟨{ url with path := .segments url.segments.dropLast }, fun names => ?_, rfl⟩
    rw [appendNames, if_pos (by simp [hlong, hlast])]
  · have hnil : url.segments.dropLast = [] := List.eq_nil_of_length_eq_zero (by simp; omega)
    refine ⟨url, fun names => ?_, ?_⟩
    · rw [appendNames, if_neg (by simp [hlong])]
    · rw [trunk, hsegments, hnil]
      rfl

/-- The address of a blob is that of the service with the container and the parts of the key put
behind it. -/
theorem blobUrl_of_service (h : IsServiceAddress t.account.endpoint) (key : String) :
    t.blobUrl key = .ok ((splitText '/' key).foldl appendName
      (t.account.endpoint.appendNames [t.container])) := by
  have hcontainer : t.containerUrl = .ok (t.account.endpoint.appendNames [t.container]) := by
    rw [containerUrl, h.path]
  rw [blobUrl, hcontainer]
  rfl

/-- The names of a blob are put, one after the other, behind the path of the endpoint without its
last slash. A path of one slash counts as none. -/
theorem blobUrl_eq (h : IsServiceAddress t.account.endpoint) (key : String) :
    ∃ start : Url, t.blobUrl key = .ok ((t.names key).foldl appendName start) ∧
      start.trunk = if t.front = [""] then [] else t.front := by
  obtain ⟨start, hstart, htrunk⟩ := appendNames_endpoint h
  refine ⟨start, ?_, htrunk⟩
  rw [blobUrl_of_service h, hstart]
  rfl

/-- The address of a blob has no query, so that all of its pairs are put behind it. -/
theorem query_of_blobUrl (h : t.account.Built) (hurl : t.blobUrl key = .ok url) :
    url.query = none := by
  rw [blobUrl_of_service h.endpoint] at hurl
  cases hurl
  rw [query_foldl_appendName, query_appendNames, h.endpoint.noQuery]

/-- Every blob of a built account has an address. Whether it leads to the blob is another matter. -/
theorem blobUrl_ok (h : t.account.Built) (key : String) : ∃ url, t.blobUrl key = .ok url := by
  obtain ⟨start, hurl, -⟩ := blobUrl_eq h.endpoint key
  exact ⟨_, hurl⟩

/-- A blob has two names at least, its container and one part of its key, which may be empty. -/
theorem two_le_length_names (t : Target) (key : String) : 2 ≤ (t.names key).length := by
  have hparts : (splitText '/' key).length ≠ 0 := by
    simpa [splitText] using split_ne_nil '/' key.toList
  rw [names, List.length_cons]
  omega

/-- The address of a blob leads to it exactly if the blob can be addressed. -/
theorem leadsTo_iff (h : t.account.Built) (hurl : t.blobUrl key = .ok url) :
    t.LeadsTo url key ↔ t.Addressable key := by
  obtain ⟨start, hblob, htrunk⟩ := blobUrl_eq h.endpoint key
  have hlong := two_le_length_names t key
  rw [hurl] at hblob
  cases hblob
  constructor
  · rintro ⟨rest, hrest, hnames⟩
    have hlength : rest.length = (t.names key).length := by
      simpa using congrArg List.length hnames
    have hsegments : ((t.names key).foldl appendName start).trunk = t.front ++ rest := by
      rw [trunk, if_neg, hrest]
      intro hslash
      have := congrArg List.length (hrest.symm.trans hslash)
      simp only [List.length_append, List.length_singleton] at this
      omega
    -- A front of one slash would be gone from the trunk, which is then too short.
    have hfront : t.front ≠ [""] := fun hfront => by
      have hle := length_trunk_foldl_le start (t.names key)
      rw [hsegments, htrunk, if_pos hfront, hfront] at hle
      simp only [List.length_append, List.length_singleton, List.length_nil] at hle
      omega
    rw [if_neg hfront] at htrunk
    have hdecoded : ((t.names key).foldl appendName start).trunk.map segmentBytes
        = start.trunk.map segmentBytes ++ (t.names key).map utf8Text := by
      rw [hsegments, htrunk, List.map_append, hnames]
    obtain ⟨hisName, hhead⟩ := of_map_trunk_foldl hdecoded
    exact ⟨hisName, hfront, fun hnil hempty => hhead (htrunk.trans hnil) (congrArg some hempty)⟩
  · intro haddressable
    rw [if_neg haddressable.front] at htrunk
    -- Names that stay whole are appended one by one.
    have hfold := trunk_foldl_of_isName (a := start) haddressable.isName fun hnil hempty =>
      haddressable.container (htrunk.symm.trans hnil) (Option.some.inj hempty)
    have hne : ((t.names key).foldl appendName start).trunk ≠ [] := fun hnil => by
      have := congrArg List.length (hfold.symm.trans hnil)
      simp only [List.length_append, List.length_map, List.length_nil] at this
      omega
    have hsegments := (trunk_eq_segments hne).symm.trans hfold
    refine ⟨(t.names key).map writtenName, ?_, ?_⟩
    · rw [hsegments, htrunk]
    · simp only [List.map_map, Function.comp_def, segmentBytes_writtenName]

/-! ### Links -/

variable {now : Instant} {method : LinkMethod} {lifetime : Span} {disposition : Option String}
  {link : Link}

/-- What a link allows to do with its blob. -/
def linkPermission : LinkMethod → Permission
  | .get => .read
  | .put => .createWrite
  | .delete => .delete

/-- The grant that a link carries. -/
def linkGrant (t : Target) (now : Instant) (key : String) (method : LinkMethod) (lifetime : Span)
    (disposition : Option String) : Grant :=
  grantFor now (linkPermission method) (.blob t.container key) (linkBounds.clamp lifetime)
    disposition

/-- A link is the address of its blob, signed for the window of the link. -/
theorem blobLink_eq :
    blobLink t now key method lifetime disposition = (t.blobUrl key).bind fun url =>
      (signUrl t (t.linkGrant now key method lifetime disposition) url).bind fun signed =>
        .ok { uri := signed.text, method, expire := linkBounds.expireAt now lifetime } := by
  cases method <;> rfl

/-- A link to a blob is its address with the pairs of a grant on the blob. -/
theorem blobLink_eq_ok_iff :
    blobLink t now key method lifetime disposition = .ok link ↔
      ∃ url, t.blobUrl key = .ok url ∧
        ∃ pairs, (t.linkGrant now key method lifetime disposition).pairs t.account = .ok pairs ∧
          { uri := (url.withPairs pairs).text, method,
            expire := linkBounds.expireAt now lifetime } = link := by
  rw [blobLink_eq, bind_eq_ok_iff]
  refine exists_congr fun url => and_congr_right fun _ => ?_
  rw [signUrl, Grant.sign]
  cases (t.linkGrant now key method lifetime disposition).pairs t.account with
  | error e => exact ⟨nofun, fun ⟨_, h, _⟩ => nomatch h⟩
  | ok pairs =>
    refine ⟨fun h => ⟨pairs, rfl, Except.ok.inj h⟩, fun ⟨_, h, hlink⟩ => ?_⟩
    cases h
    exact congrArg Except.ok hlink

/-- The address of a blob leads to it exactly if the blob can be addressed, and the signature of a
link on that address is for the same names. Blobs that can be addressed never share an address. -/
theorem address_names_blob (h : t.account.Built) (key : String) :
    ∃ url, t.blobUrl key = .ok url ∧ (t.LeadsTo url key ↔ t.Addressable key) ∧
      (∀ key' url', t.blobUrl key' = .ok url' → t.Addressable key → t.Addressable key' →
        url'.path = url.path → key' = key) ∧
      (Resource.blob t.container key).canonical t.account.name
        = "/blob/" ++ t.account.name ++ "/" ++ "/".intercalate (t.names key) ∧
      ∀ now method lifetime disposition link,
        blobLink t now key method lifetime disposition = .ok link →
          ∃ g pairs, g.resource = .blob t.container key ∧ Grant.pairs g t.account = .ok pairs ∧
            link.uri = (url.withPairs pairs).text := by
  obtain ⟨url, hurl⟩ := blobUrl_ok h key
  refine ⟨url, hurl, leadsTo_iff h hurl, fun key' url' hurl' hkey hkey' => ?_, canonical_blob t key,
    fun now method lifetime disposition link hlink => ?_⟩
  · exact ((leadsTo_iff h hurl).2 hkey).unique ((leadsTo_iff h hurl').2 hkey')
  · obtain ⟨url', hurl', pairs, hpairs, rfl⟩ := blobLink_eq_ok_iff.1 hlink
    cases hurl.symm.trans hurl'
    exact ⟨_, pairs, rfl, hpairs, rfl⟩

/-- A container in the sample account. -/
def sampleTarget : Target where
  account := .sample
  container := "artifacts"

/-- The account of the sample target is one that a connection or a key gives. -/
theorem built_sampleTarget : sampleTarget.account.Built := Account.built_sample

/-- The address of the sample container with segments behind it. -/
def sampleUrl (segments : List String) : Url :=
  { sampleTarget.account.endpoint with path := .segments ("artifacts" :: segments) }

/-- A key with an empty part, a percent sign, a space and a letter outside ASCII is addressed. -/
theorem address_names_blob_sample :
    sampleTarget.blobUrl "dir//50% é" = .ok (sampleUrl ["dir", "", "50%25%20%C3%A9"]) ∧
    sampleTarget.LeadsTo (sampleUrl ["dir", "", "50%25%20%C3%A9"]) "dir//50% é" := by
  have hblob : sampleTarget.blobUrl "dir//50% é"
      = .ok (sampleUrl ["dir", "", "50%25%20%C3%A9"]) := by
    decide +kernel
  obtain ⟨url, hurl, hleads, -⟩ := address_names_blob built_sampleTarget "dir//50% é"
  cases hblob.symm.trans hurl
  have hnames : sampleTarget.names "dir//50% é" = ["artifacts", "dir", "", "50% é"] := by
    decide +kernel
  have hisName : ∀ name ∈ ["artifacts", "dir", "", "50% é"], IsName name := by
    simp only [List.forall_mem_cons]
    decide
  exact ⟨hblob, hleads.2 ⟨hnames ▸ hisName, by decide, by decide⟩⟩

/-- A tab in a key is dropped from the address, and a part of two dots is left out. Either way the
address is that of another blob, while the signature names the key as it stands. -/
theorem keys_share_address :
    sampleTarget.account.Built ∧
    sampleTarget.blobUrl "dir/x\ty" = sampleTarget.blobUrl "dir/xy" ∧
    sampleTarget.blobUrl "dir/../x" = sampleTarget.blobUrl "dir/x" ∧
    sampleTarget.blobUrl "dir/x\ty" = .ok (sampleUrl ["dir", "xy"]) ∧
    ¬sampleTarget.LeadsTo (sampleUrl ["dir", "xy"]) "dir/x\ty" := by
  refine ⟨built_sampleTarget, by decide +kernel, by decide +kernel, by decide +kernel, ?_⟩
  rintro ⟨rest, hrest, hnames⟩
  have hrest : ["artifacts", "dir", "xy"] = rest := hrest
  rw [← hrest] at hnames
  exact absurd hnames (by decide +kernel)

end Target

end Azure

end Fleet
