import Fleet.Proofs.Json.RoundTrip
import Fleet.Proofs.Time.Rfc3339
import Fleet.Store.Relational

/-!
# `Fleet.Proofs.Codec.RoundTrip`: stored values are read back from their documents

`Faithful depth v dec a` says that JSON stands for a value: its text is read back, and the reader
turns it into the value. `Written depth enc dec a` says that a writer which may fail gives such JSON
for the value. Options, lists and records are put together from their parts.

A value is `Storable` if all of its times are representable and its numbers fit the words that
they are kept in. Nothing else can go wrong (`encode_deployment`, `encode_record`,
`encode_log`).
-/

set_option autoImplicit false

namespace Fleet

/-- Computations that all succeed give the list of their results. -/
theorem mapM_eq_pure_map {m : Type → Type} [Monad m] [LawfulMonad m] {α β : Type} {f : α → m β}
    {g : α → β} {l : List α} (h : ∀ a ∈ l, f a = pure (g a)) : l.mapM f = pure (l.map g) := by
  induction l with
  | nil => rfl
  | cons a rest ih =>
    have hrest := ih fun b hb => h b (List.mem_cons_of_mem _ hb)
    rw [List.mapM_cons, h a List.mem_cons_self, hrest, pure_bind, pure_bind, List.map_cons]

namespace Codec

open Fleet.Time Fleet.Json

/-- JSON that nests no deeper than `depth` stands for a value: the reader gives that value. -/
structure Faithful {α : Type} (depth : Nat) (v : Json) (dec : Decoder α) (a : α) : Prop where
  plain : Plain depth v
  reads : dec v = some a

/-- A value can be written, and what is written stands for it. -/
def Written {α : Type} (depth : Nat) (enc : Encoder α) (dec : Decoder α) (a : α) : Prop :=
  ∃ v, enc a = .ok v ∧ Faithful depth v dec a

/-! ### Single values -/

/-- A text stands for itself. -/
theorem faithful_string (depth : Nat) (s : String) : Faithful depth (.str s) asString s where
  plain := .str s
  reads := rfl

/-- A truth value stands for itself. -/
theorem faithful_bool (depth : Nat) (b : Bool) : Faithful depth (.bool b) asBool b where
  plain := .bool b
  reads := rfl

/-- A number under a bound stands for itself. The bound must not exceed a word, as the text of a
greater number is not read as a whole one. -/
theorem faithful_nat {bound n : Nat} (depth : Nat) (hbound : bound ≤ 2 ^ 64) (h : n < bound) :
    Faithful depth (.ofNat n) (asNatBelow bound) n where
  plain := by
    have hlow : -(2 ^ 63) ≤ (n : Int) := by omega
    have hhigh : (n : Int) < 2 ^ 64 := by omega
    exact .int hlow hhigh
  reads := by
    rw [ofNat, asNatBelow, Int.toNat_natCast]
    exact if_pos ⟨Int.natCast_nonneg n, h⟩

/-- A number that fits into a word stands for itself. -/
theorem faithful_word {n : Nat} (depth : Nat) (h : n < 2 ^ 64) :
    Faithful depth (.ofNat n) asWord n := by
  rw [asWord]
  exact faithful_nat depth (Nat.le_refl _) h

/-- A number that fits into half a word stands for itself. -/
theorem faithful_halfWord {n : Nat} (depth : Nat) (h : n < 2 ^ 32) :
    Faithful depth (.ofNat n) asHalfWord n := by
  rw [asHalfWord]
  exact faithful_nat depth (by decide) h

/-- A representable time is written as its exchange text. -/
theorem encodeInstant_of_representable {t : Instant} (h : t.Representable) :
    encodeInstant t = .ok (.str t.text) := by
  rw [encodeInstant, Instant.unwritable?_eq_none_iff.2 h, Option.elim_none]

/-- The exchange text of a representable time stands for it, offset and nanoseconds included. -/
theorem faithful_instant {t : Instant} (depth : Nat) (h : t.Representable) :
    Faithful depth (.str t.text) decodeInstant t where
  plain := .str t.text
  reads := by
    rw [decodeInstant, asString, Option.bind_some]
    exact Instant.parse_text h

/-- A representable time can be written and stands for itself. -/
theorem written_instant {t : Instant} (depth : Nat) (h : t.Representable) :
    Written depth encodeInstant decodeInstant t :=
  ⟨.str t.text, encodeInstant_of_representable h, faithful_instant depth h⟩

/-- A status stands for itself. -/
theorem faithful_status (depth : Nat) (s : DeviceStatus) :
    Faithful depth (encodeStatus s) decodeStatus s where
  plain := .str _
  reads := DeviceStatus.ofToken?_token s

/-! ### Options and lists -/

/-- What is not `null` is read as a value that is there. -/
theorem asOption_of_ne_null {α : Type} {dec : Decoder α} {v : Json} (h : v ≠ .null) :
    asOption dec v = (dec v).map some := by
  cases v with
  | null => exact absurd rfl h
  | _ => rfl

/-- The reader of a required value reads it as a value that is there, unless it is `null`. -/
theorem Faithful.some {α : Type} {depth : Nat} {v : Json} {dec : Decoder α} {a : α}
    (h : Faithful depth v dec a) (hnull : v ≠ .null) :
    Faithful depth v (asOption dec) (some a) where
  plain := h.plain
  reads := by rw [asOption_of_ne_null hnull, h.reads, Option.map_some]

/-- A text that may be absent stands for itself, since no text is `null`. -/
theorem faithful_optionalString (depth : Nat) (s : Option String) :
    Faithful depth (.ofOption .str s) (asOption asString) s := by
  cases s with
  | none => exact ⟨.null, rfl⟩
  | some s => exact (faithful_string depth s).some Json.noConfusion

/-- A number that may be absent stands for itself if it fits into a word. -/
theorem faithful_optionalWord {n : Option Nat} (depth : Nat) (h : ∀ x ∈ n, x < 2 ^ 64) :
    Faithful depth (.ofOption .ofNat n) (asOption asWord) n := by
  cases n with
  | none => exact ⟨.null, rfl⟩
  | some n => exact (faithful_word depth (h n rfl)).some Json.noConfusion

/-- A value that may be absent is written as `null` or as itself. For the reader to tell the two
apart, nothing that is read as a value may be `null`. -/
theorem Written.option {α : Type} {depth : Nat} {enc : Encoder α} {dec : Decoder α} {a : Option α}
    (hnull : dec .null = none) (h : ∀ x ∈ a, Written depth enc dec x) :
    Written depth (encodeOption enc) (asOption dec) a := by
  cases a with
  | none => exact ⟨.null, rfl, .null, rfl⟩
  | some x =>
    obtain ⟨v, hv, hfaithful⟩ := h x rfl
    refine ⟨v, hv, hfaithful.some ?_⟩
    rintro rfl
    cases hnull.symm.trans hfaithful.reads

/-- A time that may be absent can be written and stands for itself if it is representable. -/
theorem written_optionalInstant {t : Option Instant} (depth : Nat)
    (h : ∀ x ∈ t, x.Representable) :
    Written depth (encodeOption encodeInstant) (asOption decodeInstant) t :=
  .option rfl fun x hx => written_instant depth (h x hx)

/-- A list can be written if all of its items can. -/
theorem Written.list {α : Type} {depth : Nat} {enc : Encoder α} {dec : Decoder α} {l : List α}
    (h : ∀ x ∈ l, Written depth enc dec x) :
    Written (depth + 1) (encodeList enc) (asList dec) l := by
  obtain ⟨items, hitems, hplain, hread⟩ : ∃ items, l.mapM enc = .ok items ∧
      (∀ v ∈ items, Plain depth v) ∧ items.mapM dec = some l := by
    induction l with
    | nil => exact ⟨[], rfl, nofun, rfl⟩
    | cons x rest ih =>
      obtain ⟨v, hv, hfaithful⟩ := h x List.mem_cons_self
      obtain ⟨items, hitems, hplain, hread⟩ := ih fun y hy => h y (List.mem_cons_of_mem x hy)
      refine ⟨v :: items, ?_, List.forall_mem_cons.2 ⟨hfaithful.plain, hplain⟩, ?_⟩
      · rw [List.mapM_cons, hv, hitems]
        rfl
      · rw [List.mapM_cons, hfaithful.reads, hread]
        rfl
  exact ⟨.arr items, by rw [encodeList, hitems]; rfl, .arr hplain, hread⟩

/-- A list of texts stands for itself. -/
theorem faithful_strings (depth : Nat) (l : List String) :
    Faithful (depth + 1) (.ofStrings l) (asList asString) l where
  plain := .arr fun v hv => by
    obtain ⟨s, -, rfl⟩ := List.mem_map.1 hv
    exact .str s
  reads := by
    show (l.map .str).mapM asString = some l
    rw [List.mapM_map]
    exact (mapM_eq_pure_map fun _ _ => rfl).trans (congrArg some (List.map_id l))

/-! ### Records -/

/-- Members whose values nest no deeper than `depth`. -/
def PlainMembers (depth : Nat) (members : List (String × Json)) : Prop :=
  ∀ m ∈ members, Plain depth m.2

namespace PlainMembers

variable {depth : Nat} {members : List (String × Json)}

/-- An object without members is plain. -/
theorem nil : PlainMembers depth [] := List.forall_mem_nil _

/-- One more plain member leaves an object plain. -/
theorem cons {name : String} {v : Json} (hv : Plain depth v) (h : PlainMembers depth members) :
    PlainMembers depth ((name, v) :: members) :=
  List.forall_mem_cons.2 ⟨hv, h⟩

/-- An object is plain one level above its members. -/
theorem obj (h : PlainMembers depth members) : Plain (depth + 1) (.obj members) := .obj h

end PlainMembers

/-- A reader of fields gives `a` on an object with the given members. -/
def ReadsFields {α : Type} (fields : FieldReader α) (members : List (String × Json)) (a : α) :
    Prop :=
  fields (.named members) = some (a, .named members)

namespace ReadsFields

variable {α β : Type} {members : List (String × Json)}

/-- A value that needs no field is read from any members. -/
theorem pure (a : α) : ReadsFields (Pure.pure a) members a := rfl

/-- Two readers in a row read the same members, one after the other. -/
theorem bind {x : FieldReader α} {f : α → FieldReader β} {a : α} {b : β}
    (hx : ReadsFields x members a) (hf : ReadsFields (f a) members b) :
    ReadsFields (x >>= f) members b := by
  show (x (.named members)).bind (fun (a, source) => f a source) = _
  rw [hx]
  exact hf

/-- The value of a name that occurs once. -/
theorem next {name : String} {v : Json} (h : members.filter (·.1 == name) = [(name, v)]) :
    ReadsFields (FieldReader.next name) members (some v) := by
  unfold ReadsFields FieldReader.next
  dsimp only
  rw [h]

/-- A value that is there is read without looking at the members. -/
theorem lift {x : Option α} {a : α} (h : x = some a) : ReadsFields (StateT.lift x) members a := by
  rw [h]
  rfl

/-- A field that must be there is found under its name and read, if no other member has that
name. -/
theorem required {name : String} {v : Json} {dec : Decoder α} {a : α}
    (h : members.filter (·.1 == name) = [(name, v)]) (hv : dec v = some a) :
    ReadsFields (FieldReader.required name dec) members a :=
  (next h).bind (lift hv)

/-- A field with a default is found under its name and read as it stands. -/
theorem defaulted {name : String} {v : Json} {dec : Decoder α} {a default : α}
    (h : members.filter (·.1 == name) = [(name, v)]) (hv : dec v = some a) :
    ReadsFields (FieldReader.defaulted name dec default) members a :=
  (next h).bind (lift hv)

/-- A field that may be left out is found under its name and read. -/
theorem optional {name : String} {v : Json} {dec : Decoder α} {a : Option α}
    (h : members.filter (·.1 == name) = [(name, v)]) (hv : asOption dec v = some a) :
    ReadsFields (FieldReader.optional name dec) members a :=
  defaulted h hv

/-- An object is read as what the reader of its fields makes of the members. -/
theorem asRecord {fields : FieldReader α} {a : α} (h : ReadsFields fields members a) :
    asRecord fields (.obj members) = some a := by
  rw [Json.asRecord, h, Option.map_some]

end ReadsFields

/-! ### Counters -/

/-- Counters are read one by one into those of a start: what was written is set, and all others
stay. It is an induction on the statuses whose counters are written. -/
theorem foldlM_addCounter (st : Stats) (l : List DeviceStatus) (start : Stats) :
    ∃ st', (l.map fun s => (s.token, (st.count s).toNat)).foldlM addCounter start = some st' ∧
      ∀ s, st'.count s = if s ∈ l then st.count s else start.count s := by
  induction l generalizing start with
  | nil => exact ⟨start, rfl, fun s => rfl⟩
  | cons s rest ih =>
    obtain ⟨st', hfold, hcount⟩ := ih (start.set s (st.count s))
    refine ⟨st', ?_, fun t => ?_⟩
    · have hword : (st.count s).toNat.toUInt64 = st.count s := UInt64.ofNat_toNat
      have hadd : addCounter start (s.token, (st.count s).toNat)
          = some (start.set s (st.count s)) := by
        rw [addCounter, DeviceStatus.ofToken?_token, Option.map_some, hword]
      rw [List.map_cons, List.foldlM_cons, hadd]
      exact hfold
    · rw [hcount t]
      by_cases ht : t = s
      · rw [ht, Stats.count_set_self, if_pos List.mem_cons_self, ite_self]
      · simp only [Stats.count_set_of_ne _ _ ht, List.mem_cons, ht, false_or]

/-- Counters stand for themselves, since all of them are written. -/
theorem faithful_stats (depth : Nat) (st : Stats) :
    Faithful (depth + 1) (encodeStats st) decodeStats st where
  plain := .obj fun m hm => by
    obtain ⟨⟨s, n⟩, -, rfl⟩ := List.mem_map.1 hm
    exact (faithful_word depth n.toNat_lt).plain
  reads := by
    have hmembers : asMembers asWord (encodeStats st)
        = some (DeviceStatus.all.map fun s => (s.token, (st.count s).toNat)) := by
      show (st.toList.map _).mapM _ = _
      rw [Stats.toList, List.map_map, List.mapM_map]
      refine mapM_eq_pure_map fun s _ => ?_
      have hs : asWord (.ofNat (st.count s).toNat) = some (st.count s).toNat :=
        (faithful_word depth (st.count s).toNat_lt).reads
      show (asWord (.ofNat (st.count s).toNat)).map _ = _
      rw [hs]
      rfl
    obtain ⟨st', hfold, hcount⟩ := foldlM_addCounter st DeviceStatus.all .zero
    rw [decodeStats, hmembers, Option.bind_some, hfold]
    congr 1
    ext s
    rw [hcount s, if_pos (DeviceStatus.mem_all s)]

end Codec

/-! ### What can be stored -/

namespace Artifact

/-- The size fits its word, and the time of the last change has an exchange text. -/
structure Storable (a : Artifact) : Prop where
  size : ∀ n ∈ a.size, n < 2 ^ 64
  modified : ∀ t ∈ a.modified, t.Representable

end Artifact

namespace Plan

/-- The numbers fit their words. -/
structure Storable (p : Plan) : Prop where
  retries : p.retries < 2 ^ 32
  maxDevices : ∀ n ∈ p.maxDevices, n < 2 ^ 64

end Plan

namespace Deployment

/-- The numbers fit their words, and the times have exchange texts. -/
structure Storable (d : Deployment) : Prop where
  plan : d.plan.Storable
  created : d.created.Representable
  finished : ∀ t ∈ d.finished, t.Representable
  deviceCount : d.deviceCount < 2 ^ 64
  maxDevices : d.maxDevices < 2 ^ 64

end Deployment

namespace DeviceRecord

/-- The artifact is storable, and the times have exchange texts. -/
structure Storable (r : DeviceRecord) : Prop where
  artifact : ∀ a ∈ r.artifact, a.Storable
  created : r.created.Representable
  finished : ∀ t ∈ r.finished, t.Representable

end DeviceRecord

namespace DeploymentLog

/-- The times of the lines have exchange texts. -/
def Storable (l : DeploymentLog) : Prop := ∀ m ∈ l.messages, m.timestamp.Representable

end DeploymentLog

namespace Codec

/-! ### Artifacts, plans and deployments -/

-- Each of these is a record whose members are faithful. The first part collects the JSON of the
-- members, the second reads them in the order in which the reader asks for them.

/-- A storable artifact can be written and stands for itself. -/
theorem written_artifact {a : Artifact} (depth : Nat) (h : a.Storable) :
    Written (depth + 2) encodeArtifact decodeArtifact a := by
  have hid := faithful_string (depth + 1) a.id
  have hname := faithful_string (depth + 1) a.name
  have htypes := faithful_strings depth a.deviceTypes
  have hsize := faithful_optionalWord (depth + 1) h.size
  obtain ⟨_, hwrite, hmodified⟩ := written_optionalInstant (depth + 1) h.modified
  refine ⟨_, by rw [encodeArtifact, hwrite]; rfl, PlainMembers.obj ?_, ReadsFields.asRecord ?_⟩
  · exact .cons hid.plain <| .cons hname.plain <| .cons htypes.plain <| .cons hsize.plain <|
      .cons hmodified.plain .nil
  · exact .bind (.required rfl hid.reads) <| .bind (.required rfl hname.reads) <|
      .bind (.defaulted rfl htypes.reads) <| .bind (.optional rfl hsize.reads) <|
      .bind (.optional rfl hmodified.reads) <| .pure _

/-- A storable plan stands for itself. It holds no time, so it can always be written. -/
theorem faithful_plan {p : Plan} (depth : Nat) (h : p.Storable) :
    Faithful (depth + 2) (encodePlan p) decodePlan p := by
  have hname := faithful_string (depth + 1) p.name
  have hartifact := faithful_string (depth + 1) p.artifactName
  have hdevices := faithful_strings depth p.devices
  have hgroup := faithful_optionalString (depth + 1) p.group
  have hretries := faithful_halfWord (depth + 1) h.retries
  have hmax := faithful_optionalWord (depth + 1) h.maxDevices
  refine ⟨PlainMembers.obj ?_, ReadsFields.asRecord ?_⟩
  · exact .cons hname.plain <| .cons hartifact.plain <| .cons hdevices.plain <|
      .cons hgroup.plain <| .cons hretries.plain <| .cons hmax.plain .nil
  · exact .bind (.required rfl hname.reads) <| .bind (.required rfl hartifact.reads) <|
      .bind (.defaulted rfl hdevices.reads) <| .bind (.optional rfl hgroup.reads) <|
      .bind (.defaulted rfl hretries.reads) <| .bind (.optional rfl hmax.reads) <| .pure _

/-- A storable deployment can be written and stands for itself. -/
theorem written_deployment {d : Deployment} (depth : Nat) (h : d.Storable) :
    Written (depth + 3) encodeDeployment decodeDeployment d := by
  have hid := faithful_string (depth + 2) d.id
  have hplan := faithful_plan depth h.plan
  have hstats := faithful_stats (depth + 1) d.stats
  obtain ⟨_, hwriteCreated, hcreated⟩ := written_instant (depth + 2) h.created
  obtain ⟨_, hwriteFinished, hfinished⟩ := written_optionalInstant (depth + 2) h.finished
  have hcount := faithful_word (depth + 2) h.deviceCount
  have hmax := faithful_word (depth + 2) h.maxDevices
  have hartifacts := faithful_strings (depth + 1) d.artifacts
  refine ⟨_, by rw [encodeDeployment, hwriteCreated, hwriteFinished]; rfl, PlainMembers.obj ?_,
    ReadsFields.asRecord ?_⟩
  · exact .cons hid.plain <| .cons hplan.plain <| .cons hstats.plain <| .cons hcreated.plain <|
      .cons hfinished.plain <| .cons hcount.plain <| .cons hmax.plain <|
      .cons hartifacts.plain .nil
  · exact .bind (.required rfl hid.reads) <| .bind (.required rfl hplan.reads) <|
      .bind (.required rfl hstats.reads) <| .bind (.required rfl hcreated.reads) <|
      .bind (.optional rfl hfinished.reads) <| .bind (.required rfl hcount.reads) <|
      .bind (.required rfl hmax.reads) <| .bind (.defaulted rfl hartifacts.reads) <| .pure _

/-! ### Records and logs -/

/-- A storable record of a device can be written and stands for itself. -/
theorem written_record {r : DeviceRecord} (depth : Nat) (h : r.Storable) :
    Written (depth + 3) encodeRecord decodeRecord r := by
  have hid := faithful_string (depth + 2) r.id
  have hdeployment := faithful_string (depth + 2) r.deploymentId
  have hdevice := faithful_string (depth + 2) r.deviceId
  obtain ⟨_, hwriteArtifact, hartifact⟩ := Written.option rfl fun a ha =>
    written_artifact depth (h.artifact a ha)
  have htype := faithful_optionalString (depth + 2) r.deviceType
  have hstatus := faithful_status (depth + 2) r.status
  have hsubstate := faithful_optionalString (depth + 2) r.substate
  obtain ⟨_, hwriteCreated, hcreated⟩ := written_instant (depth + 2) h.created
  obtain ⟨_, hwriteFinished, hfinished⟩ := written_optionalInstant (depth + 2) h.finished
  have hlog := faithful_bool (depth + 2) r.isLogAvailable
  refine ⟨_, by rw [encodeRecord, hwriteArtifact, hwriteCreated, hwriteFinished]; rfl,
    PlainMembers.obj ?_, ReadsFields.asRecord ?_⟩
  · exact .cons hid.plain <| .cons hdeployment.plain <| .cons hdevice.plain <|
      .cons hartifact.plain <| .cons htype.plain <| .cons hstatus.plain <|
      .cons hsubstate.plain <| .cons hcreated.plain <| .cons hfinished.plain <|
      .cons hlog.plain .nil
  · exact .bind (.required rfl hid.reads) <| .bind (.required rfl hdeployment.reads) <|
      .bind (.required rfl hdevice.reads) <| .bind (.optional rfl hartifact.reads) <|
      .bind (.optional rfl htype.reads) <| .bind (.required rfl hstatus.reads) <|
      .bind (.optional rfl hsubstate.reads) <| .bind (.required rfl hcreated.reads) <|
      .bind (.optional rfl hfinished.reads) <| .bind (.defaulted rfl hlog.reads) <| .pure _

/-- A log message with a representable time can be written and stands for itself. -/
theorem written_logMessage {m : LogMessage} (depth : Nat) (h : m.timestamp.Representable) :
    Written (depth + 1) encodeLogMessage decodeLogMessage m := by
  obtain ⟨_, hwrite, htime⟩ := written_instant depth h
  have hlevel := faithful_string depth m.level
  have hmessage := faithful_string depth m.message
  refine ⟨_, by rw [encodeLogMessage, hwrite]; rfl, PlainMembers.obj ?_, ReadsFields.asRecord ?_⟩
  · exact .cons htime.plain <| .cons hlevel.plain <| .cons hmessage.plain .nil
  · exact .bind (.required rfl htime.reads) <| .bind (.required rfl hlevel.reads) <|
      .bind (.required rfl hmessage.reads) <| .pure _

/-- A storable log can be written and stands for itself. -/
theorem written_log {l : DeploymentLog} (depth : Nat) (h : l.Storable) :
    Written (depth + 3) encodeLog decodeLog l := by
  have hdeployment := faithful_string (depth + 2) l.deploymentId
  have hdevice := faithful_string (depth + 2) l.deviceId
  obtain ⟨_, hwrite, hmessages⟩ := Written.list fun m hm => written_logMessage depth (h m hm)
  refine ⟨_, by rw [encodeLog, hwrite]; rfl, PlainMembers.obj ?_, ReadsFields.asRecord ?_⟩
  · exact .cons hdeployment.plain <| .cons hdevice.plain <| .cons hmessages.plain .nil
  · exact .bind (.required rfl hdeployment.reads) <| .bind (.required rfl hdevice.reads) <|
      .bind (.required rfl hmessages.reads) <| .pure _

end Codec

/-! ### Documents -/

namespace Database

open Fleet.Codec

/-- What is written is read back from its text. -/
theorem exists_encode {α : Type} {enc : Encoder α} {dec : Json.Decoder α} {a : α}
    (h : Written Json.maxDepth enc dec a) :
    ∃ document, encode enc a = .ok document ∧ decode dec document = .ok a := by
  obtain ⟨v, hv, hfaithful⟩ := h
  refine ⟨v.render, by rw [encode, hv], ?_⟩
  rw [decode, Json.parse?_render hfaithful.plain, Option.bind_some, hfaithful.reads]

/-- A storable deployment has a document, and the document is decoded to it. -/
theorem encode_deployment {d : Deployment} (h : d.Storable) : ∃ document,
    encode encodeDeployment d = .ok document ∧ decode decodeDeployment document = .ok d :=
  exists_encode (written_deployment 124 h)

/-- A storable record has a document, and the document is decoded to it. -/
theorem encode_record {r : DeviceRecord} (h : r.Storable) : ∃ document,
    encode encodeRecord r = .ok document ∧ decode decodeRecord document = .ok r :=
  exists_encode (written_record 124 h)

/-- A storable log has a document, and the document is decoded to it. -/
theorem encode_log {l : DeploymentLog} (h : l.Storable) : ∃ document,
    encode encodeLog l = .ok document ∧ decode decodeLog document = .ok l :=
  exists_encode (written_log 124 h)

end Database

end Fleet
