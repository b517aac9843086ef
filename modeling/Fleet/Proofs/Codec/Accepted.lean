import Fleet.Proofs.Codec.Exchange
import Fleet.Proofs.Time.Accepted

/-!
# `Fleet.Proofs.Codec.Accepted`: decoding undoes encoding, for every kind of document

`Document` lists the kinds of documents that are stored or exchanged. `Document.read_write` says
for each of them that a storable value is written and read back from its text, and that a value
which the reader made of any JSON at all is written and read back as well. A value with a time that
has no exchange text cannot be written (`Document.dayAhead_unwritten`).

The second half follows from the first: whatever a reader accepts is storable
(`Document.storable_of_decode`). A missing field has a storable default, a missing counter is
zero, numbers are refused if they exceed their words, times that are read can be written, and
headers are sorted as they are read. `Gives` says what a reader promises about its results,
`FieldsGive` the same about a reader of fields, and their rules follow the constructs that
readers are built from.
-/

set_option autoImplicit false

namespace Fleet.Codec

open Fleet.Time Fleet.Json

/-- Whatever a reader accepts, its result has the property. -/
def Gives {α : Type} (dec : Decoder α) (P : α → Prop) : Prop := ∀ ⦃v a⦄, dec v = some a → P a

/-- Whatever a reader of fields accepts, its result has the property. -/
def FieldsGive {α : Type} (fields : FieldReader α) (P : α → Prop) : Prop :=
  ∀ ⦃source a source'⦄, fields source = some (a, source') → P a

/-! ### Fields -/

namespace FieldsGive

variable {α β : Type} {P : α → Prop} {Q : β → Prop} {dec : Decoder α} {name : String}

/-- Nothing is promised of a reader that nothing is known about. -/
theorem any (fields : FieldReader α) : FieldsGive fields fun _ => True :=
  fun _ _ _ _ => trivial

/-- A value that needs no field promises what it has. -/
theorem pure {a : α} (h : P a) : FieldsGive (Pure.pure a) P := by
  intro source b source' hread
  cases hread
  exact h

/-- What comes of two readers in a row is promised by the second, which may rely on the first. -/
theorem bind {x : FieldReader α} {f : α → FieldReader β} (hx : FieldsGive x P)
    (hf : ∀ a, P a → FieldsGive (f a) Q) : FieldsGive (x >>= f) Q := by
  intro source b source' hread
  obtain ⟨⟨a, between⟩, hfirst, hrest⟩ := Option.bind_eq_some_iff.1 hread
  exact hf a (hx hfirst) hrest

/-- A field that is read as a value promises what the reader of the value does. -/
theorem lift {v : Json} (h : Gives dec P) : FieldsGive (StateT.lift (dec v)) P := by
  intro source a source' hread
  obtain ⟨a', hdec, he⟩ := Option.bind_eq_some_iff.1 hread
  cases he
  exact h hdec

/-- A reader that never accepts promises anything. -/
theorem failure : FieldsGive (failure : FieldReader α) P := fun _ _ _ hread => nomatch hread

/-- A field that must be there promises what the reader of its value does. -/
theorem required (h : Gives dec P) : FieldsGive (FieldReader.required name dec) P :=
  bind (any _) fun found _ => by
    cases found with
    | none => exact failure
    | some v => exact lift h

/-- A field with a default promises what the reader of its value does, if the default has it too. -/
theorem defaulted {default : α} (h : Gives dec P) (hdefault : P default) :
    FieldsGive (FieldReader.defaulted name dec default) P :=
  bind (any _) fun found _ => by
    cases found with
    | none => exact pure hdefault
    | some v => exact lift h

end FieldsGive

namespace Gives

variable {α : Type} {P : α → Prop} {dec : Decoder α}

/-- A value that may be `null` promises what its reader does, where it is there. -/
theorem option (h : Gives dec P) : Gives (asOption dec) fun o => ∀ a ∈ o, P a := by
  intro v o hread
  by_cases hnull : v = .null
  · rw [hnull] at hread
    cases hread
    exact nofun
  · rw [asOption_of_ne_null hnull] at hread
    obtain ⟨a, hdec, rfl⟩ := Option.map_eq_some_iff.1 hread
    intro b hb
    cases hb
    exact h hdec

/-- An object promises what the reader of its fields does. -/
theorem record {fields : FieldReader α} (h : FieldsGive fields P) : Gives (asRecord fields) P := by
  intro v a hread
  unfold asRecord at hread
  split at hread
  · obtain ⟨⟨a', source⟩, hfields, rfl⟩ := Option.map_eq_some_iff.1 hread
    exact h hfields
  · split at hread
    · next hfields =>
      cases hread
      exact h hfields
    · cases hread
  · cases hread

end Gives

namespace FieldsGive

variable {α : Type} {P : α → Prop} {dec : Decoder α} {name : String}

/-- A field that may be left out promises what the reader of its value does, where it is there. -/
theorem optional (h : Gives dec P) :
    FieldsGive (FieldReader.optional name dec) fun o => ∀ a ∈ o, P a :=
  defaulted h.option nofun

/-- A field that may be `null` promises what the reader of its value does, where it is there. -/
theorem nullable (h : Gives dec P) :
    FieldsGive (FieldReader.nullable name dec) fun o => ∀ a ∈ o, P a :=
  bind (any _) fun found _ => bind (any _) fun source _ => by
    cases found with
    | none =>
      -- Only a record with names may lack the field.
      cases source with
      | named members => exact pure nofun
      | ordered items => exact failure
    | some v => exact lift h.option

end FieldsGive

/-! ### Single values and lists -/

/-- A number that is read under a bound keeps to it. -/
theorem gives_natBelow (bound : Nat) : Gives (asNatBelow bound) (· < bound) := by
  intro v n hread
  unfold asNatBelow at hread
  split at hread
  · split at hread
    · next hbound =>
      cases hread
      exact hbound.2
    · cases hread
  · cases hread

/-- A number that is read as a word fits into one. -/
theorem gives_word : Gives asWord (· < 2 ^ 64) := gives_natBelow _

/-- A number that is read as half a word fits into one. -/
theorem gives_halfWord : Gives asHalfWord (· < 2 ^ 32) := gives_natBelow _

/-- A time that is read can be written: its year has four digits, and its offset is of whole minutes
and less than a day. -/
theorem gives_instant : Gives decodeInstant Instant.Representable := by
  intro v t hread
  obtain ⟨s, -, hparse⟩ := Option.bind_eq_some_iff.1 hread
  exact Instant.representable_of_parse hparse

/-- A result of a computation over a list comes from one of the items. -/
theorem exists_mem_of_mem_mapM {α β : Type} {f : α → Option β} {items : List α} {l : List β} {b : β}
    (h : items.mapM f = some l) (hb : b ∈ l) : ∃ a ∈ items, f a = some b := by
  induction items generalizing l with
  | nil =>
    cases h
    cases hb
  | cons a rest ih =>
    rw [List.mapM_cons] at h
    obtain ⟨first, hfirst, h⟩ := Option.bind_eq_some_iff.1 h
    obtain ⟨others, hothers, h⟩ := Option.bind_eq_some_iff.1 h
    cases h
    rcases List.mem_cons.1 hb with rfl | hb
    · exact ⟨a, List.mem_cons_self, hfirst⟩
    · obtain ⟨c, hc, hfound⟩ := ih hothers hb
      exact ⟨c, List.mem_cons_of_mem a hc, hfound⟩

/-- A list promises what the reader of its items does, of each item. -/
theorem Gives.list {α : Type} {P : α → Prop} {dec : Decoder α} (h : Gives dec P) :
    Gives (asList dec) fun l => ∀ a ∈ l, P a := by
  intro v l hread
  unfold asList at hread
  split at hread
  · intro a ha
    obtain ⟨item, -, hitem⟩ := exists_mem_of_mem_mapM hread ha
    exact h hitem
  · cases hread

/-! ### Headers -/

/-- Headers are inserted as the entries of a table are. -/
theorem insertHeader_eq_insertEntry (name value : String) (done : List (String × String)) :
    insertHeader name value done = Table.insertEntry name value done := by
  induction done with
  | nil => rfl
  | cons e rest ih =>
    show (if name < e.1 then (name, value) :: e :: rest
        else if name = e.1 then (name, value) :: rest else e :: insertHeader name value rest)
      = if name < e.1 then (name, value) :: e :: rest
        else if e.1 < name then e :: Table.insertEntry name value rest else (name, value) :: rest
    rw [ih]
    by_cases hbefore : name < e.1
    · rw [if_pos hbefore, if_pos hbefore]
    rw [if_neg hbefore, if_neg hbefore]
    -- The two functions ask for an equal name and a greater one in different orders.
    by_cases hsame : name = e.1
    · have hbehind : ¬ e.1 < name := by
        rw [hsame]
        exact String.lt_irrefl _
      rw [if_pos hsame, if_neg hbehind]
    · have hbehind : e.1 < name :=
        ((TableKey.total name e.1).resolve_left hbefore).resolve_left hsame
      rw [if_neg hsame, if_pos hbehind]

/-- Headers are sorted as they are read, and a name that stands twice is kept once, so they can be
written as an object. -/
theorem gives_header : Gives decodeHeader fun header => header.Pairwise fun a b => a.1 < b.1 := by
  intro v header hread
  obtain ⟨members, -, rfl⟩ := Option.map_eq_some_iff.1 hread
  -- The headers read so far are in order after each member.
  refine List.foldlRecOn members _ .nil fun done hdone e _ => ?_
  dsimp only
  rw [insertHeader_eq_insertEntry]
  exact Table.ordered_insertEntry e.1 e.2 hdone

/-! ### Records -/

-- Each rule of a chain stands for the field that the reader asks for next.

/-- An artifact that is read can be written. -/
theorem gives_artifact : Gives decodeArtifact Artifact.Storable :=
  .record <| .bind (.any _) fun _ _ => .bind (.any _) fun _ _ => .bind (.any _) fun _ _ =>
    .bind (.optional gives_word) fun _ hsize =>
    .bind (.optional gives_instant) fun _ hmodified => .pure ⟨hsize, hmodified⟩

/-- A plan that is read can be written. -/
theorem gives_plan : Gives decodePlan Plan.Storable :=
  .record <| .bind (.any _) fun _ _ => .bind (.any _) fun _ _ => .bind (.any _) fun _ _ =>
    .bind (.any _) fun _ _ => .bind (.defaulted gives_halfWord (by decide)) fun _ hretries =>
    .bind (.optional gives_word) fun _ hmax => .pure ⟨hretries, hmax⟩

/-- A deployment that is read can be written. A missing field has a default that can be. -/
theorem gives_deployment : Gives decodeDeployment Deployment.Storable :=
  .record <| .bind (.any _) fun _ _ => .bind (.required gives_plan) fun _ hplan =>
    .bind (.any _) fun _ _ => .bind (.required gives_instant) fun _ hcreated =>
    .bind (.optional gives_instant) fun _ hfinished =>
    .bind (.required gives_word) fun _ hcount => .bind (.required gives_word) fun _ hmax =>
    .bind (.any _) fun _ _ => .pure ⟨hplan, hcreated, hfinished, hcount, hmax⟩

/-- A record of a device that is read can be written. -/
theorem gives_record : Gives decodeRecord DeviceRecord.Storable :=
  .record <| .bind (.any _) fun _ _ => .bind (.any _) fun _ _ => .bind (.any _) fun _ _ =>
    .bind (.optional gives_artifact) fun _ hartifact => .bind (.any _) fun _ _ =>
    .bind (.any _) fun _ _ => .bind (.any _) fun _ _ =>
    .bind (.required gives_instant) fun _ hcreated =>
    .bind (.optional gives_instant) fun _ hfinished => .bind (.any _) fun _ _ =>
    .pure ⟨hartifact, hcreated, hfinished⟩

/-- A log message that is read has a time that can be written. -/
theorem gives_logMessage : Gives decodeLogMessage fun m => m.timestamp.Representable :=
  .record <| .bind (.required gives_instant) fun _ htime => .bind (.any _) fun _ _ =>
    .bind (.any _) fun _ _ => .pure htime

/-- A log that is read can be written. -/
theorem gives_log : Gives decodeLog DeploymentLog.Storable :=
  .record <| .bind (.any _) fun _ _ => .bind (.any _) fun _ _ =>
    .bind (.required gives_logMessage.list) fun _ hmessages => .pure hmessages

/-- A query that is read can be written. -/
theorem gives_query : Gives decodeQuery Query.Storable :=
  .record <| .bind (.any _) fun _ _ => .bind (.any _) fun _ _ =>
    .bind (.optional gives_instant) fun _ hafter =>
    .bind (.optional gives_instant) fun _ hbefore =>
    .bind (.defaulted gives_word (by decide)) fun _ hskip =>
    .bind (.optional gives_word) fun _ hlimit => .pure ⟨hafter, hbefore, hskip, hlimit⟩

/-- A link that is read can be written. -/
theorem gives_link : Gives decodeLink Link.Storable :=
  .record <| .bind (.any _) fun _ _ => .bind (.any _) fun _ _ =>
    .bind (.required gives_instant) fun _ hexpire =>
    .bind (.defaulted gives_header .nil) fun _ hheader => .pure ⟨hexpire, hheader⟩

/-- The properties of an object that are read can be written. -/
theorem gives_objectInfo : Gives decodeObjectInfo ObjectInfo.Storable :=
  .record <| .bind (.any _) fun _ _ => .bind (.nullable gives_word) fun _ hsize =>
    .bind (.optional gives_instant) fun _ hmodified => .pure ⟨hsize, hmodified⟩

/-- The source of an artifact that is read can be written. -/
theorem gives_artifactSource : Gives decodeArtifactSource fun a => a.source.Storable :=
  .record <| .bind (.any _) fun _ _ => .bind (.required gives_link) fun _ hsource =>
    .bind (.any _) fun _ _ => .pure hsource

/-- Instructions that are read can be written. -/
theorem gives_instructions : Gives decodeInstructions Instructions.Storable :=
  .record <| .bind (.any _) fun _ _ =>
    .bind (.required gives_artifactSource) fun _ hartifact => .pure hartifact

end Fleet.Codec

namespace Fleet

open Fleet.Codec Fleet.Time

/-! ### Documents -/

/-- The kinds of documents that are stored or exchanged. -/
inductive Document where
  | artifact
  | plan
  | deployment
  | record
  | report
  | instructions
  | log
  | stats
  | query
  | link
  | objectInfo
  | settings
  | identity

namespace Document

/-- What a document holds. -/
abbrev Value : Document → Type
  | artifact => Artifact
  | plan => Plan
  | deployment => Deployment
  | record => DeviceRecord
  | report => StatusReport
  | instructions => Instructions
  | log => DeploymentLog
  | stats => Stats
  | query => Query
  | link => Link
  | objectInfo => ObjectInfo
  | settings => StorageSettings
  | identity => Identity

def encode : (k : Document) → Encoder k.Value
  | artifact => encodeArtifact
  | plan => fun p => .ok (encodePlan p)
  | deployment => encodeDeployment
  | record => encodeRecord
  | report => fun r => .ok (encodeReport r)
  | instructions => encodeInstructions
  | log => encodeLog
  | stats => fun st => .ok (encodeStats st)
  | query => encodeQuery
  | link => encodeLink
  | objectInfo => encodeObjectInfo
  | settings => fun s => .ok (encodeSettings s)
  | identity => fun i => .ok (encodeIdentity i)

def decode : (k : Document) → Json.Decoder k.Value
  | artifact => decodeArtifact
  | plan => decodePlan
  | deployment => decodeDeployment
  | record => decodeRecord
  | report => decodeReport
  | instructions => decodeInstructions
  | log => decodeLog
  | stats => decodeStats
  | query => decodeQuery
  | link => decodeLink
  | objectInfo => decodeObjectInfo
  | settings => decodeSettings
  | identity => decodeIdentity

/-- Which values can be written: times have exchange texts, and numbers fit their words. -/
def Storable : (k : Document) → k.Value → Prop
  | artifact => Artifact.Storable
  | plan => Plan.Storable
  | deployment => Deployment.Storable
  | record => DeviceRecord.Storable
  | report => fun _ => True
  | instructions => Instructions.Storable
  | log => DeploymentLog.Storable
  | stats => fun _ => True
  | query => Query.Storable
  | link => Link.Storable
  | objectInfo => ObjectInfo.Storable
  | settings => fun _ => True
  | identity => fun _ => True

/-- The text of a document, if there is one. -/
def write (k : Document) (a : k.Value) : Except String String := (k.encode a).map Json.render

/-- Reads a document from its text. -/
def read (k : Document) (text : String) : Option k.Value := (Json.parse? text).bind k.decode

/-- A value has a document, and is read back from it. -/
def RoundTrips (k : Document) (a : k.Value) : Prop :=
  ∃ text, k.write a = .ok text ∧ k.read text = some a

variable {k : Document} {a : k.Value}

/-- Storable values of every kind can be written, one case for each kind of document. -/
theorem written_of_storable (h : k.Storable a) : Written Json.maxDepth k.encode k.decode a := by
  cases k with
  | artifact => exact written_artifact 125 h
  | plan => exact ⟨_, rfl, faithful_plan 125 h⟩
  | deployment => exact written_deployment 124 h
  | record => exact written_record 124 h
  | report => exact ⟨_, rfl, faithful_report 126 a⟩
  | instructions => exact written_instructions 123 h
  | log => exact written_log 124 h
  | stats => exact ⟨_, rfl, faithful_stats 126 a⟩
  | query => exact written_query 126 h
  | link => exact written_link 125 h
  | objectInfo => exact written_objectInfo 126 h
  | settings => exact ⟨_, rfl, faithful_settings 126 a⟩
  | identity => exact ⟨_, rfl, faithful_identity 126 a⟩

/-- A storable value is written as a text, and the text is read as the value. The document nests
less deep than the parser allows. -/
theorem roundTrips_of_storable (h : k.Storable a) : k.RoundTrips a := by
  obtain ⟨v, hv, hfaithful⟩ := written_of_storable h
  refine ⟨v.render, by rw [write, hv]; rfl, ?_⟩
  rw [read, Json.parse?_render hfaithful.plain, Option.bind_some, hfaithful.reads]

/-- Whatever a reader accepts can be written. -/
theorem storable_of_decode {v : Json} (h : k.decode v = some a) : k.Storable a := by
  cases k with
  | artifact => exact gives_artifact h
  | plan => exact gives_plan h
  | deployment => exact gives_deployment h
  | record => exact gives_record h
  | report => trivial
  | instructions => exact gives_instructions h
  | log => exact gives_log h
  | stats => trivial
  | query => exact gives_query h
  | link => exact gives_link h
  | objectInfo => exact gives_objectInfo h
  | settings => trivial
  | identity => trivial

/-- Storable values are just those that some JSON is read as. -/
theorem storable_iff : k.Storable a ↔ ∃ v, k.decode v = some a :=
  ⟨fun h => (written_of_storable h).imp fun _ hv => hv.2.reads, fun ⟨_, h⟩ => storable_of_decode h⟩

/-- Decoding undoes encoding, for every kind of document: a storable value has a document and is
read back from it, offsets and nanoseconds of times included, and so is a value that was read from
any JSON. Other values are never read (`storable_iff`). -/
theorem read_write (k : Document) :
    (∀ a, k.Storable a → k.RoundTrips a) ∧ ∀ v a, k.decode v = some a → k.RoundTrips a :=
  ⟨fun _ h => roundTrips_of_storable h,
    fun _ _ h => roundTrips_of_storable (storable_of_decode h)⟩

/-- A query with an offset, nanoseconds and the greatest word, and a report with the older spelling
of a status. -/
theorem read_write_sample :
    query.RoundTrips { createdAfter := some ⟨1700000000123456789, -16200⟩,
                       limit := some (2 ^ 64 - 1) }
      ∧ report.decode (.obj [("status", .str "noartifact")]) = some { status := .noArtifact }
      ∧ report.RoundTrips { status := .noArtifact } := by
  have hquery : query.Storable { createdAfter := some ⟨1700000000123456789, -16200⟩,
                                 limit := some (2 ^ 64 - 1) } :=
    { createdAfter := by
        rintro t ⟨⟩
        exact ⟨by decide, by decide, by decide⟩
      createdBefore := nofun
      skip := by decide
      limit := by
        rintro n ⟨⟩
        decide }
  have hreport : report.decode (.obj [("status", .str "noartifact")])
      = some { status := .noArtifact } := rfl
  exact ⟨(read_write query).1 _ hquery, hreport, (read_write report).2 _ _ hreport⟩

/-- Noon of the first of March 2026, on a clock that is a day and an hour ahead. -/
def dayAhead : Instant := ⟨1772276400000000000, 90000⟩

/-- An offset may be a whole number of minutes and still have no exchange text, since it must be
less than a day. An object that was changed at such a time has no document, and none is read as
it. -/
theorem dayAhead_unwritten :
    (0 ≤ dayAhead.reading.date.year ∧ dayAhead.reading.date.year ≤ 9999) ∧
      dayAhead.offset % 60 = 0 ∧
      objectInfo.write { path := "a", size := some 1, lastModified := some dayAhead }
        = .error (unwritable "offset_hour") ∧
      ∀ v, objectInfo.decode v
        ≠ some { path := "a", size := some 1, lastModified := some dayAhead } := by
  refine ⟨by decide +kernel, by decide, ?_, fun v hread => ?_⟩
  · have hpart : dayAhead.unwritable? = some "offset_hour" := by decide +kernel
    have hinstant : encodeInstant dayAhead = .error (unwritable "offset_hour") := by
      rw [encodeInstant, hpart, Option.elim_some]
    show (encodeObjectInfo _).map Json.render = _
    rw [encodeObjectInfo, encodeOption, hinstant]
    rfl
  · have hstorable : ObjectInfo.Storable _ := gives_objectInfo hread
    exact absurd (hstorable.lastModified dayAhead rfl).day (by decide)

end Document

end Fleet
