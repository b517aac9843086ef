import Mathlib.Data.List.Induction
import Fleet.Proofs.Url.Percent
import Fleet.Url.Basic

/-!
# `Fleet.Proofs.Url.Append`: names behind a path

A name that is put behind a path is one more segment that is decoded to the name, if it is no dots
and holds nothing that is dropped (`IsName`). An empty name also needs a path in front of it. So
several names of this kind are read back behind a path (`trunk_foldl_of_isName`), and no others are
(`of_map_trunk_foldl`): a path grows by at most one segment a name, so whatever one name loses is
not made up for by the others.
-/

set_option autoImplicit false

namespace Fleet.Url

open Fleet.Text

variable {a : Url} {name : String} {names : List String} {segment cs : List Char}

/-! ### Segments of dots -/

/-- A character that is lowered to another one is its capital. -/
theorem of_toLower {c d : Char} (h : c.toLower = d) :
    c = d ∨ (65 ≤ c.toNat ∧ d.toNat = c.toNat + 32) := by
  by_cases hupper : c.val ≥ 'A'.val ∧ c.val ≤ 'Z'.val
  · have hlow : 65 ≤ c.val.toNat := UInt32.le_iff_toNat_le.1 hupper.1
    have hhigh : c.val.toNat ≤ 90 := UInt32.le_iff_toNat_le.1 hupper.2
    have hlower : c.toLower = _ := dif_pos hupper
    refine .inr ⟨hlow, ?_⟩
    rw [← h, hlower]
    have hlt : c.val.toNat + 32 < 4294967296 := by omega
    exact (UInt32.toNat_add c.val 32).trans (Nat.mod_eq_of_lt hlt)
  · have hlower : c.toLower = c := dif_neg hupper
    exact .inl (hlower.symm.trans h)

/-- A character below the small letters is the lowered form of itself alone. -/
theorem eq_of_toLower {c d : Char} (hd : d.toNat < 97) (h : c.toLower = d) : c = d := by
  rcases of_toLower h with heq | ⟨hlow, hsum⟩
  · exact heq
  · omega

/-- Only the two forms of the letter e are lowered to it. It is the letter in the written form of a
dot. -/
theorem eq_of_toLower_e {c : Char} (h : c.toLower = 'e') : c = 'e' ∨ c = 'E' := by
  rcases of_toLower h with heq | ⟨-, hsum⟩
  · exact .inl heq
  · have hvalue : 'e'.toNat = 'E'.toNat + 32 := by decide
    exact .inr (Char.toNat_inj.1 (by omega))

/-- The written forms of a dot, lowered. -/
def IsDot (cs : List Char) : Prop := cs = ['.'] ∨ cs = ['%', '2', 'e']

/-- A written dot at the front is decoded to a dot. -/
theorem percentDecode_of_isDot {dot rest : List Char} (hdot : IsDot dot)
    (h : segment.map Char.toLower = dot ++ rest) :
    ∃ tail, tail.map Char.toLower = rest ∧
      percentDecode (utf8 segment) = 0x2E :: percentDecode (utf8 tail) := by
  rcases hdot with rfl | rfl
  · obtain ⟨c, tail, rfl, hc, htail⟩ := List.map_eq_cons_iff.1 h
    have hutf8 : utf8 ('.' :: tail) = 0x2E :: utf8 tail := rfl
    refine ⟨tail, htail, ?_⟩
    rw [eq_of_toLower (by decide) hc, hutf8, percentDecode_cons_of_ne (by decide)]
  · obtain ⟨c, rest₁, rfl, hc, hrest⟩ := List.map_eq_cons_iff.1 h
    obtain ⟨c', rest₂, rfl, hc', hrest'⟩ := List.map_eq_cons_iff.1 hrest
    obtain ⟨c'', tail, rfl, hc'', htail⟩ := List.map_eq_cons_iff.1 hrest'
    refine ⟨tail, htail, ?_⟩
    rw [eq_of_toLower (by decide) hc, eq_of_toLower (by decide) hc']
    rcases eq_of_toLower_e hc'' with rfl | rfl <;> rfl

/-- A segment that stands for this place is decoded to a dot. -/
theorem percentDecode_of_isSingleDot (h : isSingleDot segment = true) :
    percentDecode (utf8 segment) = utf8 ['.'] := by
  have hdot : IsDot (segment.map Char.toLower) := by simpa [isSingleDot, IsDot] using h
  obtain ⟨tail, htail, hdecode⟩ := percentDecode_of_isDot hdot (List.append_nil _).symm
  rw [hdecode, List.map_eq_nil_iff.1 htail]
  rfl

/-- A segment that stands for the place above is decoded to two dots. -/
theorem percentDecode_of_isDoubleDot (h : isDoubleDot segment = true) :
    percentDecode (utf8 segment) = utf8 ['.', '.'] := by
  obtain ⟨dot, dot', hdot, hdot', hsegment⟩ : ∃ dot dot', IsDot dot ∧ IsDot dot' ∧
      segment.map Char.toLower = dot ++ dot' := by
    have hcases : segment.map Char.toLower = "..".toList ∨
        segment.map Char.toLower = ".%2e".toList ∨ segment.map Char.toLower = "%2e.".toList ∨
        segment.map Char.toLower = "%2e%2e".toList := by
      simpa [isDoubleDot] using h
    rcases hcases with h | h | h | h
    · exact ⟨_, _, .inl rfl, .inl rfl, h⟩
    · exact ⟨_, _, .inl rfl, .inr rfl, h⟩
    · exact ⟨_, _, .inr rfl, .inl rfl, h⟩
    · exact ⟨_, _, .inr rfl, .inr rfl, h⟩
  obtain ⟨tail, htail, hdecode⟩ := percentDecode_of_isDot hdot hsegment
  obtain ⟨rest, hrest, hdecode'⟩ :=
    percentDecode_of_isDot hdot' (htail.trans (List.append_nil _).symm)
  rw [hdecode, hdecode', List.map_eq_nil_iff.1 hrest]
  rfl

/-! ### Names -/

/-- The bytes that a segment stands for. -/
def segmentBytes (s : String) : List UInt8 := percentDecode (utf8Text s)

/-- A name that can stand behind a path: no dots, and nothing in it that is dropped. -/
structure IsName (name : String) : Prop where
  notDot : name ≠ "."
  notDots : name ≠ ".."
  kept : ∀ c ∈ name.toList, isDropped c = false

instance (name : String) : Decidable (IsName name) :=
  decidable_of_iff (name ≠ "." ∧ name ≠ ".." ∧ name.toList.all (fun c => !isDropped c) = true)
    ⟨fun ⟨hdot, hdots, hkept⟩ => ⟨hdot, hdots, by simpa using hkept⟩,
      fun h => ⟨h.notDot, h.notDots, by simpa using h.kept⟩⟩

/-- The segment that characters are written as. -/
def written (cs : List Char) : List Char := percentEncode segmentSet cs

/-- The segment that a name is written as. -/
def writtenName (name : String) : String := String.ofList (written name.toList)

/-- Decoding a written segment gives the bytes of its characters. -/
theorem segmentBytes_written (cs : List Char) :
    segmentBytes (String.ofList (written cs)) = utf8 cs := by
  rw [segmentBytes, utf8Text, String.toList_ofList]
  exact percentDecode_percentEncode (by decide) cs

/-- Decoding the written form of a name gives the bytes of the name. -/
theorem segmentBytes_writtenName (name : String) :
    segmentBytes (writtenName name) = utf8Text name :=
  segmentBytes_written name.toList

/-- The empty name alone is written as an empty segment. -/
theorem writtenName_eq_empty_iff : writtenName name = "" ↔ name = "" := by
  refine ⟨fun h => String.toList_inj.1 (utf8_injective ?_), fun h => by rw [h]; decide⟩
  rw [← segmentBytes_written, ← writtenName, h]
  rfl

/-- Only a dot is written as a segment of one dot, since the percent sign of "%2e" would be
encoded. -/
theorem isSingleDot_written_iff : isSingleDot (written cs) = true ↔ cs = ['.'] := by
  refine ⟨fun h => utf8_injective ?_, fun h => by rw [h]; decide⟩
  rw [← percentDecode_of_isSingleDot h]
  exact (percentDecode_percentEncode (by decide) cs).symm

/-- Only two dots are written as a segment of two dots. -/
theorem isDoubleDot_written_iff : isDoubleDot (written cs) = true ↔ cs = ['.', '.'] := by
  refine ⟨fun h => utf8_injective ?_, fun h => by rw [h]; decide⟩
  rw [← percentDecode_of_isDoubleDot h]
  exact (percentDecode_percentEncode (by decide) cs).symm

/-! ### One name -/

/-- The segments that a name is put behind: those of the path, unless it is one slash. -/
def trunk (a : Url) : List String := if a.segments = [""] then [] else a.segments

/-- A trunk has no more segments than the path. -/
theorem length_trunk_le (a : Url) : a.trunk.length ≤ a.segments.length := by
  rw [trunk]
  split
  · exact Nat.zero_le _
  · exact Nat.le_refl _

/-- A trunk that is not empty is the whole path. -/
theorem trunk_eq_segments (h : a.trunk ≠ []) : a.trunk = a.segments := by
  rw [trunk] at h ⊢
  split at h
  · exact absurd rfl h
  · next hne => rw [if_neg hne]

/-- What is written of a name. -/
def keptChars (name : String) : List Char := name.toList.filter fun c => !isDropped c

/-- A name of dots is left out, so the address stays as it is. -/
theorem appendName_of_dots (h : name = "." ∨ name = "..") : a.appendName name = a := by
  rw [appendName, if_pos (by simpa using h)]

/-- A name that is no dots is pushed onto the trunk as one written segment, without the characters
that are dropped. -/
theorem segments_appendName (h : ¬(name = "." ∨ name = "..")) :
    (a.appendName name).segments = pushSegment a.trunk (written (keptChars name)) true := by
  rw [appendName, if_neg (by simpa using h)]
  rfl

/-- A name is kept whole exactly if it holds no tab and no line break. -/
theorem keptChars_eq_iff :
    keptChars name = name.toList ↔ ∀ c ∈ name.toList, isDropped c = false := by
  rw [keptChars, List.filter_eq_self]
  simp

/-- What is written of a name goes up, stays or becomes a segment. -/
theorem pushSegment_written_cases (path : List String) (cs : List Char) :
    (cs = ['.', '.'] ∧ pushSegment path (written cs) true = path.dropLast ++ [""]) ∨
    (cs = ['.'] ∧ pushSegment path (written cs) true = path ++ [""]) ∨
    (cs ≠ ['.', '.'] ∧ cs ≠ ['.'] ∧
      pushSegment path (written cs) true = path ++ [String.ofList (written cs)]) := by
  rw [pushSegment]
  by_cases hdouble : cs = ['.', '.']
  · exact .inl ⟨hdouble, if_pos (isDoubleDot_written_iff.2 hdouble)⟩
  · rw [if_neg (mt isDoubleDot_written_iff.1 hdouble)]
    by_cases hsingle : cs = ['.']
    · exact .inr (.inl ⟨hsingle, if_pos (isSingleDot_written_iff.2 hsingle)⟩)
    · exact .inr (.inr ⟨hdouble, hsingle, if_neg (mt isSingleDot_written_iff.1 hsingle)⟩)

/-- A path has at most one segment more with a name behind it. -/
theorem length_trunk_appendName_le (a : Url) (name : String) :
    (a.appendName name).trunk.length ≤ a.trunk.length + 1 := by
  by_cases hdots : name = "." ∨ name = ".."
  · rw [appendName_of_dots hdots]
    exact Nat.le_succ _
  · refine Nat.le_trans (length_trunk_le _) ?_
    rw [segments_appendName hdots]
    rcases pushSegment_written_cases a.trunk (keptChars name) with
      ⟨-, h⟩ | ⟨-, h⟩ | ⟨-, -, h⟩ <;> simp [h]

/-- A name of the right kind becomes a segment, unless it is empty and nothing is in front of it. -/
theorem trunk_appendName_of_isName (h : IsName name) (hempty : a.trunk = [] → name ≠ "") :
    (a.appendName name).trunk = a.trunk ++ [writtenName name] := by
  have hdots : ¬(name = "." ∨ name = "..") := fun hdots => hdots.elim h.notDot h.notDots
  have hsegments : (a.appendName name).segments = a.trunk ++ [writtenName name] := by
    rw [segments_appendName hdots, keptChars_eq_iff.2 h.kept]
    rcases pushSegment_written_cases a.trunk name.toList with
      ⟨hdouble, -⟩ | ⟨hsingle, -⟩ | ⟨-, -, hpush⟩
    · exact absurd (String.toList_inj.1 hdouble) h.notDots
    · exact absurd (String.toList_inj.1 hsingle) h.notDot
    · exact hpush
  rw [trunk, hsegments, if_neg]
  intro hslash
  rw [← List.nil_append [""], List.append_singleton_inj] at hslash
  exact hempty hslash.1 (writtenName_eq_empty_iff.1 hslash.2)

/-- What has grown by a segment that is decoded to a name was given a name of the right kind, which
is not empty where nothing is in front of it. -/
theorem of_map_trunk_appendName {front : List (List UInt8)}
    (hfront : a.trunk.length ≤ front.length)
    (h : (a.appendName name).trunk.map segmentBytes = front ++ [utf8Text name]) :
    a.trunk.map segmentBytes = front ∧ IsName name ∧ (front = [] → name ≠ "") := by
  have hlength : (a.appendName name).trunk.length = front.length + 1 := by
    simpa using congrArg List.length h
  have hdots : ¬(name = "." ∨ name = "..") := fun hdots => by
    rw [appendName_of_dots hdots] at hlength
    omega
  have hsegments : (a.appendName name).trunk = (a.appendName name).segments :=
    trunk_eq_segments (List.ne_nil_of_length_eq_add_one hlength)
  have hne : (a.appendName name).segments ≠ [""] := fun hslash => by
    rw [trunk, if_pos hslash] at hlength
    cases hlength
  rw [hsegments, segments_appendName hdots] at h hlength
  rw [segments_appendName hdots] at hne
  -- A name is one of the two kinds of dots, or one segment more.
  rcases pushSegment_written_cases a.trunk (keptChars name) with
    ⟨-, hpush⟩ | ⟨hkept, hpush⟩ | ⟨-, -, hpush⟩ <;> rw [hpush] at h hlength hne
  · -- Going up takes a segment away, unless there is none, and then the path is one slash.
    cases htrunk : a.trunk with
    | nil => exact absurd (by rw [htrunk]; rfl) hne
    | cons s rest =>
      simp only [htrunk, List.length_append, List.length_dropLast, List.length_cons,
        List.length_nil] at hlength hfront
      omega
  · -- Staying leaves an empty segment for a name that is not empty.
    rw [List.map_append, List.map_singleton, List.append_singleton_inj] at h
    have hname : name.toList = [] := utf8_injective h.2.symm
    rw [keptChars, hname] at hkept
    cases hkept
  · rw [List.map_append, List.map_singleton, List.append_singleton_inj, segmentBytes_written] at h
    obtain ⟨htrunk, hlast⟩ := h
    have hkept : keptChars name = name.toList := utf8_injective hlast
    refine ⟨htrunk, ⟨fun h => hdots (.inl h), fun h => hdots (.inr h), keptChars_eq_iff.1 hkept⟩,
      fun hnil hempty => hne ?_⟩
    rw [List.map_eq_nil_iff.1 (htrunk.trans hnil), hkept, hempty]
    rfl

/-! ### Several names -/

/-- Names make a trunk longer by one segment each, at most. A name that is lost is therefore never
made up for. -/
theorem length_trunk_foldl_le (a : Url) (names : List String) :
    (names.foldl appendName a).trunk.length ≤ a.trunk.length + names.length := by
  induction names generalizing a with
  | nil => exact Nat.le_refl _
  | cons name names ih =>
    have hone := length_trunk_appendName_le a name
    have hrest := ih (a.appendName name)
    rw [List.foldl_cons, List.length_cons]
    omega

/-- Names of the right kind become segments, if the first one is not empty where nothing is in front
of it. -/
theorem trunk_foldl_of_isName (hnames : ∀ name ∈ names, IsName name)
    (hhead : a.trunk = [] → names.head? ≠ some "") :
    (names.foldl appendName a).trunk = a.trunk ++ names.map writtenName := by
  induction names generalizing a with
  | nil => exact (List.append_nil _).symm
  | cons name names ih =>
    have hone : (a.appendName name).trunk = a.trunk ++ [writtenName name] :=
      trunk_appendName_of_isName (hnames name List.mem_cons_self) fun htrunk hname =>
        hhead htrunk (congrArg some hname)
    rw [List.foldl_cons, ih (fun n hn => hnames n (List.mem_cons_of_mem _ hn))
      (fun hnil => absurd (hone.symm.trans hnil) (by simp)), hone, List.append_assoc]
    rfl

/-- Only such names are read back from the segments behind a path. -/
theorem of_map_trunk_foldl
    (h : (names.foldl appendName a).trunk.map segmentBytes
      = a.trunk.map segmentBytes ++ names.map utf8Text) :
    (∀ name ∈ names, IsName name) ∧ (a.trunk = [] → names.head? ≠ some "") := by
  -- The last name first: it is read back only if all names before it have grown the path.
  induction names using List.reverseRecOn with
  | nil => exact ⟨fun n hn => absurd hn List.not_mem_nil, fun _ => nofun⟩
  | append_singleton names name ih =>
    have hlength := length_trunk_foldl_le a names
    rw [List.foldl_append, List.map_append, ← List.append_assoc] at h
    obtain ⟨hfront, hname, hempty⟩ := of_map_trunk_appendName (by simpa using hlength) h
    obtain ⟨hnames, hhead⟩ := ih hfront
    refine ⟨fun n hn => ?_, fun htrunk => ?_⟩
    · rcases List.mem_append.1 hn with hn | hn
      · exact hnames n hn
      · rwa [List.mem_singleton.1 hn]
    · cases names with
      | nil => simpa using hempty (by simp [htrunk])
      | cons first rest => exact hhead htrunk

/-! ### Queries -/

/-- A name that is put behind the path leaves the query alone. -/
theorem query_appendName (a : Url) (name : String) : (a.appendName name).query = a.query := by
  rw [appendName]
  split <;> rfl

/-- Names that are put behind the path leave the query alone. -/
theorem query_foldl_appendName (a : Url) (names : List String) :
    (names.foldl appendName a).query = a.query := by
  induction names generalizing a with
  | nil => rfl
  | cons name names ih => rw [List.foldl_cons, ih, query_appendName]

/-- Names that are put behind a path without its last slash leave the query alone. -/
theorem query_appendNames (a : Url) (names : List String) :
    (a.appendNames names).query = a.query := by
  rw [appendNames, query_foldl_appendName]
  split <;> rfl

end Fleet.Url
