import Fleet.Proofs.Text.Split
import Fleet.Proofs.Url.Percent
import Fleet.Url.Basic

/-!
# `Fleet.Proofs.Url.Path`: paths that are read and written

The segments of a path that was read for the web are written segments
(`isSegment_of_mem_parsePath`): nothing in them is encoded in a path, they hold no slash and stand
for no place. The text of such segments is read as those segments (`parsePath_segmentsText`), so a
text of this kind is the path of an address that is given it (`text_withPath`). An address of the
web has a path of such segments, at least one (`hasWebPath_of_parse`).
-/

set_option autoImplicit false

namespace Fleet.Url

open Fleet.Text

variable {path segments : List String} {segment cs rest : List Char} {pieces : List (List Char)}

/-! ### Segments -/

/-- A segment as it stands in a path of the web. -/
structure IsSegment (segment : List Char) : Prop where
  plain : ∀ c ∈ segment, pathSet c = false
  noSlash : '/' ∉ segment
  noBackslash : '\\' ∉ segment
  notSingle : isSingleDot segment = false
  notDouble : isDoubleDot segment = false

/-- An empty segment is a segment. A path that ends with a slash has one. -/
theorem isSegment_nil : IsSegment [] where
  plain c hc := by cases hc
  noSlash := List.not_mem_nil
  noBackslash := List.not_mem_nil
  notSingle := by decide
  notDouble := by decide

/-- A written segment is pushed as it is, last or not. Only dots would depend on that. -/
theorem pushSegment_of_isSegment (h : IsSegment segment) (path : List String) (isLast : Bool) :
    pushSegment path segment isLast = path ++ [String.ofList segment] := by
  rw [pushSegment, h.notDouble, h.notSingle]
  rfl

/-- Written segments are pushed as they are, one after the other. -/
theorem pushSegments_of_isSegment (h : ∀ piece ∈ pieces, IsSegment piece) (path : List String) :
    pushSegments path pieces = path ++ pieces.map String.ofList := by
  fun_induction pushSegments path pieces with
  | case1 path => exact (List.append_nil path).symm
  | case2 path last => exact pushSegment_of_isSegment (h last List.mem_cons_self) path true
  | case3 path segment rest hrest ih =>
    rw [ih fun piece hpiece => h piece (List.mem_cons_of_mem _ hpiece),
      pushSegment_of_isSegment (h segment List.mem_cons_self), List.append_assoc]
    rfl

/-! ### Reading -/

/-- What is pushed is a segment unless it stands for a place, and then it is left out. -/
theorem isSegment_of_mem_pushSegment (hpath : ∀ s ∈ path, IsSegment s.toList)
    (hplain : ∀ c ∈ segment, pathSet c = false) (hslash : '/' ∉ segment)
    (hbackslash : '\\' ∉ segment) {isLast : Bool} {s : String}
    (hs : s ∈ pushSegment path segment isLast) : IsSegment s.toList := by
  -- Dots at the end leave an empty segment.
  have hlast {s : String} (hs : s ∈ if isLast then [""] else []) : IsSegment s.toList := by
    cases isLast with
    | false => cases hs
    | true =>
      rw [List.mem_singleton.1 hs]
      exact isSegment_nil
  rw [pushSegment] at hs
  split at hs
  · rcases List.mem_append.1 hs with hs | hs
    · exact hpath s (List.dropLast_subset path hs)
    · exact hlast hs
  · split at hs
    · rcases List.mem_append.1 hs with hs | hs
      · exact hpath s hs
      · exact hlast hs
    · next hdouble hsingle =>
      rcases List.mem_append.1 hs with hs | hs
      · exact hpath s hs
      · rw [List.mem_singleton.1 hs, String.toList_ofList]
        exact ⟨hplain, hslash, hbackslash, eq_false_of_ne_true hsingle,
          eq_false_of_ne_true hdouble⟩

/-- Pushing pieces onto a path of segments gives a path of segments, as dots among the pieces are
resolved. -/
theorem isSegment_of_mem_pushSegments (hpath : ∀ s ∈ path, IsSegment s.toList)
    (hpieces : ∀ piece ∈ pieces,
      (∀ c ∈ piece, pathSet c = false) ∧ '/' ∉ piece ∧ '\\' ∉ piece)
    {s : String} (hs : s ∈ pushSegments path pieces) : IsSegment s.toList := by
  fun_induction pushSegments path pieces with
  | case1 path => exact hpath s hs
  | case2 path last =>
    obtain ⟨hplain, hslash, hbackslash⟩ := hpieces last List.mem_cons_self
    exact isSegment_of_mem_pushSegment hpath hplain hslash hbackslash hs
  | case3 path segment rest hrest ih =>
    obtain ⟨hplain, hslash, hbackslash⟩ := hpieces segment List.mem_cons_self
    exact ih (fun s hs => isSegment_of_mem_pushSegment hpath hplain hslash hbackslash hs)
      (fun piece hpiece => hpieces piece (List.mem_cons_of_mem _ hpiece)) hs

/-- A path is not empty after its last segment. Dots in that place leave an empty one. -/
theorem pushSegment_last_ne_nil (path : List String) (segment : List Char) :
    pushSegment path segment true ≠ [] := by
  rw [pushSegment]
  split
  · simp
  · split <;> simp

/-- A path is not empty after any pieces. -/
theorem pushSegments_ne_nil (hpieces : pieces ≠ []) : pushSegments path pieces ≠ [] := by
  fun_induction pushSegments path pieces with
  | case1 path => exact absurd rfl hpieces
  | case2 path last => exact pushSegment_last_ne_nil path last
  | case3 path segment rest hrest ih => exact ih hrest

/-- In an address of the web no backslash is left, since each counts as a slash. -/
theorem straighten_ne (c : Char) : straighten true c ≠ '\\' := by
  rw [straighten, Bool.true_and]
  split
  · decide
  · next hc => exact fun heq => hc (by rw [heq]; decide)

/-- No slash of either kind comes out of encoding. -/
theorem slash_not_mem_percentEncode {c : Char} (hc : c = '/' ∨ c = '\\') (h : c ∉ cs) :
    c ∉ percentEncode pathSet cs := by
  have hdigit : ∀ n : Fin 16, hexUpper n ≠ '/' ∧ hexUpper n ≠ '\\' := by decide
  intro hmem
  rcases of_mem_percentEncode hmem with ⟨hmem, -⟩ | rfl | ⟨n, hn, rfl⟩
  · exact h hmem
  · rcases hc with hc | hc <;> cases hc
  · exact hc.elim (hdigit ⟨n, hn⟩).1 (hdigit ⟨n, hn⟩).2

/-- What is read for the web is a list of segments. -/
theorem isSegment_of_mem_parseSegments {s : String} (hs : s ∈ parseSegments true cs) :
    IsSegment s.toList := by
  refine isSegment_of_mem_pushSegments (fun _ h => absurd h List.not_mem_nil)
    (fun piece hpiece => ?_) hs
  obtain ⟨part, hpart, rfl⟩ := List.mem_map.1 hpiece
  have hbackslash : '\\' ∉ part := fun hmem => by
    obtain ⟨c, -, hc⟩ := List.mem_map.1 (mem_of_mem_split hpart hmem)
    exact straighten_ne c hc
  exact ⟨fun c => pathSet_of_mem_percentEncode,
    slash_not_mem_percentEncode (.inl rfl) (not_mem_of_mem_split hpart),
    slash_not_mem_percentEncode (.inr rfl) hbackslash⟩

/-- A path that is read has one segment at least. -/
theorem parseSegments_ne_nil (isSpecial : Bool) (cs : List Char) :
    parseSegments isSpecial cs ≠ [] :=
  pushSegments_ne_nil (by simpa using split_ne_nil _ _)

/-- The segments of a path that is read for the web are written segments. -/
theorem isSegment_of_mem_parsePath {s : String} (hs : s ∈ parsePath true cs) :
    IsSegment s.toList := by
  rw [parsePath.eq_def] at hs
  split at hs
  · rw [List.mem_singleton.1 hs]
    exact isSegment_nil
  · split at hs
    · exact isSegment_of_mem_parseSegments hs
    · exact isSegment_of_mem_parseSegments hs

/-- A path of the web that is read has one segment at least. -/
theorem parsePath_ne_nil (cs : List Char) : parsePath true cs ≠ [] := by
  rw [parsePath.eq_def]
  split
  · exact List.cons_ne_nil _ _
  · split
    · exact parseSegments_ne_nil _ _
    · exact parseSegments_ne_nil _ _

/-! ### Texts of paths -/

/-- The text of a path of the web: a slash, and segments with slashes between. -/
def IsPathText (cs : List Char) : Prop :=
  ∃ rest, cs = '/' :: rest ∧ ∀ piece ∈ split '/' rest, IsSegment piece

/-- The text of a path is a slash and its segments with slashes between them. -/
theorem toList_segmentsText (hne : segments ≠ []) :
    (segmentsText segments).toList = '/' :: ['/'].intercalate (segments.map String.toList) := by
  rw [segmentsText, String.toList_ofList]
  induction segments with
  | nil => exact absurd rfl hne
  | cons s segments ih =>
    cases segments with
    | nil => simp
    | cons t segments =>
      rw [List.flatMap_cons, ih (List.cons_ne_nil _ _), List.map_cons, List.map_cons,
        List.map_cons, List.intercalate_cons_cons]
      simp

/-- The text of a path is split into its segments again, since none of them holds a slash. -/
theorem split_segmentsText (hne : segments ≠ []) (h : ∀ s ∈ segments, IsSegment s.toList) :
    split '/' (['/'].intercalate (segments.map String.toList)) = segments.map String.toList := by
  refine split_intercalate (by simpa using hne) fun piece hpiece => ?_
  obtain ⟨s, hs, rfl⟩ := List.mem_map.1 hpiece
  exact (h s hs).noSlash

/-- The text of segments begins with a slash and holds nothing that a path encodes. So it is a text
that can be given to an address as a path. -/
theorem isPathText_segmentsText (hne : segments ≠ []) (h : ∀ s ∈ segments, IsSegment s.toList) :
    IsPathText (segmentsText segments).toList := by
  refine ⟨_, toList_segmentsText hne, fun piece hpiece => ?_⟩
  rw [split_segmentsText hne h] at hpiece
  obtain ⟨s, hs, rfl⟩ := List.mem_map.1 hpiece
  exact h s hs

/-- A text of this kind is read piece by piece. -/
theorem parsePath_of_isPathText (h : ∀ piece ∈ split '/' rest, IsSegment piece) :
    parsePath true ('/' :: rest) = (split '/' rest).map String.ofList := by
  have hstraight : ∀ c ∈ rest, straighten true c = id c := by
    intro c hc
    rw [straighten, if_neg, id]
    rintro hbackslash
    have hne : c = '\\' := by simpa using hbackslash
    obtain ⟨piece, hpiece, hc⟩ := exists_mem_split hc (show c ≠ '/' by rw [hne]; decide)
    exact (h piece hpiece).noBackslash (hne ▸ hc)
  have hplain : ∀ piece ∈ split '/' rest, percentEncode pathSet piece = id piece :=
    fun piece hpiece => percentEncode_eq_self (h piece hpiece).plain
  have hslash : straighten true '/' = '/' := by decide
  rw [parsePath, if_pos hslash, parseSegments, List.map_congr_left hstraight, List.map_id,
    List.map_congr_left hplain, List.map_id, pushSegments_of_isSegment h]
  rfl

/-- The text of a path is given back by the segments that are read from it. -/
theorem segmentsText_parsePath (h : IsPathText cs) :
    (segmentsText (parsePath true cs)).toList = cs := by
  obtain ⟨rest, rfl, hpieces⟩ := h
  have hne : (split '/' rest).map String.ofList ≠ [] := by simpa using split_ne_nil '/' rest
  rw [parsePath_of_isPathText hpieces, toList_segmentsText hne, List.map_map]
  have hlists : (split '/' rest).map (String.toList ∘ String.ofList) = split '/' rest :=
    List.map_id'' (fun piece => String.toList_ofList) _
  rw [hlists, intercalate_split]

/-- The text of written segments is read as those segments. -/
theorem parsePath_segmentsText (hne : segments ≠ []) (h : ∀ s ∈ segments, IsSegment s.toList) :
    parsePath true (segmentsText segments).toList = segments := by
  obtain ⟨rest, hrest, hpieces⟩ := isPathText_segmentsText hne h
  have hsplit : split '/' rest = segments.map String.toList := by
    rw [toList_segmentsText hne] at hrest
    rw [← (List.cons.inj hrest).2, split_segmentsText hne h]
  rw [hrest, parsePath_of_isPathText hpieces, hsplit, List.map_map]
  exact List.map_id'' (fun s => String.ofList_toList) segments

/-- An empty segment at the end is a slash at the end. -/
theorem segmentsText_concat (segments : List String) :
    segmentsText (segments ++ [""]) = segmentsText segments ++ "/" := by
  refine String.toList_inj.1 ?_
  simp [segmentsText]

/-! ### Addresses -/

variable {a : Url} {s : String}

/-- The path of an address of the web: segments, at least one. -/
def HasWebPath (a : Url) : Prop :=
  ∃ segments, a.path = .segments segments ∧ segments ≠ [] ∧ ∀ s ∈ segments, IsSegment s.toList

/-- The path of an address of the web has a text that can be given to another one as a path. -/
theorem HasWebPath.isPathText (h : a.HasWebPath) : IsPathText a.path.text.toList := by
  obtain ⟨segments, hpath, hne, hsegments⟩ := h
  rw [hpath]
  exact isPathText_segmentsText hne hsegments

/-- A path whose text ends in a slash ends in an empty segment. -/
theorem HasWebPath.path_of_slash (h : a.HasWebPath)
    (hslash : a.path.text.toList.getLast? = some '/') :
    ∃ front, a.path = .segments (front ++ [""]) := by
  obtain ⟨segments, hpath, hne, hsegments⟩ := h
  obtain ⟨front, last, rfl⟩ : ∃ front last, segments = front ++ [last] :=
    ⟨_, _, (List.dropLast_concat_getLast hne).symm⟩
  rw [hpath, Path.text, segmentsText, String.toList_ofList, List.flatMap_append,
    List.flatMap_singleton] at hslash
  have hlast : last.toList = [] := Decidable.byContradiction fun hne => by
    rw [List.getLast?_append, List.getLast?_cons, List.getLast?_eq_some_getLast hne] at hslash
    have hlast : last.toList.getLast hne = '/' := Option.some.inj hslash
    exact (hsegments last (by simp)).noSlash (hlast ▸ List.getLast_mem hne)
  exact ⟨front, by rw [hpath, String.toList_eq_nil_iff.1 hlast]⟩

/-- Addresses of the web are of a special scheme, so backslashes count as slashes there. -/
theorem isSpecial_of_isWeb (h : a.isWeb = true) : a.isSpecial = true := by
  rw [isWeb, Bool.or_eq_true, beq_iff_eq, beq_iff_eq] at h
  rcases h with h | h <;> rw [isSpecial, h] <;> decide

/-- An address that is given the text of a path has that path. -/
theorem text_withPath (hweb : a.isWeb = true) (h : a.HasWebPath) {path : String}
    (hpath : IsPathText path.toList) : (a.withPath path).path.text = path := by
  obtain ⟨segments, hsegments, -, -⟩ := h
  rw [withPath, hsegments, isSpecial_of_isWeb hweb]
  exact String.toList_inj.1 (segmentsText_parsePath hpath)

/-- What follows a scheme of the web is an authority and a path. -/
theorem parseHierarchy?_web {scheme : String} {authority : Option Authority} {path : Path}
    (hweb : scheme = "http" ∨ scheme = "https")
    (h : parseHierarchy? scheme cs = some (authority, path)) :
    ∃ text, path = .segments (parsePath true text) := by
  have hspecial : isSpecialScheme scheme = true := by
    rcases hweb with rfl | rfl <;> decide
  have hfile : scheme ≠ "file" := by
    rcases hweb with rfl | rfl <;> decide
  have hslashes {front back : List Char} (h : ((parseAuthority? scheme front).bind fun authority =>
      some (some authority, Path.segments (parsePath true back))) = some (authority, path)) :
      ∃ text, path = .segments (parsePath true text) := by
    obtain ⟨w, -, hpath⟩ := Option.bind_eq_some_iff.1 h
    cases hpath
    exact ⟨back, rfl⟩
  rw [parseHierarchy?.eq_def] at h
  simp only [hspecial, hfile, if_false, if_true] at h
  split at h
  · exact hslashes h
  · exact hslashes h

/-- An address of the web that was read has a path of segments. -/
theorem hasWebPath_of_parse (h : Url.parse? s = some a) (hweb : a.isWeb = true) :
    a.HasWebPath := by
  simp only [parse?, Option.bind_eq_bind, Option.bind_eq_some_iff] at h
  obtain ⟨⟨scheme, rest⟩, -, ⟨authority, path⟩, hpath, ha⟩ := h
  cases ha
  rw [isWeb, Bool.or_eq_true, beq_iff_eq, beq_iff_eq] at hweb
  obtain ⟨text, htext⟩ := parseHierarchy?_web hweb hpath
  exact ⟨_, htext, parsePath_ne_nil text, fun s => isSegment_of_mem_parsePath⟩

end Fleet.Url
