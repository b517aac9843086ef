import Fleet.Proofs.Text.Split
import Fleet.Proofs.Url.Percent
import Fleet.Url.Form

/-!
# `Fleet.Proofs.Url.Form`: pairs are read back from a query

Every text can be the name or the value of a pair (`formDecode_formEncode`), and the pairs of a
query are those that it was written for, empty names and values and repeated names included
(`parsePairs_renderPairs`).
-/

set_option autoImplicit false

namespace Fleet.Url

open Fleet.Text

variable {c : Char} {cs : List Char}

/-! ### Names and values -/

/-- What a plus sign stands for is a space; the other bytes stand for themselves. -/
def plusByte (b : UInt8) : UInt8 := if b = 0x2B then 0x20 else b

/-- Without a plus sign there is nothing to turn into a space. -/
theorem map_plusByte_of_not_mem {bs : List UInt8} (h : 0x2B ∉ bs) : bs.map plusByte = bs := by
  have hkept : ∀ b ∈ bs, plusByte b = id b := by
    intro b hb
    have hne : b ≠ 0x2B := fun heq => h (heq ▸ hb)
    rw [plusByte, if_neg hne, id]
  rw [List.map_congr_left hkept, List.map_id]

/-- No plus sign comes out of percent encoding. -/
theorem plus_not_mem_percentBytes (bs : List UInt8) : 0x2B ∉ utf8 (bs.flatMap percentByte) := by
  have hdigit : ∀ n : Fin 16, hexByte n ≠ 0x2B := by decide
  induction bs with
  | nil => exact List.not_mem_nil
  | cons b bs ih =>
    have hb := b.toNat_lt
    rw [List.flatMap_cons, utf8_append, utf8_percentByte]
    intro hmem
    simp only [List.cons_append, List.nil_append, List.mem_cons] at hmem
    rcases hmem with hmem | hmem | hmem | hmem
    · cases hmem
    · exact hdigit ⟨b.toNat / 16, by omega⟩ hmem.symm
    · exact hdigit ⟨b.toNat % 16, by omega⟩ hmem.symm
    · exact ih hmem

/-- A character that stands for itself in a form is none of those that forms give a meaning. -/
theorem isFormPlain_ne (h : isFormPlain c = true) : c ≠ '+' ∧ c ≠ '%' ∧ c ≠ '&' ∧ c ≠ '=' := by
  refine ⟨?_, ?_, ?_, ?_⟩ <;> rintro rfl <;> exact absurd h (by decide)

/-- A written character is read as the bytes of the character that it was written for. -/
theorem percentDecode_formChar (c : Char) (rest : List UInt8) :
    percentDecode ((utf8 (formChar c)).map plusByte ++ rest)
      = String.utf8EncodeChar c ++ percentDecode rest := by
  rw [formChar]
  split
  · next hplain =>
    obtain ⟨hplus, hpercent, -, -⟩ := isFormPlain_ne hplain
    have hplus : 0x2B ∉ String.utf8EncodeChar c := fun hmem =>
      hplus (Char.toNat_inj.1 (encode_of_ascii_mem hmem (by decide)))
    rw [utf8, List.flatMap_cons, List.flatMap_nil, List.append_nil, map_plusByte_of_not_mem hplus,
      percentDecode_append_of_not_mem (percent_not_mem_encode hpercent)]
  · split
    · next hspace =>
      have hbytes : (utf8 ['+']).map plusByte = String.utf8EncodeChar ' ' := by decide
      rw [hbytes, hspace, percentDecode_append_of_not_mem (by decide)]
    · rw [map_plusByte_of_not_mem (plus_not_mem_percentBytes _), percentDecode_percentBytes]

/-- Decoding undoes the encoding of a form, by induction on the characters. -/
theorem formDecode_formEncode (cs : List Char) : formDecode (formEncode cs) = cs := by
  have hbytes : percentDecode ((utf8 (formEncode cs)).map plusByte) = utf8 cs := by
    induction cs with
    | nil => rfl
    | cons c cs ih =>
      rw [formEncode, List.flatMap_cons, utf8_append, List.map_append, percentDecode_formChar,
        ← formEncode, ih]
      rfl
  show decodeLossy (percentDecode ((utf8 (formEncode cs)).map plusByte)) = cs
  rw [hbytes, decodeLossy_utf8]

/-- The characters that part pairs, and names from values, are not written in either. -/
theorem ne_of_mem_formEncode (h : c ∈ formEncode cs) : c ≠ '&' ∧ c ≠ '=' := by
  have hdigit : ∀ n : Fin 16, isFormPlain (hexUpper n) = true := by decide
  obtain ⟨d, -, hc⟩ := List.mem_flatMap.1 h
  rw [formChar] at hc
  split at hc
  · next hplain =>
    rw [List.mem_singleton.1 hc]
    exact (isFormPlain_ne hplain).2.2
  · split at hc
    · rw [List.mem_singleton.1 hc]
      decide
    · obtain ⟨b, -, hc⟩ := List.mem_flatMap.1 hc
      have hb := b.toNat_lt
      simp only [percentByte, List.mem_cons, List.not_mem_nil, or_false] at hc
      rcases hc with rfl | rfl | rfl
      · decide
      · exact (isFormPlain_ne (hdigit ⟨b.toNat / 16, by omega⟩)).2.2
      · exact (isFormPlain_ne (hdigit ⟨b.toNat % 16, by omega⟩)).2.2

/-! ### Pairs -/

/-- A pair is read back from its text: the first equals sign is the one between name and value, as
encoding leaves no other. -/
theorem parsePair_formPair (p : Pair) : parsePair (formPair p) = p := by
  have hname : '=' ∉ formEncode p.1.toList := fun hmem => (ne_of_mem_formEncode hmem).2 rfl
  rw [parsePair, formPair, splitFirst?_append hname]
  dsimp only
  rw [formDecode_formEncode, formDecode_formEncode, String.ofList_toList, String.ofList_toList]

/-- The text of a pair holds no ampersand, so pairs can be joined by it. -/
theorem ampersand_not_mem_formPair (p : Pair) : '&' ∉ formPair p := by
  intro hmem
  rcases List.mem_append.1 hmem with hmem | hmem
  · exact (ne_of_mem_formEncode hmem).1 rfl
  · rcases List.mem_cons.1 hmem with hmem | hmem
    · cases hmem
    · exact (ne_of_mem_formEncode hmem).1 rfl

/-- The text of a pair is not empty, not even for an empty name and value, so it is not skipped by
the reader. -/
theorem formPair_ne_nil (p : Pair) : formPair p ≠ [] :=
  List.append_ne_nil_of_right_ne_nil _ (List.cons_ne_nil _ _)

/-- A query is the texts of its pairs with ampersands between them. -/
theorem toList_renderPairs (pairs : List Pair) :
    (renderPairs pairs).toList = ['&'].intercalate (pairs.map formPair) := by
  rw [renderPairs, String.toList_intercalate, List.map_map]
  refine congrArg _ (List.map_congr_left fun p _ => ?_)
  exact String.toList_ofList

/-- A query is read piece by piece, the pieces being what stands between its ampersands. -/
theorem parsePairs_intercalate {pieces : List (List Char)} (hfilled : ∀ piece ∈ pieces, piece ≠ [])
    (hwhole : ∀ piece ∈ pieces, '&' ∉ piece) :
    parsePairs (String.ofList (['&'].intercalate pieces)) = pieces.map parsePair := by
  rw [parsePairs, String.toList_ofList]
  cases pieces with
  | nil => rfl
  | cons piece pieces =>
    have hkept : ∀ p ∈ piece :: pieces, (!p.isEmpty) = true := by
      intro p hp
      rw [Bool.not_eq_true', List.isEmpty_eq_false_iff]
      exact hfilled p hp
    rw [split_intercalate (List.cons_ne_nil _ _) hwhole, List.filter_eq_self.2 hkept]

/-- The pairs of a query are those that it was written for. -/
theorem parsePairs_renderPairs (pairs : List Pair) : parsePairs (renderPairs pairs) = pairs := by
  have hpieces := parsePairs_intercalate
    (fun piece (hpiece : piece ∈ pairs.map formPair) => by
      obtain ⟨p, -, rfl⟩ := List.mem_map.1 hpiece
      exact formPair_ne_nil p)
    (fun piece hpiece => by
      obtain ⟨p, -, rfl⟩ := List.mem_map.1 hpiece
      exact ampersand_not_mem_formPair p)
  rw [← toList_renderPairs, String.ofList_toList, List.map_map] at hpieces
  rw [hpieces]
  exact List.map_id'' parsePair_formPair _

/-- Queries that are joined by an ampersand hold the pairs of both. -/
theorem parsePairs_join (q r : String) :
    parsePairs (q ++ "&" ++ r) = parsePairs q ++ parsePairs r := by
  have hamp : "&".toList = ['&'] := rfl
  rw [parsePairs, parsePairs, parsePairs, String.toList_append, String.toList_append, hamp,
    List.append_assoc, List.singleton_append, split_append_cons, List.filter_append,
    List.map_append]

/-- Pairs that are put behind a query are read behind its own. -/
theorem parsePairs_appendPairs (query : Option String) (pairs : List Pair) :
    parsePairs (appendPairs query pairs) = parsePairs (query.getD "") ++ pairs := by
  cases query with
  | none => exact parsePairs_renderPairs pairs
  | some q =>
    rw [appendPairs, Option.getD_some]
    split
    · next hempty =>
      rcases Bool.or_eq_true_iff.1 hempty with hq | hpairs
      · rw [String.isEmpty_iff.1 hq, String.empty_append, parsePairs_renderPairs]
        rfl
      · rw [List.isEmpty_iff.1 hpairs, List.append_nil]
        exact congrArg parsePairs String.append_empty
    · rw [parsePairs_join, parsePairs_renderPairs]

end Fleet.Url
