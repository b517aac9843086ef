import Fleet.Text.Search

/-!
# `Fleet.Proofs.Text.Split`: the pieces between separators

`split` is the split of the library (`split_eq_splitOn`), so it undoes joining, and joining undoes
it (`split_intercalate`, `intercalate_split`). A separator parts the pieces before it from those
after it (`split_append_cons`), and no piece holds one (`not_mem_of_mem_split`). So pieces without
separators are settled by the text that they are joined to (`intercalate_inj`).
-/

set_option autoImplicit false

namespace Fleet.Text

variable {sep c : Char} {cs piece before after : List Char} {pieces : List (List Char)}

/-- Splitting is the function of the library, so its laws hold here. -/
theorem split_eq_splitOn (sep : Char) (cs : List Char) : split sep cs = cs.splitOn sep := by
  induction cs with
  | nil => rfl
  | cons c cs ih =>
    rw [split, List.splitOn_cons_eq_if_modifyHead, ih]
    by_cases h : c = sep
    · rw [if_pos h, if_pos (beq_iff_eq.2 h)]
    · rw [if_neg h, if_neg (mt beq_iff_eq.1 h)]
      cases hpieces : cs.splitOn sep with
      | nil => exact absurd hpieces (List.splitOn_ne_nil sep cs)
      | cons piece rest => rfl

/-- A split gives one piece at least, which is empty for an empty text. -/
theorem split_ne_nil (sep : Char) (cs : List Char) : split sep cs ≠ [] := by
  rw [split_eq_splitOn]
  exact List.splitOn_ne_nil sep cs

/-- The first piece ends where a separator does. -/
theorem split_eq_cons (sep : Char) (cs : List Char) :
    split sep cs = cs.takeWhile (· ≠ sep) :: (split sep cs).tail := by
  induction cs with
  | nil => rfl
  | cons c cs ih =>
    rw [split]
    by_cases h : c = sep
    · rw [if_pos h, List.takeWhile_cons_of_neg (by simpa using h), List.tail_cons]
    · rw [if_neg h, List.takeWhile_cons_of_pos (by simpa using h), ih]
      rfl

/-- A separator ends a piece, so the pieces before and behind it are those of two texts. -/
theorem split_append_cons (sep : Char) (before after : List Char) :
    split sep (before ++ sep :: after) = split sep before ++ split sep after := by
  rw [split_eq_splitOn, split_eq_splitOn, split_eq_splitOn, List.splitOn_append_cons_self]

/-- The pieces, joined by the separator again, are the text. -/
theorem intercalate_split (sep : Char) (cs : List Char) :
    [sep].intercalate (split sep cs) = cs := by
  rw [split_eq_splitOn, List.intercalate_splitOn]

/-- The pieces of a text, joined by the separator again, are the text. -/
theorem intercalate_splitText (sep : Char) (s : String) :
    (String.singleton sep).intercalate (splitText sep s) = s := by
  have hpieces : (splitText sep s).map String.toList = split sep s.toList := by
    rw [splitText, List.map_map]
    exact List.map_id'' (fun piece => String.toList_ofList) _
  refine String.toList_inj.1 ?_
  rw [String.toList_intercalate, hpieces, String.toList_singleton, intercalate_split]

/-- A text is settled by its pieces. -/
theorem splitText_inj {s s' : String} (h : splitText sep s = splitText sep s') : s = s' := by
  rw [← intercalate_splitText sep s, h, intercalate_splitText]

/-- Pieces without the separator are what their joined text is split into. There must be one piece
at least, since the text of none is that of one empty piece. -/
theorem split_intercalate (hpieces : pieces ≠ []) (hsep : ∀ piece ∈ pieces, sep ∉ piece) :
    split sep ([sep].intercalate pieces) = pieces := by
  rw [split_eq_splitOn, List.splitOn_intercalate sep hsep hpieces]

/-- Pieces without separators are settled by what they are joined to. -/
theorem intercalate_inj {pieces' : List (List Char)} (hne : pieces ≠ []) (hne' : pieces' ≠ [])
    (hsep : ∀ piece ∈ pieces, sep ∉ piece) (hsep' : ∀ piece ∈ pieces', sep ∉ piece)
    (h : [sep].intercalate pieces = [sep].intercalate pieces') : pieces = pieces' := by
  rw [← split_intercalate hne hsep, h, split_intercalate hne' hsep']

/-- A piece never holds the separator. -/
theorem not_mem_of_mem_split (h : piece ∈ split sep cs) : sep ∉ piece := by
  induction cs generalizing piece with
  | nil =>
    rw [split, List.mem_singleton] at h
    rw [h]
    exact List.not_mem_nil
  | cons c cs ih =>
    rw [split] at h
    split at h
    · rcases List.mem_cons.1 h with rfl | h
      · exact List.not_mem_nil
      · exact ih h
    -- The character belongs to the first piece.
    · next hne =>
      cases hpieces : split sep cs with
      | nil => exact absurd hpieces (split_ne_nil sep cs)
      | cons first rest =>
        rw [hpieces] at h ih
        rcases List.mem_cons.1 h with rfl | h
        · exact List.not_mem_cons_of_ne_of_not_mem (Ne.symm hne) (ih List.mem_cons_self)
        · exact ih (List.mem_cons_of_mem _ h)

/-- Separators at the front and at the end only add pieces. -/
theorem mem_split_trimmed (h : piece ∈ split sep cs) (m n : Nat) :
    piece ∈ split sep (List.replicate n sep ++ (cs ++ List.replicate m sep)) := by
  have hend : piece ∈ split sep (cs ++ List.replicate m sep) := by
    cases m with
    | zero => rwa [List.replicate_zero, List.append_nil]
    | succ m =>
      rw [List.replicate_succ, split_append_cons]
      exact List.mem_append_left _ h
  induction n with
  | zero => rwa [List.replicate_zero, List.nil_append]
  | succ n ih =>
    rw [List.replicate_succ, List.cons_append, split, if_pos rfl]
    exact List.mem_cons_of_mem _ ih

/-- What is in a piece is in the text. -/
theorem mem_of_mem_split (h : piece ∈ split sep cs) (hc : c ∈ piece) : c ∈ cs := by
  rw [← intercalate_split sep cs]
  generalize split sep cs = pieces at h
  induction pieces with
  | nil => cases h
  | cons first rest ih =>
    cases rest with
    | nil =>
      rw [List.mem_singleton.1 h] at hc
      rwa [List.intercalate_singleton]
    | cons second rest =>
      rw [List.intercalate_cons_cons]
      rcases List.mem_cons.1 h with rfl | h
      · exact List.mem_append_left _ (List.mem_append_left _ hc)
      · exact List.mem_append_right _ (ih h)

/-- What is in the text and no separator is in a piece. -/
theorem exists_mem_split (hc : c ∈ cs) (hne : c ≠ sep) : ∃ piece ∈ split sep cs, c ∈ piece := by
  rw [← intercalate_split sep cs] at hc
  generalize split sep cs = pieces at hc
  induction pieces with
  | nil => cases hc
  | cons first rest ih =>
    cases rest with
    | nil =>
      rw [List.intercalate_singleton] at hc
      exact ⟨first, List.mem_singleton_self _, hc⟩
    | cons second rest =>
      rw [List.intercalate_cons_cons, List.append_assoc] at hc
      rcases List.mem_append.1 hc with hc | hc
      · exact ⟨first, List.mem_cons_self, hc⟩
      · obtain ⟨piece, hpiece, hc⟩ := ih (List.mem_of_ne_of_mem hne hc)
        exact ⟨piece, List.mem_cons_of_mem _ hpiece, hc⟩

/-- A text is split at the first separator and not at a later one. -/
theorem splitFirst?_append (h : sep ∉ before) (after : List Char) :
    splitFirst? sep (before ++ sep :: after) = some (before, after) := by
  induction before with
  | nil => exact if_pos rfl
  | cons c before ih =>
    obtain ⟨hc, hbefore⟩ := List.ne_and_not_mem_of_not_mem_cons h
    rw [List.cons_append, splitFirst?, if_neg (Ne.symm hc), ih hbefore, Option.map_some]

/-- Two texts that stand before a separator and hold none are equal if what they begin is. -/
theorem append_cons_inj {before' after' : List Char} (hbefore : sep ∉ before)
    (hbefore' : sep ∉ before') (h : before ++ sep :: after = before' ++ sep :: after') :
    before = before' ∧ after = after' := by
  have hfirst := congrArg (splitFirst? sep) h
  rw [splitFirst?_append hbefore, splitFirst?_append hbefore'] at hfirst
  exact Prod.mk.inj (Option.some.inj hfirst)

/-- A piece without separators is the first one of what it is joined to. -/
theorem intercalate_cons_inj {first first' : List Char} {rest rest' : List (List Char)}
    (hne : rest ≠ []) (hne' : rest' ≠ []) (hfirst : sep ∉ first) (hfirst' : sep ∉ first')
    (h : [sep].intercalate (first :: rest) = [sep].intercalate (first' :: rest')) :
    first = first' ∧ [sep].intercalate rest = [sep].intercalate rest' := by
  rw [List.intercalate_cons_of_ne_nil hne, List.intercalate_cons_of_ne_nil hne',
    List.append_assoc, List.append_assoc] at h
  exact append_cons_inj hfirst hfirst' h

end Fleet.Text
