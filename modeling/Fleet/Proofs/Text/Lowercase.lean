import Fleet.Text.Lowercase
import Mathlib.Data.List.Basic

/-!
# `Fleet.Proofs.Text.Lowercase`: lowering a piece of a text

A character is lowered by itself, a capital sigma aside: it has one form at the end of a word and
another one elsewhere. `lowerBetween` lowers a piece of a text between what stands before and after
it, and a text is lowered piece by piece (`lowerBetween_append`).

So a piece has the same lower-case form in two places where its capital sigmas keep their forms
(`lowerBetween_congr`). Where one more of them takes a form that all others keep, the lowered piece
has more sigmas of that form (`FormKept.count_lt`).

A text that stands in a name letter for letter may therefore be lost when both are lowered. It never
is exactly if each of its sigmas has one form wherever the text stands (`sigmasFixed_iff`). One
letter before or behind the text is enough to tell (`not_infix_lower_cons`,
`not_infix_lower_append`).
-/

set_option autoImplicit false

namespace Fleet.Text

/-! ### The ends of words -/

/-- Whether a capital sigma ends a word, `before` holding the characters before it, the nearest
first, and `after` those behind it. -/
def endsWord (before after : List Char) : Bool :=
  casedNext before && !casedNext after

/-- Whether all characters of a piece are skipped in the search for a cased one. -/
def skipped (cs : List Char) : Bool :=
  cs.all fun c => inRanges c.toNat caseIgnorableRanges

/-- The search for a cased character goes on behind a piece if all of the piece is skipped, and is
decided within the piece otherwise. -/
theorem casedNext_append (cs ds : List Char) :
    casedNext (cs ++ ds) = if skipped cs then casedNext ds else casedNext cs := by
  induction cs with
  | nil => rfl
  | cons c cs ih =>
    rw [List.cons_append, casedNext, casedNext, ih, skipped, skipped, List.all_cons]
    cases inRanges c.toNat caseIgnorableRanges <;> rfl

/-- No cased character comes next in a piece that is skipped. -/
theorem casedNext_of_skipped {cs : List Char} (h : skipped cs = true) : casedNext cs = false := by
  have hnil := casedNext_append cs []
  rwa [List.append_nil, if_pos h] at hnil

/-- A cased character that comes next still does when more text follows. -/
theorem casedNext_append_of_casedNext {cs : List Char} (ds : List Char)
    (h : casedNext cs = true) : casedNext (cs ++ ds) = true := by
  rw [casedNext_append]
  split
  · next hskip =>
    rw [casedNext_of_skipped hskip] at h
    cases h
  · exact h

/-- More characters before a sigma do not keep it from ending a word. -/
theorem endsWord_append_before {before after : List Char} (more : List Char)
    (h : endsWord before after = true) : endsWord (before ++ more) after = true := by
  rw [endsWord, Bool.and_eq_true] at *
  exact h.imp_left (casedNext_append_of_casedNext more)

/-- A sigma that ends a word does so without the last of the characters behind it, too. -/
theorem endsWord_of_append_after {before after more : List Char}
    (h : endsWord before (after ++ more) = true) : endsWord before after = true := by
  rw [endsWord, Bool.and_eq_true, Bool.not_eq_true'] at *
  refine h.imp_right fun hnext => ?_
  rw [← Bool.not_eq_true] at *
  exact fun hcased => hnext (casedNext_append_of_casedNext more hcased)

/-- Whether a piece is skipped does not depend on the direction in which it is searched. -/
theorem skipped_reverse (cs : List Char) : skipped cs.reverse = skipped cs :=
  List.all_reverse

/-- The neighbours of a piece change whether its capital sigma ends a word in two ways only: the
piece has a cased character before the sigma and nothing but skipped ones behind it, or nothing but
skipped ones before the sigma and no cased one next behind it. -/
theorem cases_of_endsWord_ne {u v before after : List Char}
    (h : endsWord (u.reverse ++ before) (v ++ after) ≠ endsWord u.reverse v) :
    (casedNext u.reverse = true ∧ skipped v = true) ∨
      (skipped u = true ∧ casedNext v = false) := by
  cases hnext : casedNext v with
  | true =>
    rw [endsWord, endsWord, hnext, casedNext_append_of_casedNext after hnext, Bool.not_true,
      Bool.and_false, Bool.and_false] at h
    exact absurd rfl h
  | false =>
    cases hu : skipped u with
    | true => exact .inr ⟨rfl, rfl⟩
    | false =>
      rw [endsWord, endsWord, casedNext_append, casedNext_append, skipped_reverse, hu] at h
      cases hv : skipped v with
      | true =>
        cases hcased : casedNext u.reverse with
        | true => exact .inl ⟨rfl, rfl⟩
        | false => simp [hcased] at h
      | false => simp [hv] at h

/-! ### Pieces -/

/-- The two forms of a lowered capital sigma. -/
def sigmaForm (final : Bool) : Char := if final then '\u03C2' else '\u03C3'

/-- The lower-case form of one character between its neighbours. -/
def lowerAt (before : List Char) (c : Char) (after : List Char) : List Char :=
  if c = 'Σ' then [sigmaForm (endsWord before after)] else lowerChar c

/-- The lower-case form of the piece `cs` between the characters before it, the nearest first, and
those after it. -/
def lowerBetween (before : List Char) : List Char → List Char → List Char
  | [], _ => []
  | c :: cs, after => lowerAt before c (cs ++ after) ++ lowerBetween (c :: before) cs after

/-- A text may be lowered in two pieces, if each is lowered with the other one around it. -/
theorem lowerBetween_append (before cs ds after : List Char) :
    lowerBetween before (cs ++ ds) after
      = lowerBetween before cs (ds ++ after) ++ lowerBetween (cs.reverse ++ before) ds after := by
  induction cs generalizing before with
  | nil => rfl
  | cons c cs ih =>
    rw [List.cons_append, lowerBetween, lowerBetween, ih, List.append_assoc cs ds after,
      List.append_assoc, List.reverse_cons, List.append_assoc]
    rfl

/-- Lowering what follows a text is lowering it between that text and nothing. -/
theorem lowerAfter_eq (before cs : List Char) :
    lowerAfter before cs = lowerBetween before cs [] := by
  induction cs generalizing before with
  | nil => rfl
  | cons c cs ih =>
    have hsigma : c = 'Σ' ↔ c.toNat = 0x3A3 := Char.toNat_inj.symm
    rw [lowerAfter, lowerBetween, ih, lowerAt, List.append_nil]
    simp only [hsigma]
    congr 1
    split
    · rw [sigmaForm, endsWord]
      split <;> rfl
    · rfl

/-- Lowering a whole text is lowering it between nothing and nothing. -/
theorem toList_lower (s : String) : (lower s).toList = lowerBetween [] s.toList [] := by
  rw [lower, String.toList_ofList, lowerAfter_eq]

/-! ### One piece in two places -/

section Places

variable {before before' cs after after' : List Char}

/-- Each capital sigma of a piece that has a form in one place, `before` and `after` being its
neighbours there, has this form in another place, too. -/
def FormKept (final : Bool) (before before' cs after after' : List Char) : Prop :=
  ∀ u v, cs = u ++ 'Σ' :: v → endsWord (u.reverse ++ before) (v ++ after) = final →
    endsWord (u.reverse ++ before') (v ++ after') = final

/-- Sigmas that keep their forms in a piece keep them in the piece without its first character,
which has become one of those before it. -/
theorem FormKept.tail {final : Bool} {c : Char}
    (h : FormKept final before before' (c :: cs) after after') :
    FormKept final (c :: before) (c :: before') cs after after' := by
  intro u v hcs
  have hsplit := h (c :: u) v (by rw [hcs]; rfl)
  rwa [List.reverse_cons, List.append_assoc, List.append_assoc] at hsplit

/-- A piece has one lower-case form in two places where its capital sigmas keep their forms. -/
theorem lowerBetween_congr (h : ∀ final, FormKept final before before' cs after after') :
    lowerBetween before cs after = lowerBetween before' cs after' := by
  induction cs generalizing before before' with
  | nil => rfl
  | cons c cs ih =>
    have hhead : lowerAt before c (cs ++ after) = lowerAt before' c (cs ++ after') := by
      rw [lowerAt, lowerAt]
      split
      · next hc =>
        subst hc
        have hends : endsWord before' (cs ++ after') = endsWord before (cs ++ after) :=
          h _ [] cs rfl rfl
        rw [hends]
      · rfl
    rw [lowerBetween, lowerBetween, hhead, ih fun final => (h final).tail]

/-- The two small sigmas are different characters. -/
theorem count_sigmaForm (a b : Bool) :
    [sigmaForm a].count (sigmaForm b) = if a = b then 1 else 0 := by
  revert a b
  decide

/-- The first character gives no sigma of a kept form less in the other place. It is itself such a
sigma there, or it is no capital sigma and its lowered form is the same everywhere. -/
theorem FormKept.count_head_le {final : Bool} {c : Char}
    (h : FormKept final before before' (c :: cs) after after') :
    (lowerAt before c (cs ++ after)).count (sigmaForm final)
      ≤ (lowerAt before' c (cs ++ after')).count (sigmaForm final) := by
  rw [lowerAt, lowerAt]
  split
  · next hc =>
    subst hc
    have hkept : endsWord before (cs ++ after) = final →
        endsWord before' (cs ++ after') = final := h [] cs rfl
    rw [count_sigmaForm, count_sigmaForm]
    split
    · next hfinal => exact Nat.le_of_eq (if_pos (hkept hfinal)).symm
    · exact Nat.zero_le _
  · exact Nat.le_refl _

/-- Where the form is kept, the lowered piece has no fewer sigmas of it. -/
theorem FormKept.count_le {final : Bool} (h : FormKept final before before' cs after after') :
    (lowerBetween before cs after).count (sigmaForm final)
      ≤ (lowerBetween before' cs after').count (sigmaForm final) := by
  induction cs generalizing before before' with
  | nil => exact Nat.le_refl _
  | cons c cs ih =>
    rw [lowerBetween, lowerBetween, List.count_append, List.count_append]
    exact Nat.add_le_add h.count_head_le (ih h.tail)

/-- And it has more of them where one sigma takes the form. -/
theorem FormKept.count_lt {final : Bool} {u v : List Char}
    (h : FormKept final before before' (u ++ 'Σ' :: v) after after')
    (hother : endsWord (u.reverse ++ before) (v ++ after) ≠ final)
    (htaken : endsWord (u.reverse ++ before') (v ++ after') = final) :
    (lowerBetween before (u ++ 'Σ' :: v) after).count (sigmaForm final)
      < (lowerBetween before' (u ++ 'Σ' :: v) after').count (sigmaForm final) := by
  induction u generalizing before before' with
  | nil =>
    rw [List.reverse_nil, List.nil_append] at hother htaken
    rw [List.nil_append, lowerBetween, lowerBetween, List.count_append, List.count_append, lowerAt,
      lowerAt, if_pos rfl, if_pos rfl, count_sigmaForm, count_sigmaForm, if_neg hother,
      if_pos htaken]
    exact Nat.add_lt_add_of_lt_of_le Nat.zero_lt_one h.tail.count_le
  | cons c u ih =>
    rw [List.reverse_cons, List.append_assoc] at hother htaken
    rw [List.cons_append, lowerBetween, lowerBetween, List.count_append, List.count_append]
    exact Nat.add_lt_add_of_le_of_lt h.count_head_le (ih h.tail hother htaken)

end Places

/-! ### A text within names -/

/-- The capital sigmas of a text have the forms in a name, between `before` and `after`, that they
have in the text alone. -/
def SigmasKept (before cs after : List Char) : Prop :=
  ∀ u v, cs = u ++ 'Σ' :: v →
    endsWord (u.reverse ++ before.reverse) (v ++ after) = endsWord u.reverse v

/-- Each capital sigma of a text has one form, wherever the text stands. -/
def SigmasFixed (cs : List Char) : Prop := ∀ before after, SigmasKept before cs after

/-- In a text with a single capital sigma it is that one whose form must be kept. -/
theorem sigmasKept_iff_of_single {u v before after : List Char} (hu : 'Σ' ∉ u) (hv : 'Σ' ∉ v) :
    SigmasKept before (u ++ 'Σ' :: v) after ↔
      endsWord (u.reverse ++ before.reverse) (v ++ after) = endsWord u.reverse v := by
  constructor
  · exact fun h => h u v rfl
  · intro h u' v' hsplit
    obtain ⟨rfl, -, rfl⟩ := (List.append_cons_inj_of_notMem hu hv).1 hsplit
    exact h

/-- A text within a name stays there when both are lowered, if its sigmas keep their forms. -/
theorem SigmasKept.infix_lower {before cs after : List Char} (h : SigmasKept before cs after) :
    lowerBetween [] cs [] <:+: lowerBetween [] (before ++ (cs ++ after)) [] := by
  have hkept (final : Bool) : FormKept final [] before.reverse cs [] after := by
    intro u v hcs hform
    rw [List.append_nil, List.append_nil] at hform
    rw [h u v hcs, hform]
  rw [lowerBetween_append, lowerBetween_append, lowerBetween_congr hkept]
  simp only [List.append_nil]
  exact List.infix_append' _ _ _

/-- Texts without capital sigmas have none that could change. -/
theorem sigmasFixed_of_not_mem {cs : List Char} (h : 'Σ' ∉ cs) : SigmasFixed cs := by
  intro _ _ u v hcs
  rw [hcs] at h
  exact absurd (List.mem_append_right u List.mem_cons_self) h

/-- A capital letter other than the sigma is lowered in the same way between all neighbours. -/
theorem lowerBetween_letter (before after : List Char) : lowerBetween before ['A'] after = ['a'] :=
  rfl

section Lost

variable {u v : List Char}

/-- A sigma that ends the last word of a text does not do so with a letter behind the text, so the
lowered name has one final sigma less than the lowered text. -/
theorem not_infix_lower_append (hcased : casedNext u.reverse = true) (hskip : skipped v = true) :
    ¬ lowerBetween [] (u ++ 'Σ' :: v) [] <:+: lowerBetween [] ((u ++ 'Σ' :: v) ++ ['A']) [] := by
  intro hinfix
  have hkept : FormKept true [] [] (u ++ 'Σ' :: v) ['A'] [] := fun u v _ h => by
    rw [List.append_nil v]
    exact endsWord_of_append_after h
  have hnext : casedNext (v ++ ['A']) = true := by
    rw [casedNext_append, if_pos hskip]
    decide
  have hfewer := hkept.count_lt
    (by rw [endsWord, hnext, Bool.not_true, Bool.and_false]; exact Bool.false_ne_true)
    (by rw [List.append_nil, List.append_nil, endsWord, hcased, casedNext_of_skipped hskip]; rfl)
  have hcount := hinfix.sublist.count_le (sigmaForm true)
  rw [lowerBetween_append _ (u ++ 'Σ' :: v), lowerBetween_letter, List.count_append] at hcount
  exact Nat.not_lt_of_le hcount hfewer

/-- A sigma that starts the first word of a text without more of it ends a word with a letter before
the text, so the lowered name has one sigma less that is not final. -/
theorem not_infix_lower_cons (hskip : skipped u = true) (hnext : casedNext v = false) :
    ¬ lowerBetween [] (u ++ 'Σ' :: v) [] <:+: lowerBetween [] (['A'] ++ (u ++ 'Σ' :: v)) [] := by
  intro hinfix
  have hkept : FormKept false ['A'] [] (u ++ 'Σ' :: v) [] [] := fun u v _ h => by
    rw [← Bool.not_eq_true] at *
    rw [List.append_nil]
    exact fun hends => h (endsWord_append_before _ hends)
  -- With the letter in front the sigma ends a word, and by itself it does not.
  have hbefore : casedNext (u.reverse ++ ['A']) = true := by
    rw [casedNext_append, skipped_reverse, if_pos hskip]
    decide
  have hfewer := hkept.count_lt
    (by rw [List.append_nil, endsWord, hbefore, hnext]; decide)
    (by rw [List.append_nil, List.append_nil, endsWord,
          casedNext_of_skipped (skipped_reverse u ▸ hskip)]; rfl)
  -- The part would have more sigmas of the one form than the whole.
  have hcount := hinfix.sublist.count_le (sigmaForm false)
  have hletter : ['a'].count (sigmaForm false) = 0 := rfl
  rw [lowerBetween_append _ ['A'], lowerBetween_letter, List.count_append, hletter,
    Nat.zero_add] at hcount
  exact Nat.not_lt_of_le hcount hfewer

end Lost

/-- A text stands in the lowered form of every name that holds it exactly if its sigmas are
fixed. -/
theorem sigmasFixed_iff {cs : List Char} :
    SigmasFixed cs ↔ ∀ before after,
      lowerBetween [] cs [] <:+: lowerBetween [] (before ++ (cs ++ after)) [] := by
  constructor
  · exact fun h _ _ => (h _ _).infix_lower
  · intro h before after u v hcs
    subst hcs
    refine Decidable.byContradiction fun hne => ?_
    rcases cases_of_endsWord_ne hne with ⟨hcased, hskip⟩ | ⟨hskip, hnext⟩
    · exact not_infix_lower_append hcased hskip (h [] ['A'])
    · have hinfix := h ['A'] []
      rw [List.append_nil] at hinfix
      exact not_infix_lower_cons hskip hnext hinfix

end Fleet.Text
