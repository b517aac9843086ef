import Fleet.Proofs.Text.Lowercase
import Fleet.Query

/-!
# `Fleet.Proofs.Query.Search`: the texts that a search finds

A query lowers its text and the names of a deployment on their own and looks for the one in the
others (`accepts_iff`). A name that holds the text letter for letter is found where the capital
sigmas of the text have the same forms in the name as alone, and some name that holds it is not
found unless all of them have one form wherever the text stands (`verbatim_found_iff`). A text
without capital sigmas is always found (`accepts_of_no_sigma`).
-/

set_option autoImplicit false

namespace Fleet

open Fleet.Text

/-- The search for a text finds it exactly if it stands somewhere as one piece. -/
theorem Text.occursIn_iff {pat cs : List Char} : occursIn pat cs = true ↔ pat <:+: cs := by
  induction cs with
  | nil => rw [occursIn, List.isEmpty_iff, List.infix_nil]
  | cons c cs ih =>
    rw [occursIn, Bool.or_eq_true, List.isPrefixOf_iff_prefix, ih, List.infix_cons_iff]

namespace Query

variable {q : Query} {d : Deployment} {s : String}

/-- The filters of a query besides its text. -/
def otherFilters (q : Query) : Query := { q with searchText := none }

/-- A query accepts what its text is found in and its other filters accept. -/
theorem accepts_iff :
    q.accepts d = true ↔ q.matchesText d = true ∧ q.otherFilters.accepts d = true := by
  have hnone : q.otherFilters.matchesText d = true := rfl
  rw [accepts, accepts, hnone]
  simp only [Bool.and_eq_true, true_and, and_assoc]
  rfl

/-- The lowered text is looked for in the lowered names. The empty text is found in all of them. -/
theorem matchesText_iff (hs : q.searchText = some s) :
    q.matchesText d = true ↔
      (lower (trim s)).toList <:+: (lower d.plan.name).toList ∨
        (lower (trim s)).toList <:+: (lower d.artifactName).toList := by
  have hempty (h : trim s = "") : (lower (trim s)).toList <:+: (lower d.plan.name).toList := by
    rw [h]
    exact List.nil_infix
  rw [matchesText, hs, Option.map_some]
  simp only [Bool.or_eq_true, occursIn_iff, String.isEmpty_iff]
  exact or_congr_left ⟨fun h => h.elim hempty id, .inr⟩

/-- A deployment is found by a text that it holds where the sigmas of the text keep their forms,
whether in its own name or in that of its artifact. -/
theorem accepts_of_sigmasKept (hs : q.searchText = some s)
    (hothers : q.otherFilters.accepts d = true) {before after : List Char}
    (hheld : d.plan.name.toList = before ++ ((trim s).toList ++ after) ∨
      d.artifactName.toList = before ++ ((trim s).toList ++ after))
    (hkept : SigmasKept before (trim s).toList after) : q.accepts d = true := by
  have hinfix := hkept.infix_lower
  refine accepts_iff.2 ⟨(matchesText_iff hs).2 (hheld.imp (fun hname => ?_) fun hname => ?_),
    hothers⟩
  · rwa [toList_lower, toList_lower, hname]
  · rwa [toList_lower, toList_lower, hname]

/-- A text with fixed sigmas is found in every name that holds it. -/
theorem accepts_of_sigmasFixed (hs : q.searchText = some s)
    (hothers : q.otherFilters.accepts d = true)
    (hheld : (trim s).toList <:+: d.plan.name.toList ∨ (trim s).toList <:+: d.artifactName.toList)
    (hfixed : SigmasFixed (trim s).toList) : q.accepts d = true := by
  rcases hheld with ⟨before, after, hname⟩ | ⟨before, after, hname⟩
  · rw [List.append_assoc] at hname
    exact accepts_of_sigmasKept hs hothers (.inl hname.symm) (hfixed before after)
  · rw [List.append_assoc] at hname
    exact accepts_of_sigmasKept hs hothers (.inr hname.symm) (hfixed before after)

/-- That is so for all texts without a capital sigma. -/
theorem accepts_of_no_sigma (hs : q.searchText = some s)
    (hothers : q.otherFilters.accepts d = true)
    (hheld : (trim s).toList <:+: d.plan.name.toList ∨ (trim s).toList <:+: d.artifactName.toList)
    (hsigma : 'Σ' ∉ (trim s).toList) : q.accepts d = true :=
  accepts_of_sigmasFixed hs hothers hheld (sigmasFixed_of_not_mem hsigma)

/-- A deployment with one name for itself and for its artifact. -/
def namedTwice (name : List Char) : Deployment :=
  { id := "", plan := { name := String.ofList name, artifactName := String.ofList name },
    created := ⟨0, 0⟩ }

/-- A name that holds the text letter for letter is found if the capital sigmas of the text have
the same forms there as in the text alone. All names that hold the text are found exactly if its
sigmas have one form wherever the text stands. -/
theorem verbatim_found_iff (s : String) :
    (∀ (q : Query) (d : Deployment), q.searchText = some s → q.otherFilters.accepts d = true →
      ∀ before after,
        (d.plan.name.toList = before ++ ((trim s).toList ++ after) ∨
          d.artifactName.toList = before ++ ((trim s).toList ++ after)) →
        SigmasKept before (trim s).toList after → q.accepts d = true) ∧
    ((∀ (q : Query) (d : Deployment), q.searchText = some s → q.otherFilters.accepts d = true →
        ((trim s).toList <:+: d.plan.name.toList ∨ (trim s).toList <:+: d.artifactName.toList) →
        q.accepts d = true) ↔ SigmasFixed (trim s).toList) := by
  refine ⟨fun q d hs hothers before after => accepts_of_sigmasKept hs hothers, fun hall =>
    sigmasFixed_iff.2 fun before after => ?_, fun hfixed q d hs hothers hheld => ?_⟩
  · have hname : (trim s).toList <:+: before ++ ((trim s).toList ++ after) :=
      List.infix_append' _ _ _
    have hmatch := hall { searchText := some s }
      (namedTwice (before ++ ((trim s).toList ++ after))) rfl rfl
      (.inl (by rwa [namedTwice, String.toList_ofList]))
    have hinfix := ((matchesText_iff rfl).1 (accepts_iff.1 hmatch).1).elim id id
    rwa [toList_lower, toList_lower, namedTwice, String.toList_ofList] at hinfix
  · exact accepts_of_sigmasFixed hs hothers hheld hfixed

/-- A word that ends in a sigma is found among other words: the sigma ends a word there, too. -/
theorem verbatim_found_among_words :
    SigmasKept "Η ".toList "ΟΔΟΣ".toList " ΕΔΩ".toList ∧
      accepts { searchText := some "ΟΔΟΣ" } (namedTwice "Η ΟΔΟΣ ΕΔΩ".toList) = true := by
  have hkept : SigmasKept "Η ".toList "ΟΔΟΣ".toList " ΕΔΩ".toList :=
    (sigmasKept_iff_of_single (u := "ΟΔΟ".toList) (v := []) (by decide) (by decide)).2
      (by decide +kernel)
  have htext : trim "ΟΔΟΣ" = "ΟΔΟΣ" := by decide +kernel
  rw [← htext] at hkept
  have hfound := (verbatim_found_iff "ΟΔΟΣ").1 { searchText := some "ΟΔΟΣ" }
    (namedTwice "Η ΟΔΟΣ ΕΔΩ".toList) rfl rfl _ _ (.inl (by decide +kernel)) hkept
  rw [htext] at hkept
  exact ⟨hkept, hfound⟩

/-- The sigma at the end of a word is not fixed: the word is lost behind one more letter. -/
theorem verbatim_lost :
    ¬ ∀ (q : Query) (d : Deployment) (s : String), q.searchText = some s →
      q.otherFilters.accepts d = true →
      ((trim s).toList <:+: d.plan.name.toList ∨ (trim s).toList <:+: d.artifactName.toList) →
      q.accepts d = true := by
  intro hall
  have hlost := hall { searchText := some "ΟΔΟΣ" } (namedTwice "ΟΔΟΣΑ".toList) "ΟΔΟΣ" rfl rfl
    (by decide +kernel)
  exact absurd hlost (by decide +kernel)

end Query

end Fleet
