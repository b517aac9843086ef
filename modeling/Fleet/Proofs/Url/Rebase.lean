import Fleet.Objects.Service
import Fleet.Proofs.Url.Form
import Fleet.Proofs.Url.Path
import Mathlib.Data.List.DropRight

/-!
# `Fleet.Proofs.Url.Rebase`: what a gateway leaves of a link

The path of a link goes on behind that of the gateway with one slash between
(`joinPaths_parts`), and nothing is encoded or resolved a second time, since both were read as
paths already (`isPathText_joinPaths`). The pairs are those of the gateway and those of the link
that it does not name, in the order of names (`filter_mergePairs`). What is written for them is read
back, so a signature among them keeps its value (`rebase_keeps_signature`).
-/

set_option autoImplicit false

namespace Fleet.Url

open Fleet.Text

/-! ### Paths -/

variable {base tail : String}

/-- The slashes at the end of the first path and at the front of the second make room for one. -/
theorem joinPaths_parts (base tail : String) : ∃ front back m n,
    base.toList = front ++ List.replicate m '/' ∧ front.getLast? ≠ some '/' ∧
    tail.toList = List.replicate n '/' ++ back ∧ back.head? ≠ some '/' ∧
    (joinPaths base tail).toList = front ++ '/' :: back := by
  have hall {cs : List Char} (h : ∀ c ∈ cs, decide (c = '/') = true) :
      cs = List.replicate cs.length '/' :=
    List.eq_replicate_of_mem fun c hc => of_decide_eq_true (h c hc)
  have hhead (cs : List Char) : (cs.dropWhile (· = '/')).head? ≠ some '/' := by
    intro h
    have hnot := List.head?_dropWhile_not (fun c => decide (c = '/')) cs
    rw [h] at hnot
    exact absurd hnot (by decide)
  refine ⟨base.toList.rdropWhile (· = '/'), tail.toList.dropWhile (· = '/'),
    (base.toList.rtakeWhile (· = '/')).length, (tail.toList.takeWhile (· = '/')).length,
    ?_, ?_, ?_, hhead tail.toList, String.toList_ofList⟩
  · rw [← hall fun c => List.mem_rtakeWhile_imp, List.rdropWhile_append_rtakeWhile]
  · rw [List.rdropWhile, List.getLast?_reverse]
    exact hhead base.toList.reverse
  · rw [← hall fun c => List.mem_takeWhile_imp, List.takeWhile_append_dropWhile]

/-- Two paths of the web are joined to a path of the web. -/
theorem isPathText_joinPaths (hbase : IsPathText base.toList) (htail : IsPathText tail.toList) :
    IsPathText (joinPaths base tail).toList := by
  obtain ⟨front, back, m, n, hfront, -, hback, hhead, hjoin⟩ := joinPaths_parts base tail
  obtain ⟨baseRest, hbaseRest, hbasePieces⟩ := hbase
  obtain ⟨tailRest, htailRest, htailPieces⟩ := htail
  -- The second path begins with a slash, so there is one in front of what is left of it.
  have hbackPieces : ∀ piece ∈ split '/' back, IsSegment piece := by
    intro piece hpiece
    rw [htailRest] at hback
    cases n with
    | zero =>
      rw [List.replicate_zero, List.nil_append] at hback
      exact absurd (by rw [← hback]; rfl) hhead
    | succ n =>
      rw [List.replicate_succ, List.cons_append] at hback
      refine htailPieces piece ?_
      rw [(List.cons.inj hback).2]
      simpa using mem_split_trimmed hpiece 0 n
  rw [hbaseRest] at hfront
  rw [hjoin]
  cases front with
  | nil => exact ⟨back, rfl, hbackPieces⟩
  | cons c front =>
    rw [List.cons_append] at hfront
    obtain ⟨rfl, hrest⟩ := List.cons.inj hfront
    refine ⟨front ++ '/' :: back, rfl, fun piece hpiece => ?_⟩
    rw [split_append_cons] at hpiece
    rcases List.mem_append.1 hpiece with hpiece | hpiece
    · refine hbasePieces piece ?_
      rw [hrest]
      exact mem_split_trimmed hpiece m 0
    · exact hbackPieces piece hpiece

/-! ### Pairs -/

variable {p q : Pair}

/-- Pairs are compared by their names alone, so pairs with one name may stand in either order. -/
theorem pairBefore_iff : pairBefore p q = true ↔ p.1 ≤ q.1 := by
  rw [pairBefore, Bool.not_eq_true', decide_eq_false_iff_not, String.not_lt]

/-- The comparison of pairs is transitive, as a sort asks. -/
theorem pairBefore_trans (p q r : Pair) (hpq : pairBefore p q = true)
    (hqr : pairBefore q r = true) : pairBefore p r = true :=
  pairBefore_iff.2 (String.le_trans (pairBefore_iff.1 hpq) (pairBefore_iff.1 hqr))

/-- Any two pairs compare, as a sort asks. -/
theorem pairBefore_total (p q : Pair) : (pairBefore p q || pairBefore q p) = true := by
  rw [Bool.or_eq_true, pairBefore_iff, pairBefore_iff]
  exact String.le_total p.1 q.1

/-- The order of names leaves pairs of one name in the order in which they were. -/
theorem filter_mergeSort (pairs : List Pair) (name : String) :
    (pairs.mergeSort pairBefore).filter (·.1 == name) = pairs.filter (·.1 == name) := by
  have hsame : (pairs.filter (·.1 == name)).Pairwise fun p q => pairBefore p q = true := by
    refine List.pairwise_of_forall_mem_list fun p hp q hq => pairBefore_iff.2 ?_
    have hp : p.1 = name := beq_iff_eq.1 (List.mem_filter.1 hp).2
    have hq : q.1 = name := beq_iff_eq.1 (List.mem_filter.1 hq).2
    exact hp.trans hq.symm ▸ String.le_refl p.1
  have hsub := (List.sublist_mergeSort pairBefore_trans pairBefore_total hsame
    List.filter_sublist).filter (·.1 == name)
  rw [List.filter_filter] at hsub
  simp only [Bool.and_self] at hsub
  exact (hsub.eq_of_length ((List.mergeSort_perm pairs pairBefore).filter _).length_eq.symm).symm

/-- A search for a name among pairs finds it exactly if it is one of their names. -/
theorem any_name (pairs : List Pair) (name : String) :
    pairs.any (·.1 == name) = decide (name ∈ pairs.map (·.1)) := by
  rw [Bool.eq_iff_iff, List.any_eq_true, decide_eq_true_eq, List.mem_map]
  simp only [beq_iff_eq]

/-- A name is with the pairs of the gateway, if it has any of that name, else with those of the
link. -/
theorem filter_mergePairs (link gateway : List Pair) (name : String) :
    (mergePairs link gateway).filter (·.1 == name)
      = if name ∈ gateway.map (·.1) then gateway.filter (·.1 == name)
        else link.filter (·.1 == name) := by
  rw [mergePairs, filter_mergeSort, List.filter_append, List.filter_filter]
  by_cases hset : name ∈ gateway.map (·.1)
  · have hdropped : link.filter (fun p => p.1 == name && !gateway.any (·.1 == p.1)) = [] := by
      refine List.filter_eq_nil_iff.2 fun p _ hkept => ?_
      rw [Bool.and_eq_true, beq_iff_eq, Bool.not_eq_true'] at hkept
      rw [any_name, decide_eq_false_iff_not, hkept.1] at hkept
      exact hkept.2 hset
    rw [hdropped, List.nil_append, if_pos hset]
  · have hkept : link.filter (fun p => p.1 == name && !gateway.any (·.1 == p.1))
        = link.filter (·.1 == name) := by
      refine List.filter_congr fun p _ => ?_
      by_cases hp : p.1 = name
      · rw [any_name, hp, decide_eq_false hset, Bool.not_false, Bool.and_true]
      · rw [beq_eq_false_iff_ne.2 hp, Bool.false_and]
    have hnone : gateway.filter (·.1 == name) = [] :=
      List.filter_eq_nil_iff.2 fun p hp hname => hset (List.mem_map.2 ⟨p, hp, beq_iff_eq.1 hname⟩)
    rw [hkept, hnone, List.append_nil, if_neg hset]

/-! ### Links -/

variable {a link gateway : Url} {s t : String}

/-- The pairs of a link on a gateway are those of the two merged. Rendering them and reading them
again loses nothing. -/
theorem pairs_rebase (link gateway : Url) :
    (link.rebase gateway).pairs = mergePairs link.pairs gateway.pairs := by
  rw [rebase, pairs]
  dsimp only
  split
  · next hempty => rw [List.isEmpty_iff.1 hempty]; decide
  · rw [Option.getD_some, parsePairs_renderPairs]

/-- What a link becomes that leads through a gateway. -/
structure Rebased (link gateway result : Url) : Prop where
  scheme : result.scheme = gateway.scheme
  /-- User, password, host and port. -/
  authority : result.authority = gateway.authority
  fragment : result.fragment = link.fragment
  path : ∃ front back m n,
    gateway.path.text.toList = front ++ List.replicate m '/' ∧ front.getLast? ≠ some '/' ∧
    link.path.text.toList = List.replicate n '/' ++ back ∧ back.head? ≠ some '/' ∧
    result.path.text.toList = front ++ '/' :: back
  /-- The pairs of the gateway and those of the link that it does not set. -/
  pairs : result.pairs.Perm
    (link.pairs.filter (fun p => p.1 ∉ gateway.pairs.map (·.1)) ++ gateway.pairs)
  sorted : result.pairs.Pairwise fun p q => p.1 ≤ q.1
  /-- The pairs of a name keep their order and their number. -/
  named : ∀ name, result.pairs.filter (·.1 == name)
    = if name ∈ gateway.pairs.map (·.1) then gateway.pairs.filter (·.1 == name)
      else link.pairs.filter (·.1 == name)

/-- A link of the web that leads through a gateway of the web keeps its path, its fragment, and
each pair whose name the gateway does not set, with its exact value. Without a gateway it stays as
it is. A link that was handed out is read, and written when it was rebased. -/
theorem rebase_keeps_signature (hlink : Url.parse? s = some link) (hweb : link.isWeb = true)
    (hgateway : Url.parse? t = some gateway) (hgatewayWeb : gateway.isWeb = true) :
    Rebased link gateway (link.rebaseOnto (some gateway)) ∧
    (link.rebaseOnto none = link) ∧
    ∀ l : Link, l.rebase none = .ok l ∧ (l.uri = s →
      l.rebase (some gateway) = .ok { l with uri := (link.rebaseOnto (some gateway)).text }) := by
  have hpath : IsPathText link.path.text.toList := (hasWebPath_of_parse hlink hweb).isPathText
  have hgatewayPath := hasWebPath_of_parse hgateway hgatewayWeb
  refine ⟨⟨rfl, rfl, rfl, ?_, ?_, ?_, ?_⟩, rfl, fun l => ⟨rfl, fun huri => ?_⟩⟩
  · show ∃ front back m n, _ ∧ _ ∧ _ ∧ _ ∧
      (gateway.withPath (joinPaths gateway.path.text link.path.text)).path.text.toList = _
    rw [text_withPath hgatewayWeb hgatewayPath
      (isPathText_joinPaths hgatewayPath.isPathText hpath)]
    exact joinPaths_parts _ _
  · show (link.rebase gateway).pairs.Perm _
    -- The text compares names as strings, the program with a test.
    have hkept : link.pairs.filter (fun p => !gateway.pairs.any (·.1 == p.1))
        = link.pairs.filter (fun p => p.1 ∉ gateway.pairs.map (·.1)) := by
      refine List.filter_congr fun p _ => ?_
      rw [any_name, ← decide_not]
    rw [pairs_rebase, mergePairs, hkept]
    exact List.mergeSort_perm _ _
  · show (link.rebase gateway).pairs.Pairwise _
    rw [pairs_rebase]
    exact (List.pairwise_mergeSort pairBefore_trans pairBefore_total _).imp pairBefore_iff.1
  · intro name
    show (link.rebase gateway).pairs.filter _ = _
    rw [pairs_rebase, filter_mergePairs]
  · rw [Link.rebase, huri, hlink]
    rfl

/-- The address of a signed link. -/
def sampleSigned : Url where
  scheme := "https"
  authority := some { host := .name "acct.blob.local" }
  path := .segments ["c", "art"]
  query := some "sig=a%2B%C3%A9&route=a&sp=r&route=b"
  fragment := some "top"

/-- The address of a gateway that sets the route. -/
def sampleGateway : Url where
  scheme := "http"
  authority := some { host := .name "gw.local", port := some 8080 }
  path := .segments ["files", "", ""]
  query := some "token=t&route=g"

/-- The signature is behind the route of the gateway, with the value that it had. -/
theorem rebase_keeps_signature_sample :
    Rebased sampleSigned sampleGateway (sampleSigned.rebaseOnto (some sampleGateway)) ∧
    (sampleSigned.rebaseOnto (some sampleGateway)).pairs.filter (·.1 == "sig")
      = [("sig", "a+é")] ∧
    (sampleSigned.rebaseOnto (some sampleGateway)).pairs.filter (·.1 == "route")
      = [("route", "g")] := by
  have hlink : Url.parse?
      "https://acct.blob.local/c/art?sig=a%2B%C3%A9&route=a&sp=r&route=b#top"
        = some sampleSigned := by
    decide +kernel
  have hgateway : Url.parse? "http://gw.local:8080/files//?token=t&route=g"
      = some sampleGateway := by
    decide +kernel
  have hrebased := (rebase_keeps_signature hlink (by decide) hgateway (by decide)).1
  refine ⟨hrebased, ?_, ?_⟩
  · rw [hrebased.named]
    decide +kernel
  · rw [hrebased.named]
    decide +kernel

end Fleet.Url
