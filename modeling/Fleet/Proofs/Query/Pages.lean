import Fleet.Query
import Mathlib.Data.List.Nodup
import Mathlib.Data.Nat.Find

/-!
# `Fleet.Proofs.Query.Pages`: pages of one listing

`newestFirst` compares times of creation and lets names decide between equal ones, so it is
transitive and total, and only deployments of one name precede each other. Among deployments of
different names there is therefore one list in that order (`eq_of_listed`), and sorting finds it
from any list of candidates (`listed_listing`).

A query cuts a piece out of that list. The pieces of one size in a row, up to the first empty
one, are the whole list (`flatMap_pages`). `pages_partition` puts this together for queries.
-/

set_option autoImplicit false

namespace Fleet

/-! ### The order of listings -/

/-- A deployment is listed before another one if it was created later or, at the same time, has the
smaller name. Times are compared as moments, whatever their offsets. -/
theorem newestFirst_iff {a b : Deployment} :
    newestFirst a b = true ↔ b.created.nanos < a.created.nanos ∨
      (a.created.nanos = b.created.nanos ∧ a.id ≤ b.id) := by
  rw [newestFirst, Bool.or_eq_true, Bool.and_eq_true, decide_eq_true_eq, decide_eq_true_eq,
    decide_eq_true_eq]

/-- The order of listings is transitive, as a sort asks. -/
theorem newestFirst_trans (a b c : Deployment) (hab : newestFirst a b = true)
    (hbc : newestFirst b c = true) : newestFirst a c = true := by
  rw [newestFirst_iff] at *
  rcases hab with hab | ⟨hab, hid⟩ <;> rcases hbc with hbc | ⟨hbc, hid'⟩
  · exact .inl (by omega)
  · exact .inl (by omega)
  · exact .inl (by omega)
  · exact .inr ⟨hab.trans hbc, String.le_trans hid hid'⟩

/-- Any two deployments compare in the order of listings, as a sort asks. -/
theorem newestFirst_total (a b : Deployment) : (newestFirst a b || newestFirst b a) = true := by
  rw [Bool.or_eq_true, newestFirst_iff, newestFirst_iff]
  rcases Int.lt_trichotomy a.created.nanos b.created.nanos with h | h | h
  · exact .inr (.inl h)
  · exact (String.le_total a.id b.id).imp (fun hid => .inr ⟨h, hid⟩) fun hid => .inr ⟨h.symm, hid⟩
  · exact .inl (.inl h)

namespace Deployment

/-- A deployment stands before another one in listings: it was created later, or at the same
time, whatever the offsets the times are shown in, and has the smaller name. -/
def ListedBefore (a b : Deployment) : Prop :=
  b.created.nanos < a.created.nanos ∨ (a.created.nanos = b.created.nanos ∧ a.id < b.id)

/-- Deployments with different names are never level, so one is listed strictly before the other. -/
theorem listedBefore_of_newestFirst {a b : Deployment} (h : newestFirst a b = true)
    (hne : a.id ≠ b.id) : a.ListedBefore b := by
  refine (newestFirst_iff.1 h).imp (fun hlater => hlater) fun ⟨htime, hid⟩ => ⟨htime, ?_⟩
  exact String.not_le.1 fun hle => hne (String.le_antisymm hid hle)

/-- Of two deployments, only one can be listed before the other. -/
theorem ListedBefore.asymm {a b : Deployment} (h : a.ListedBefore b) : ¬b.ListedBefore a := by
  rintro (hlt | ⟨heq, hid⟩) <;> rcases h with hlt' | ⟨heq', hid'⟩
  · omega
  · omega
  · omega
  · exact String.lt_irrefl _ (String.lt_trans hid hid')

/-- The same deployments can be listed in one way only. -/
theorem eq_of_listed {l l' : List Deployment} (hperm : l.Perm l')
    (h : l.Pairwise ListedBefore) (h' : l'.Pairwise ListedBefore) : l = l' :=
  hperm.eq_of_pairwise (fun _ _ _ _ hab hba => absurd hba hab.asymm) h h'

end Deployment

/-! ### The listing of a query -/

namespace Query

/-- All candidates that a query accepts, in order. -/
def listing (q : Query) (l : List Deployment) : List Deployment :=
  (l.filter q.accepts).mergeSort newestFirst

variable (q : Query) {l l' : List Deployment}

/-- A listing holds just the deployments that the query accepts. -/
theorem perm_listing (l : List Deployment) : (q.listing l).Perm (l.filter q.accepts) :=
  List.mergeSort_perm _ _

/-- Where no two candidates share a name, names decide between equal times. -/
theorem listed_listing (hdistinct : (l.map (·.id)).Nodup) :
    (q.listing l).Pairwise Deployment.ListedBefore := by
  have hsorted : (q.listing l).Pairwise fun a b => newestFirst a b = true :=
    List.pairwise_mergeSort newestFirst_trans newestFirst_total _
  have hids : ((l.filter q.accepts).map (·.id)).Nodup :=
    hdistinct.sublist (List.filter_sublist.map _)
  have hlisted : ((q.listing l).map (·.id)).Nodup :=
    ((q.perm_listing l).map (·.id)).nodup_iff.2 hids
  have hne : (q.listing l).Pairwise fun a b => a.id ≠ b.id := List.pairwise_map.1 hlisted
  exact (hsorted.and hne).imp fun h => Deployment.listedBefore_of_newestFirst h.1 h.2

/-- The listing does not depend on the order of the candidates. -/
theorem listing_perm (hdistinct : (l.map (·.id)).Nodup) (hperm : l'.Perm l) :
    q.listing l' = q.listing l := by
  have hdistinct' : (l'.map (·.id)).Nodup := (hperm.map (·.id)).nodup_iff.2 hdistinct
  have hsame : (q.listing l').Perm (q.listing l) :=
    (q.perm_listing l').trans ((hperm.filter _).trans (q.perm_listing l).symm)
  exact Deployment.eq_of_listed hsame (q.listed_listing hdistinct') (q.listed_listing hdistinct)

/-- A page is cut from the listing, so queries over the same listing give the same page. -/
theorem apply_eq_of_listing_eq (h : q.listing l' = q.listing l) : q.apply l' = q.apply l := by
  rw [listing, listing] at h
  rw [apply, apply, h]

end Query

/-! ### Pages -/

/-- The pages of one size in a row are the beginning of a list. -/
theorem flatMap_pages {α : Type} (l : List α) (k n : Nat) :
    ((List.range n).flatMap fun i => (l.drop (i * k)).take k) = l.take (n * k) := by
  induction n with
  | zero => simp
  | succ n ih =>
    rw [List.range_succ, List.flatMap_append, ih, List.flatMap_singleton, Nat.succ_mul,
      List.take_add]

/-- There is a first empty page. It starts less than a page behind the end. -/
theorem exists_first_empty_page {α : Type} (l : List α) {k : Nat} (hk : 0 < k) :
    ∃ n, (∀ i < n, (l.drop (i * k)).take k ≠ []) ∧ l.length ≤ n * k ∧ n * k < l.length + k := by
  have hend : ∃ n, l.length ≤ n * k := ⟨l.length, Nat.le_mul_of_pos_right _ hk⟩
  refine ⟨Nat.find hend, fun i hi hempty => ?_, Nat.find_spec hend, ?_⟩
  · have hinside : i * k < l.length := Nat.lt_of_not_le (Nat.find_min hend hi)
    have hlength := congrArg List.length hempty
    rw [List.length_take, List.length_drop, List.length_nil] at hlength
    omega
  · cases hn : Nat.find hend with
    | zero => omega
    | succ m =>
      have hinside : m * k < l.length :=
        Nat.lt_of_not_le (Nat.find_min hend (by omega))
      rw [Nat.succ_mul]
      omega

/-- The candidates that a query accepts stand in one listing, whatever order they are given in.
Each page is the piece of the listing that it names, and the pages of one size in a row, up to the
first empty one, are the answer to the query without a page. -/
theorem Query.pages_partition {l : List Deployment} (hdistinct : (l.map (·.id)).Nodup)
    (q : Query) :
    ∃ listing : List Deployment,
      listing.Perm (l.filter q.accepts) ∧ listing.Pairwise Deployment.ListedBefore ∧
      (∀ other : List Deployment, other.Perm (l.filter q.accepts) →
        other.Pairwise Deployment.ListedBefore → other = listing) ∧
      (∀ skip, ({ q with skip, limit := none } : Query).apply l = listing.drop skip) ∧
      (∀ skip limit, ({ q with skip, limit := some limit } : Query).apply l
        = (listing.drop skip).take limit) ∧
      (∀ l' : List Deployment, l'.Perm l → q.apply l' = q.apply l) ∧
      ∀ k, 0 < k →
        let page (i : Nat) : List Deployment :=
          ({ q with skip := i * k, limit := some k } : Query).apply l
        ∃ n, (∀ i < n, page i ≠ []) ∧ page n = [] ∧ n * k < l.length + k ∧
          (List.range n).flatMap page = ({ q with skip := 0, limit := none } : Query).apply l := by
  have hperm := q.perm_listing l
  have hlisted := q.listed_listing hdistinct
  refine ⟨q.listing l, hperm, hlisted, fun other hother hlisted' => ?_,
    fun _ => rfl, fun _ _ => rfl,
    fun l' hl' => q.apply_eq_of_listing_eq (q.listing_perm hdistinct hl'), fun k hk => ?_⟩
  · exact Deployment.eq_of_listed (hother.trans hperm.symm) hlisted' hlisted
  · intro page
    have hpage (i : Nat) : page i = ((q.listing l).drop (i * k)).take k := rfl
    have hcount : (q.listing l).length ≤ l.length :=
      Nat.le_trans (Nat.le_of_eq hperm.length_eq) (List.length_filter_le _ _)
    -- Up to the first empty page all are full, so together they are the listing.
    obtain ⟨n, hfull, hend, hnear⟩ := exists_first_empty_page (q.listing l) hk
    refine ⟨n, fun i hi => by rw [hpage]; exact hfull i hi, ?_, by omega, ?_⟩
    · rw [hpage, List.drop_eq_nil_of_le hend, List.take_nil]
    · calc (List.range n).flatMap page
          = (List.range n).flatMap fun i => ((q.listing l).drop (i * k)).take k := by
            rw [funext hpage]
        _ = (q.listing l).take (n * k) := flatMap_pages _ _ _
        _ = q.listing l := List.take_of_length_le hend

/-- Three deployments, two of them created at one instant that is shown in different offsets. -/
def sampleListing : List Deployment :=
  [{ id := "b", plan := { name := "spring", artifactName := "base" }, created := ⟨5, 0⟩ },
    { id := "a", plan := { name := "spring", artifactName := "base" }, created := ⟨5, 3600⟩ },
    { id := "c", plan := { name := "summer", artifactName := "base" }, created := ⟨9, -3600⟩ }]

/-- Pages of two: the latest one with the first of those created at one instant, then the other. -/
theorem Query.pages_partition_sample :
    (sampleListing.map (·.id)).Nodup ∧
    (({ limit := some 2 } : Query).apply sampleListing).map (·.id) = ["c", "a"] ∧
    (({ skip := 2, limit := some 2 } : Query).apply sampleListing).map (·.id) = ["b"] ∧
    ({ limit := some 2 } : Query).apply sampleListing.reverse
      = ({ limit := some 2 } : Query).apply sampleListing := by
  have hdistinct : (sampleListing.map (·.id)).Nodup := by decide
  obtain ⟨listing, -, -, hunique, -, hpage, hperm, -⟩ :=
    pages_partition hdistinct { limit := some 2 }
  have hlisting := hunique [sampleListing[2], sampleListing[1], sampleListing[0]] (by decide)
    (by unfold Deployment.ListedBefore; decide)
  subst hlisting
  exact ⟨hdistinct, by rw [hpage 0 2]; rfl, by rw [hpage 2 2]; rfl,
    hperm _ sampleListing.reverse_perm⟩

end Fleet
