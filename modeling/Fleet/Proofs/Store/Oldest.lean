import Fleet.Store.Memory

/-!
# `Fleet.Proofs.Store.Oldest`: the record that was created first

`createdBefore` orders records by creation, deployment names deciding between equal times. The
oldest record of a list has no other before it (`not_createdBefore_oldest`). Where no two
records have the same deployment there is one such record, so any way of sorting puts it
first (`oldest_eq_head?`).
-/

set_option autoImplicit false

namespace Fleet

/-- A record is older by its moment of creation, and the name of its deployment decides between
equal moments. -/
theorem createdBefore_iff {a b : DeviceRecord} :
    createdBefore a b = true ↔ a.created.nanos < b.created.nanos ∨
      (a.created.nanos = b.created.nanos ∧ a.deploymentId < b.deploymentId) := by
  rw [createdBefore, Bool.or_eq_true, Bool.and_eq_true, decide_eq_true_eq, decide_eq_true_eq,
    decide_eq_true_eq]

/-- A record is not older if it was created later or, at the same moment, in a deployment whose name
is not smaller. -/
theorem createdBefore_eq_false_iff {a b : DeviceRecord} :
    createdBefore a b = false ↔ b.created.nanos < a.created.nanos ∨
      (b.created.nanos = a.created.nanos ∧ b.deploymentId ≤ a.deploymentId) := by
  rw [← Bool.not_eq_true, createdBefore_iff, ← String.not_lt]
  constructor
  · intro h
    by_cases hlt : b.created.nanos < a.created.nanos
    · exact .inl hlt
    · have heq : b.created.nanos = a.created.nanos := by omega
      exact .inr ⟨heq, fun hid => h (.inr ⟨heq.symm, hid⟩)⟩
  · rintro (hlt | ⟨heq, hid⟩) (hlt' | ⟨heq', hid'⟩)
    · omega
    · omega
    · omega
    · exact hid hid'

/-- Of two records, only one can be older. -/
theorem createdBefore_asymm {a b : DeviceRecord} (h : createdBefore a b = true) :
    createdBefore b a = false := by
  rw [createdBefore_eq_false_iff]
  rcases createdBefore_iff.1 h with hlt | ⟨heq, hid⟩
  · exact .inl hlt
  · exact .inr ⟨heq, String.not_lt.1 fun hid' => String.lt_irrefl _ (String.lt_trans hid hid')⟩

/-- Not to be created before is transitive. -/
theorem createdBefore_eq_false_trans {a b c : DeviceRecord} (hab : createdBefore b a = false)
    (hbc : createdBefore c b = false) : createdBefore c a = false := by
  rw [createdBefore_eq_false_iff] at *
  rcases hab with hab | ⟨hab, hid⟩ <;> rcases hbc with hbc | ⟨hbc, hid'⟩
  · exact .inl (by omega)
  · exact .inl (by omega)
  · exact .inl (by omega)
  · exact .inr ⟨hab.trans hbc, String.le_trans hid hid'⟩

/-- Two records of which neither is before the other have one deployment. -/
theorem deploymentId_eq_of_createdBefore {a b : DeviceRecord} (hab : createdBefore a b = false)
    (hba : createdBefore b a = false) : a.deploymentId = b.deploymentId := by
  rw [createdBefore_eq_false_iff] at hab hba
  rcases hab with hab | ⟨heq, hid⟩ <;> rcases hba with hba | ⟨heq', hid'⟩
  · omega
  · omega
  · omega
  · exact String.le_antisymm hid' hid

/-! ### The oldest record -/

/-- The oldest of some records is one of them. -/
theorem mem_of_oldest {l : List DeviceRecord} {r : DeviceRecord} (h : oldest l = some r) :
    r ∈ l := by
  induction l generalizing r with
  | nil => cases h
  | cons s rest ih =>
    rw [oldest] at h
    cases hrest : oldest rest with
    | none =>
      rw [hrest] at h
      cases h
      exact List.mem_cons_self
    | some t =>
      rw [hrest] at h
      dsimp only at h
      split at h
      · cases h
        exact List.mem_cons_of_mem _ (ih hrest)
      · cases h
        exact List.mem_cons_self

/-- There is an oldest record unless there is none at all. -/
theorem oldest_eq_none_iff {l : List DeviceRecord} : oldest l = none ↔ l = [] := by
  constructor
  · intro h
    cases l with
    | nil => rfl
    | cons r rest =>
      rw [oldest] at h
      split at h
      · cases h
      · split at h <;> cases h
  · rintro rfl
    rfl

/-- No record is before the oldest one. -/
theorem not_createdBefore_oldest {l : List DeviceRecord} {r : DeviceRecord}
    (h : oldest l = some r) : ∀ s ∈ l, createdBefore s r = false := by
  -- The oldest record of a list is its first one or the oldest one of the rest.
  induction l generalizing r with
  | nil => cases h
  | cons first rest ih =>
    have hself (a : DeviceRecord) : createdBefore a a = false :=
      createdBefore_eq_false_iff.2 (.inr ⟨rfl, String.le_refl _⟩)
    rw [oldest] at h
    intro s hs
    cases hrest : oldest rest with
    | none =>
      rw [hrest] at h
      cases h
      rw [oldest_eq_none_iff.1 hrest, List.mem_singleton] at hs
      rw [hs]
      exact hself first
    | some t =>
      rw [hrest] at h
      dsimp only at h
      split at h
      · next hbefore =>
        cases h
        rcases List.mem_cons.1 hs with rfl | hs
        · exact createdBefore_asymm hbefore
        · exact ih hrest s hs
      · next hafter =>
        cases h
        rcases List.mem_cons.1 hs with rfl | hs
        · exact hself s
        · exact createdBefore_eq_false_trans (Bool.eq_false_iff.2 hafter) (ih hrest s hs)

/-- Where no deployment has two records, sorting puts the oldest record first. -/
theorem oldest_eq_head? {l sorted : List DeviceRecord} (hperm : sorted.Perm l)
    (hsorted : sorted.Pairwise fun a b => createdBefore b a = false)
    (hunique : ∀ a ∈ l, ∀ b ∈ l, a.deploymentId = b.deploymentId → a = b) :
    oldest l = sorted.head? := by
  cases sorted with
  | nil => rw [hperm.symm.eq_nil]; rfl
  | cons first rest =>
    have hfirst : first ∈ l := hperm.mem_iff.1 List.mem_cons_self
    cases hold : oldest l with
    | none =>
      rw [oldest_eq_none_iff.1 hold] at hfirst
      cases hfirst
    | some r =>
      have hr := mem_of_oldest hold
      -- Each of the two is not after the other.
      have hbefore : createdBefore r first = false := by
        rcases List.mem_cons.1 (hperm.mem_iff.2 hr) with rfl | hrest
        · exact not_createdBefore_oldest hold r hr
        · exact (List.pairwise_cons.1 hsorted).1 r hrest
      have hid := deploymentId_eq_of_createdBefore hbefore
        (not_createdBefore_oldest hold first hfirst)
      rw [hunique r hr first hfirst hid, List.head?_cons]

end Fleet
