import Fleet.Proofs.Table.Lookup

/-!
# `Fleet.Proofs.Table.Slice`: the entries that share the first part of their key

A table whose keys are pairs is a table of tables: `slice t a` holds the entries whose keys
start with `a`, under what is left of their keys. Writing to a key changes one slice as a
write to the rest of the key does, and leaves every other slice alone.
-/

set_option autoImplicit false

namespace Fleet.Table

/-! ### Images of tables -/

section

variable {κ α β : Type} [TableKey κ] [DecidableEq κ]

/-- A value may be changed before it is inserted as well as after. -/
theorem mapValues_insert (t : Table κ α) (f : α → β) (k : κ) (v : α) :
    (t.insert k v).mapValues f = (t.mapValues f).insert k (f v) := by
  refine ext_get? fun k' => ?_
  rw [get?_mapValues, get?_insert, get?_insert, get?_mapValues]
  split <;> rfl

/-- It does not matter whether an entry is erased before or after all values are changed. -/
theorem mapValues_erase (t : Table κ α) (f : α → β) (k : κ) :
    (t.erase k).mapValues f = (t.mapValues f).erase k := by
  refine ext_get? fun k' => ?_
  rw [get?_mapValues, get?_erase, get?_erase, get?_mapValues]
  split <;> rfl

/-- A change of values leaves the keys alone. -/
theorem contains_mapValues (t : Table κ α) (f : α → β) (k : κ) :
    (t.mapValues f).contains k = t.contains k := by
  rw [contains, contains, get?_mapValues, Option.isSome_map]

/-- Changing the values that pass a test is writing to them one after the other. -/
theorem mapValues_eq_foldl {t : Table κ α} {key : α → κ}
    (hkey : ∀ {k v}, t.get? k = some v → key v = k) (test : α → Bool) (g : α → α) :
    t.mapValues (fun v => if test v then g v else v)
      = (t.values.filter test).foldl (fun t v => t.insert (key v) (g v)) t := by
  have hl : ∀ v ∈ t.values.filter test, t.get? (key v) = some v := by
    intro v hv
    obtain ⟨k, hk⟩ := mem_values_iff.1 (List.mem_filter.1 hv).1
    rw [hkey hk]
    exact hk
  refine ext_get? fun k => ?_
  have hwrites : ∀ v ∈ t.values.filter test, (t.get? (key v)).map g = some (g v) := by
    intro v hv
    rw [hl v hv, Option.map_some]
  rw [get?_mapValues, get?_foldl_insert (f := fun k => (t.get? k).map g) hwrites]
  cases hget : t.get? k with
  | none => simp only [Option.map_none, ite_self]
  | some v =>
    -- The value at a key is written if and only if it passes the test.
    have hmem : k ∈ (t.values.filter test).map key ↔ test v = true := by
      rw [List.mem_map]
      constructor
      · rintro ⟨w, hw, rfl⟩
        rw [hl w hw] at hget
        cases hget
        exact (List.mem_filter.1 hw).2
      · intro htest
        exact ⟨v, List.mem_filter.2 ⟨mem_values_iff.2 ⟨k, hget⟩, htest⟩, hkey hget⟩
    simp only [hmem, Option.map_some]
    split <;> rfl

end

/-! ### Slices -/

section

variable {α κ β : Type} [TableKey α] [TableKey κ] [DecidableEq α]

/-- The entries whose keys start with `a`, under the rest of their keys. -/
def slice (t : Table (α × κ) β) (a : α) : Table κ β where
  entries := (t.entries.filter (·.1.1 = a)).map fun e => (e.1.2, e.2)
  ordered := by
    rw [List.pairwise_map]
    refine (t.ordered.sublist List.filter_sublist).imp_of_mem ?_
    intro e e' he he' hlt
    have ha : e.1.1 = a := of_decide_eq_true (List.mem_filter.1 he).2
    have ha' : e'.1.1 = a := of_decide_eq_true (List.mem_filter.1 he').2
    -- Equal first parts leave the order to the second ones.
    rcases hlt with hlt | hlt
    · rw [ha, ha'] at hlt
      exact absurd hlt (TableKey.irrefl a)
    · exact hlt.2

/-- What a slice holds stands in the same order in the table. -/
theorem filter_entries_eq (t : Table (α × κ) β) (a : α) :
    t.entries.filter (·.1.1 = a) = (t.slice a).entries.map fun e => ((a, e.1), e.2) := by
  rw [slice, List.map_map]
  refine ((List.map_congr_left ?_).trans (List.map_id _)).symm
  intro e he
  have ha : e.1.1 = a := of_decide_eq_true (List.mem_filter.1 he).2
  exact congrArg (fun a => ((a, e.1.2), e.2)) ha.symm

variable [DecidableEq κ]

/-- In the slice of a first key, what is found under a second key is what the table has under
both. -/
theorem get?_slice (t : Table (α × κ) β) (a : α) (k : κ) :
    (t.slice a).get? k = t.get? (a, k) := by
  cases h : t.get? (a, k) with
  | some v =>
    have hmem : ((a, k), v) ∈ t.entries.filter (·.1.1 = a) :=
      List.mem_filter.2 ⟨mem_entries_of_get? h, decide_eq_true rfl⟩
    exact get?_of_mem_entries (List.mem_map.2 ⟨_, hmem, rfl⟩)
  | none =>
    cases h' : (t.slice a).get? k with
    | none => rfl
    | some v =>
      obtain ⟨e, he, hek⟩ := List.mem_map.1 (mem_entries_of_get? h')
      obtain ⟨hmem, ha⟩ := List.mem_filter.1 he
      obtain ⟨⟨a', k'⟩, v'⟩ := e
      cases of_decide_eq_true ha
      cases hek
      rw [get?_of_mem_entries hmem] at h
      cases h

/-- The slice of a first key holds the second keys that the table has beside it. -/
theorem contains_slice (t : Table (α × κ) β) (a : α) (k : κ) :
    (t.slice a).contains k = t.contains (a, k) := by
  rw [contains, contains, get?_slice]

variable (t : Table (α × κ) β) (a : α) (k : κ)

/-- An insertion shows in the slice of its first key as an insertion under the second key. -/
theorem slice_insert (v : β) : (t.insert (a, k) v).slice a = (t.slice a).insert k v := by
  refine ext_get? fun k' => ?_
  rw [get?_slice, get?_insert, get?_insert, get?_slice]
  simp only [Prod.mk.injEq, true_and]

/-- An insertion does not show in the slices of other first keys. -/
theorem slice_insert_of_ne {a' : α} (h : a ≠ a') (v : β) :
    (t.insert (a, k) v).slice a' = t.slice a' := by
  refine ext_get? fun k' => ?_
  rw [get?_slice, get?_insert, get?_slice, if_neg fun he => h (Prod.mk.inj he).1]

/-- An erased entry shows in the slice of its first key as an erased one under the second key. -/
theorem slice_erase : (t.erase (a, k)).slice a = (t.slice a).erase k := by
  refine ext_get? fun k' => ?_
  rw [get?_slice, get?_erase, get?_erase, get?_slice]
  simp only [Prod.mk.injEq, true_and]

/-- An erased entry does not show in the slices of other first keys. -/
theorem slice_erase_of_ne {a' : α} (h : a ≠ a') : (t.erase (a, k)).slice a' = t.slice a' := by
  refine ext_get? fun k' => ?_
  rw [get?_slice, get?_erase, get?_slice, if_neg fun he => h (Prod.mk.inj he).1]

/-- A changed value shows in the slice of its first key as one that is changed under the second
key. -/
theorem slice_modify (f : β → β) : (t.modify (a, k) f).slice a = (t.slice a).modify k f := by
  rw [modify, modify, get?_slice]
  cases t.get? (a, k) with
  | none => rfl
  | some v => exact slice_insert t a k (f v)

/-- A changed value does not show in the slices of other first keys. -/
theorem slice_modify_of_ne {a' : α} (h : a ≠ a') (f : β → β) :
    (t.modify (a, k) f).slice a' = t.slice a' := by
  rw [modify]
  cases t.get? (a, k) with
  | none => rfl
  | some v => exact slice_insert_of_ne t a k h (f v)

end

end Fleet.Table
