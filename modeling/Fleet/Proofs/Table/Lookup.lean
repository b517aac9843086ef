import Fleet.Table.Lemmas
import Mathlib.Data.List.Nodup

/-!
# `Fleet.Proofs.Table.Lookup`: a table is its look-ups

The entries of a table are the keys it finds with what it finds there
(`mem_entries_iff`), and each key occurs once. Two tables that find the same are
therefore the same list in the same order (`ext_get?`).

Writing to a key that is taken replaces one entry where it stands
(`entries_insert_of_get?`). Writing to a free key adds one entry somewhere
(`perm_insert_of_get?_eq_none`). Sums and counts over the values of a table follow
from these two.
-/

set_option autoImplicit false

namespace Fleet.Table

variable {κ α β : Type} [TableKey κ]

/-- A table has at most one entry for a key, because its keys ascend. -/
theorem nodup_keys (t : Table κ α) : (t.entries.map (·.1)).Nodup := by
  rw [List.Nodup, List.pairwise_map]
  exact t.ordered.imp TableKey.ne_of_lt

/-- Two entries with one key are one entry. -/
theorem entry_unique (t : Table κ α) {e e' : κ × α} (he : e ∈ t.entries) (he' : e' ∈ t.entries)
    (hk : e.1 = e'.1) : e = e' :=
  List.inj_on_of_nodup_map t.nodup_keys he he' hk

/-- Changing all values of a table changes the list of values one by one, in the same order. -/
theorem values_mapValues (t : Table κ α) (f : α → β) :
    (t.mapValues f).values = t.values.map f := by
  rw [values, values, mapValues, List.map_map, List.map_map]
  rfl

variable [DecidableEq κ]

/-- What is found under a key stands among the entries. -/
theorem mem_entries_of_get? {t : Table κ α} {k : κ} {v : α} (h : t.get? k = some v) :
    (k, v) ∈ t.entries := by
  obtain ⟨e, hfind, rfl⟩ := Option.map_eq_some_iff.1 h
  have hk : e.1 = k := by simpa using List.find?_some hfind
  subst hk
  exact List.mem_of_find?_eq_some hfind

/-- An entry is found under its key: no other entry has that key and hides it. -/
theorem get?_of_mem_entries {t : Table κ α} {k : κ} {v : α} (h : (k, v) ∈ t.entries) :
    t.get? k = some v := by
  cases hget : t.get? k with
  | none =>
    rw [get?, Option.map_eq_none_iff, List.find?_eq_none] at hget
    exact absurd (decide_eq_true rfl) (hget _ h)
  | some w =>
    obtain ⟨-, rfl⟩ := Prod.mk.inj (t.entry_unique h (mem_entries_of_get? hget) rfl)
    rfl

/-- The entries of a table are just what is found under their keys. -/
theorem mem_entries_iff {t : Table κ α} {k : κ} {v : α} :
    (k, v) ∈ t.entries ↔ t.get? k = some v :=
  ⟨get?_of_mem_entries, mem_entries_of_get?⟩

/-- The values of a table are just what is found under some key. -/
theorem mem_values_iff {t : Table κ α} {v : α} : v ∈ t.values ↔ ∃ k, t.get? k = some v := by
  constructor
  · intro h
    obtain ⟨⟨k, w⟩, he, rfl⟩ := List.mem_map.1 h
    exact ⟨k, get?_of_mem_entries he⟩
  · rintro ⟨k, h⟩
    exact List.mem_map.2 ⟨(k, v), mem_entries_of_get? h, rfl⟩

/-- A table holds a key exactly if something is found under it. -/
theorem contains_iff {t : Table κ α} {k : κ} : t.contains k = true ↔ ∃ v, t.get? k = some v :=
  Option.isSome_iff_exists

/-- A table lacks a key exactly if nothing is found under it. -/
theorem contains_eq_false_iff {t : Table κ α} {k : κ} :
    t.contains k = false ↔ t.get? k = none := by
  rw [contains, Option.isSome_eq_false_iff, Option.isNone_iff_eq_none]

/-- After an insertion the keys are the new one and the old ones. -/
theorem contains_insert (t : Table κ α) (k k' : κ) (v : α) :
    (t.insert k v).contains k' = (decide (k = k') || t.contains k') := by
  rw [contains, get?_insert]
  by_cases h : k = k' <;> simp [h, contains]

/-! ### Tables with the same look-ups -/

/-- Tables that find the same are the same: both lists hold the same entries, and there is
one ascending order for them. -/
theorem ext_get? {t t' : Table κ α} (h : ∀ k, t.get? k = t'.get? k) : t = t' := by
  have hmem (e : κ × α) : e ∈ t.entries ↔ e ∈ t'.entries := by
    rw [mem_entries_iff (k := e.1) (v := e.2), mem_entries_iff (k := e.1) (v := e.2), h]
  have hnodup (t : Table κ α) : t.entries.Nodup :=
    t.ordered.imp fun hab he => TableKey.ne_of_lt hab (congrArg Prod.fst he)
  -- Two ascending lists of the same entries are one.
  have hperm : t.entries.Perm t'.entries :=
    (List.perm_ext_iff_of_nodup (hnodup t) (hnodup t')).2 hmem
  have hentries : t.entries = t'.entries :=
    hperm.eq_of_pairwise (fun _ _ _ _ hab hba => absurd hba (TableKey.lt_asymm hab))
      t.ordered t'.ordered
  cases t
  cases t'
  cases hentries
  rfl

/-- Writing to several keys, where writes to one key write one value. -/
theorem get?_foldl_insert {γ : Type} {key : γ → κ} {value : γ → α} {f : κ → Option α}
    {l : List γ} (hl : ∀ x ∈ l, f (key x) = some (value x)) (start : Table κ α) (k : κ) :
    (l.foldl (fun t x => t.insert (key x) (value x)) start).get? k
      = if k ∈ l.map key then f k else start.get? k := by
  induction l generalizing start with
  | nil => rfl
  | cons x rest ih =>
    have hx : f (key x) = some (value x) := hl x List.mem_cons_self
    rw [List.foldl_cons, ih (fun y hy => hl y (List.mem_cons_of_mem _ hy)), get?_insert,
      List.map_cons]
    by_cases hrest : k ∈ rest.map key
    · rw [if_pos hrest, if_pos (List.mem_cons_of_mem _ hrest)]
    · rw [if_neg hrest]
      by_cases hk : key x = k
      · rw [if_pos hk, if_pos (by rw [hk]; exact List.mem_cons_self), ← hk, hx]
      · have hmem : k ∉ key x :: rest.map key := by
          rw [List.mem_cons, not_or]
          exact ⟨fun he => hk he.symm, hrest⟩
        rw [if_neg hk, if_neg hmem]

/-- A change of a value that is there is the insertion of the changed value. -/
theorem modify_of_get? {t : Table κ α} {k : κ} {v : α} (f : α → α) (h : t.get? k = some v) :
    t.modify k f = t.insert k (f v) := by
  rw [modify, h]

/-- What is found after a change of one value: the changed value under its key, if there was one,
and the same as before under all others. -/
theorem get?_modify (t : Table κ α) (k k' : κ) (f : α → α) :
    (t.modify k f).get? k' = if k = k' then (t.get? k').map f else t.get? k' := by
  by_cases hk : k = k'
  · subst hk
    rw [if_pos rfl]
    cases h : t.get? k with
    | none =>
      rw [modify, h]
      exact h
    | some v => rw [modify_of_get? f h, get?_insert, if_pos rfl, Option.map_some]
  · rw [if_neg hk, modify]
    split
    · rw [get?_insert, if_neg hk]
    · rfl

/-- Writes to two keys may be made in either order. -/
theorem insert_comm {t : Table κ α} {k k' : κ} (h : k ≠ k') (v v' : α) :
    (t.insert k v).insert k' v' = (t.insert k' v').insert k v := by
  refine ext_get? fun i => ?_
  simp only [get?_insert]
  by_cases hk : k = i
  · rw [if_pos hk, if_pos hk, if_neg fun hk' => h (hk.trans hk'.symm)]
  · rw [if_neg hk, if_neg hk]

/-! ### Where a write lands -/

/-- A write to a taken key replaces the entry where it stands. -/
theorem entries_insert_of_get? {t : Table κ α} {k : κ} {v : α} (h : t.get? k = some v) :
    ∃ before after, t.entries = before ++ (k, v) :: after ∧
      ∀ w, (t.insert k w).entries = before ++ (k, w) :: after := by
  obtain ⟨before, after, hsplit⟩ := List.append_of_mem (mem_entries_of_get? h)
  refine ⟨before, after, hsplit, fun w => ?_⟩
  have hordered := t.ordered
  rw [hsplit, List.pairwise_append] at hordered
  have hbefore : ∀ e ∈ before, TableKey.lt e.1 k := fun e he =>
    hordered.2.2 e he (k, v) List.mem_cons_self
  show insertEntry k w t.entries = _
  rw [hsplit]
  clear hsplit hordered
  induction before with
  | nil =>
    show insertEntry k w ((k, v) :: after) = (k, w) :: after
    rw [insertEntry, if_neg (TableKey.irrefl k), if_neg (TableKey.irrefl k)]
  | cons e rest ih =>
    have hlt : TableKey.lt e.1 k := hbefore e List.mem_cons_self
    show insertEntry k w (e :: (rest ++ (k, v) :: after)) = e :: (rest ++ (k, w) :: after)
    rw [insertEntry, if_neg (TableKey.lt_asymm hlt), if_pos hlt,
      ih fun e he => hbefore e (List.mem_cons_of_mem _ he)]

/-- A write to a free key adds one entry. -/
theorem perm_insert_of_get?_eq_none {t : Table κ α} {k : κ} (v : α) (h : t.get? k = none) :
    (t.insert k v).entries.Perm ((k, v) :: t.entries) := by
  have hfree : ∀ e ∈ t.entries, e.1 ≠ k := by
    rintro ⟨k', w⟩ he rfl
    rw [get?_of_mem_entries he] at h
    cases h
  show (insertEntry k v t.entries).Perm _
  generalize t.entries = l at hfree
  induction l with
  | nil => exact .refl _
  | cons e rest ih =>
    rw [insertEntry]
    split
    · exact .refl _
    · next hge =>
      split
      · exact ((ih fun e he => hfree e (List.mem_cons_of_mem _ he)).cons e).trans
          (List.Perm.swap _ _ _)
      · next hle =>
        exact absurd (TableKey.eq_of_not_lt hle hge) (hfree e List.mem_cons_self)

/-- Under a fresh key, one value more is there, and the order of the keys decides where. -/
theorem perm_values_insert_of_get?_eq_none {t : Table κ α} {k : κ} (v : α)
    (h : t.get? k = none) : (t.insert k v).values.Perm (v :: t.values) :=
  (perm_insert_of_get?_eq_none v h).map Prod.snd

/-- A write to a taken key exchanges one value. -/
theorem values_insert_of_get? {t : Table κ α} {k : κ} {v : α} (h : t.get? k = some v) :
    ∃ before after, t.values = before ++ v :: after ∧
      ∀ w, (t.insert k w).values = before ++ w :: after := by
  obtain ⟨before, after, hsplit, hinsert⟩ := entries_insert_of_get? h
  refine ⟨before.map (·.2), after.map (·.2), ?_, fun w => ?_⟩
  · rw [values, hsplit, List.map_append, List.map_cons]
  · rw [values, hinsert, List.map_append, List.map_cons]

end Fleet.Table
