/-!
# `Fleet.Table.Basic`: finite maps in key order

A `Table` maps keys to values and lists its entries in ascending order of keys. The order is
part of the type, so two tables with the same look-ups are equal. What each operation does to
look-ups is in `Fleet.Table.Lemmas`.
-/

set_option autoImplicit false

namespace Fleet

/-- A strict order in which any two different keys are comparable. -/
class TableKey (κ : Type) where
  lt : κ → κ → Prop
  decide (a b : κ) : Decidable (lt a b)
  irrefl (a : κ) : ¬ lt a a
  trans {a b c : κ} : lt a b → lt b c → lt a c
  total (a b : κ) : lt a b ∨ a = b ∨ lt b a

namespace TableKey

instance {κ : Type} [TableKey κ] (a b : κ) : Decidable (lt a b) := TableKey.decide a b

/-- Of two keys, only one can stand before the other. -/
theorem lt_asymm {κ : Type} [TableKey κ] {a b : κ} (h : lt a b) : ¬ lt b a :=
  fun h' => irrefl a (trans h h')

/-- A key does not stand before itself. -/
theorem ne_of_lt {κ : Type} [TableKey κ] {a b : κ} (h : lt a b) : a ≠ b :=
  fun e => irrefl a (e ▸ h)

/-- Two keys of which neither stands before the other are one key. -/
theorem eq_of_not_lt {κ : Type} [TableKey κ] {a b : κ} (h : ¬ lt a b) (h' : ¬ lt b a) : a = b :=
  ((total a b).resolve_left h).resolve_right h'

end TableKey

instance : TableKey String where
  lt a b := a < b
  decide a b := inferInstance
  irrefl := String.lt_irrefl
  trans := String.lt_trans
  total a b := by
    by_cases h : a < b
    · exact .inl h
    by_cases h' : b < a
    · exact .inr (.inr h')
    exact .inr (.inl (String.le_antisymm (String.not_lt.1 h') (String.not_lt.1 h)))

/-- Pairs are compared by their first parts, and by their second parts if those are equal. -/
instance {α β : Type} [DecidableEq α] [TableKey α] [TableKey β] : TableKey (α × β) where
  lt a b := TableKey.lt a.1 b.1 ∨ (a.1 = b.1 ∧ TableKey.lt a.2 b.2)
  decide a b := inferInstance
  irrefl a h := h.elim (TableKey.irrefl _) (fun h => TableKey.irrefl _ h.2)
  trans := by
    rintro ⟨a, a'⟩ ⟨b, b'⟩ ⟨c, c'⟩ h₁ h₂
    dsimp only at h₁ h₂ ⊢
    rcases h₁ with h₁ | ⟨rfl, h₁⟩ <;> rcases h₂ with h₂ | ⟨rfl, h₂⟩
    · exact .inl (TableKey.trans h₁ h₂)
    · exact .inl h₁
    · exact .inl h₂
    · exact .inr ⟨rfl, TableKey.trans h₁ h₂⟩
  total := by
    rintro ⟨a, a'⟩ ⟨b, b'⟩
    rcases TableKey.total a b with h | rfl | h
    · exact .inl (.inl h)
    · rcases TableKey.total a' b' with h | rfl | h
      · exact .inl (.inr ⟨rfl, h⟩)
      · exact .inr (.inl rfl)
      · exact .inr (.inr (.inr ⟨rfl, h⟩))
    · exact .inr (.inr (.inl h))

/-- A finite map whose entries stand in ascending order of keys. -/
structure Table (κ α : Type) [TableKey κ] where
  entries : List (κ × α)
  ordered : entries.Pairwise fun a b => TableKey.lt a.1 b.1

namespace Table

variable {κ α β : Type} [TableKey κ]

instance [DecidableEq κ] [DecidableEq α] : DecidableEq (Table κ α) := fun a b =>
  decidable_of_iff (a.entries = b.entries) (by cases a; cases b; simp)

def empty : Table κ α := ⟨[], .nil⟩

instance : EmptyCollection (Table κ α) := ⟨empty⟩

instance : Inhabited (Table κ α) := ⟨empty⟩

/-- The values in ascending order of their keys. -/
def values (t : Table κ α) : List α := t.entries.map (·.2)

def get? [DecidableEq κ] (t : Table κ α) (k : κ) : Option α :=
  (t.entries.find? fun e => e.1 = k).map (·.2)

def contains [DecidableEq κ] (t : Table κ α) (k : κ) : Bool := (t.get? k).isSome

/-- Puts an entry before the first one with a greater key and in place of one with its key. -/
def insertEntry (k : κ) (v : α) : List (κ × α) → List (κ × α)
  | [] => [(k, v)]
  | e :: rest =>
    if TableKey.lt k e.1 then (k, v) :: e :: rest
    else if TableKey.lt e.1 k then e :: insertEntry k v rest
    else (k, v) :: rest

/-- An entry of the list after an insertion is the new one or an old one. -/
theorem mem_insertEntry {k : κ} {v : α} {e : κ × α} {l : List (κ × α)}
    (h : e ∈ insertEntry k v l) : e = (k, v) ∨ e ∈ l := by
  induction l with
  | nil => simpa [insertEntry] using h
  | cons a rest ih =>
    simp only [insertEntry] at h
    split at h
    · simpa using h
    · split at h
      · rcases List.mem_cons.1 h with h | h
        · exact .inr (by simp [h])
        · exact (ih h).imp id (fun h => by simp [h])
      · rcases List.mem_cons.1 h with h | h
        · exact .inl h
        · exact .inr (by simp [h])

/-- An insertion keeps the keys ascending, so a table stays one. -/
theorem ordered_insertEntry (k : κ) (v : α) {l : List (κ × α)}
    (h : l.Pairwise fun a b => TableKey.lt a.1 b.1) :
    (insertEntry k v l).Pairwise fun a b => TableKey.lt a.1 b.1 := by
  induction l with
  | nil => simp [insertEntry]
  | cons a rest ih =>
    obtain ⟨ha, hrest⟩ := List.pairwise_cons.1 h
    simp only [insertEntry]
    split
    · next hlt =>
      refine List.pairwise_cons.2 ⟨fun b hb => ?_, h⟩
      rcases List.mem_cons.1 hb with rfl | hb
      · exact hlt
      · exact TableKey.trans hlt (ha b hb)
    · next hge =>
      split
      · next hgt =>
        refine List.pairwise_cons.2 ⟨fun b hb => ?_, ih hrest⟩
        rcases mem_insertEntry hb with rfl | hb
        · exact hgt
        · exact ha b hb
      · next hle =>
        -- Neither before nor behind, so the key is there already.
        have e : a.1 = k := TableKey.eq_of_not_lt hle hge
        exact List.pairwise_cons.2 ⟨fun b hb => e ▸ ha b hb, hrest⟩

/-- Gives a key a value, in place of the one it has. -/
def insert (t : Table κ α) (k : κ) (v : α) : Table κ α :=
  ⟨insertEntry k v t.entries, ordered_insertEntry k v t.ordered⟩

def erase [DecidableEq κ] (t : Table κ α) (k : κ) : Table κ α :=
  ⟨t.entries.filter (·.1 ≠ k), t.ordered.sublist List.filter_sublist⟩

/-- Changes every value, keeping the keys. -/
def mapValues (t : Table κ α) (f : α → β) : Table κ β :=
  ⟨t.entries.map fun e => (e.1, f e.2), t.ordered.map _ fun _ _ h => h⟩

/-- Replaces each value by an image of its key and itself. -/
def mapEntries (t : Table κ α) (f : κ → α → β) : Table κ β :=
  ⟨t.entries.map fun e => (e.1, f e.1 e.2), t.ordered.map _ fun _ _ h => h⟩

/-- Changes the value of a key that has one. -/
def modify [DecidableEq κ] (t : Table κ α) (k : κ) (f : α → α) : Table κ α :=
  match t.get? k with
  | some v => t.insert k (f v)
  | none => t

end Table

end Fleet
