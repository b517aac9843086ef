/-!
# `Fleet.Text.Search`: pieces of a text

Splitting at a separator, joining, and finding one list of characters inside another.
Splitting and joining at one separator undo each other.
-/

set_option autoImplicit false

namespace Fleet.Text

/-- Whether `pat` occurs in `cs` as a run of neighbouring characters. -/
def occursIn (pat : List Char) : List Char → Bool
  | [] => pat.isEmpty
  | c :: cs => pat.isPrefixOf (c :: cs) || occursIn pat cs

/-- The pieces between the separators, at least one: `split sep` of the empty text is one
empty piece. -/
def split (sep : Char) : List Char → List (List Char)
  | [] => [[]]
  | c :: cs =>
    if c = sep then [] :: split sep cs
    else match split sep cs with
      | [] => [[c]]
      | piece :: rest => (c :: piece) :: rest

/-- The pieces of a text between the separators. -/
def splitText (sep : Char) (s : String) : List String :=
  (split sep s.toList).map String.ofList

/-- What remains of `cs` after `pat`, if `cs` starts with it. -/
def dropPrefix? : (pat cs : List Char) → Option (List Char)
  | [], cs => some cs
  | _ :: _, [] => none
  | p :: pat, c :: cs => if p = c then dropPrefix? pat cs else none

/-- A prefix can be dropped exactly from the texts that begin with it. -/
theorem dropPrefix?_eq_some_iff {pat cs rest : List Char} :
    dropPrefix? pat cs = some rest ↔ cs = pat ++ rest := by
  induction pat generalizing cs with
  | nil => rw [dropPrefix?, Option.some.injEq, List.nil_append]
  | cons p pat ih =>
    cases cs with
    | nil => simp [dropPrefix?]
    | cons c cs =>
      rw [dropPrefix?, List.cons_append, List.cons.injEq]
      split
      · next hc => rw [ih, hc, eq_self, true_and]
      · next hc => simp [Ne.symm hc]

/-- The text before the first occurrence of `pat` and the text after it. -/
def splitAround? (pat : List Char) : List Char → Option (List Char × List Char)
  | [] => (dropPrefix? pat []).map fun after => ([], after)
  | c :: cs =>
    match dropPrefix? pat (c :: cs) with
    | some after => some ([], after)
    | none => (splitAround? pat cs).map fun (before, after) => (c :: before, after)

/-- A text that was split around a part is put together again from the pieces and the part. -/
theorem eq_of_splitAround? {pat cs before after : List Char}
    (h : splitAround? pat cs = some (before, after)) : cs = before ++ (pat ++ after) := by
  induction cs generalizing before with
  | nil =>
    obtain ⟨rest, hrest, he⟩ := Option.map_eq_some_iff.1 h
    cases he
    rw [List.nil_append]
    exact dropPrefix?_eq_some_iff.1 hrest
  | cons c cs ih =>
    rw [splitAround?] at h
    split at h
    · next rest hrest =>
      cases h
      rw [List.nil_append]
      exact dropPrefix?_eq_some_iff.1 hrest
    · obtain ⟨⟨front, rest⟩, hcs, he⟩ := Option.map_eq_some_iff.1 h
      cases he
      rw [List.cons_append, ih hcs]

/-- The text before the first occurrence of a character and the text after it. -/
def splitFirst? (sep : Char) : List Char → Option (List Char × List Char)
  | [] => none
  | c :: cs =>
    if c = sep then some ([], cs)
    else (splitFirst? sep cs).map fun (before, after) => (c :: before, after)

/-- The part of a path after its last separator; the whole path without one. -/
def afterLast (sep : Char) (s : String) : String :=
  String.ofList (s.toList.reverse.takeWhile (· ≠ sep)).reverse

end Fleet.Text
