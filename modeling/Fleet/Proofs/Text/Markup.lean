import Fleet.Text.Markup
import Mathlib.Data.List.TakeWhile

/-!
# `Fleet.Proofs.Text.Markup`: documents are read as they were written

A character that has a name is written by it and read back from it (`unescape_escape`). What is
written so holds no bracket, so the text of an element ends where its closing tag begins, and a
document is read tag by tag and element by element (`marks?_tag`, `marks?_element`). With these a
document of known elements is read by rewriting along its text.
-/

set_option autoImplicit false

namespace Fleet.Text.Markup

/-! ### Texts -/

/-- All names begin with the same character, so nothing is named where another one stands. -/
theorem named?_of_ne {c : Char} (hc : c ≠ '&') (rest : List Char) : named? (c :: rest) = none := by
  simp [named?, namedChars, dropPrefix?, hc.symm]

/-- A name is read as the character that it stands for, whatever follows. No name is the beginning
of another one. -/
theorem named?_of_mem {c : Char} {name : String} (h : (c, name) ∈ namedChars) (rest : List Char) :
    named? (name.toList ++ rest) = some (c, name.length) := by
  simp only [namedChars, List.mem_cons, Prod.mk.injEq, List.not_mem_nil, or_false] at h
  rcases h with ⟨rfl, rfl⟩ | ⟨rfl, rfl⟩ | ⟨rfl, rfl⟩ | ⟨rfl, rfl⟩ | ⟨rfl, rfl⟩ | ⟨rfl, rfl⟩ |
    ⟨rfl, rfl⟩ | ⟨rfl, rfl⟩ | ⟨rfl, rfl⟩ <;>
  simp [named?, namedChars, dropPrefix?]

/-- A character other than the ampersand stands for itself. -/
theorem unescape_cons_of_ne {c : Char} (hc : c ≠ '&') (rest : List Char) :
    unescape (c :: rest) = c :: unescape rest := by
  rw [unescape, named?_of_ne hc]

/-- A named character is read for its name, and reading goes on behind the name. -/
theorem unescape_append_of_mem {c : Char} {name : String} (h : (c, name) ∈ namedChars)
    (rest : List Char) : unescape (name.toList ++ rest) = c :: unescape rest := by
  have hread := named?_of_mem h rest
  cases hname : name.toList with
  | nil =>
    -- There is no empty name.
    simp only [namedChars, List.mem_cons, Prod.mk.injEq, List.not_mem_nil, or_false] at h
    rcases h with ⟨-, rfl⟩ | ⟨-, rfl⟩ | ⟨-, rfl⟩ | ⟨-, rfl⟩ | ⟨-, rfl⟩ | ⟨-, rfl⟩ | ⟨-, rfl⟩ |
      ⟨-, rfl⟩ | ⟨-, rfl⟩ <;> simp at hname
  | cons d name' =>
    have hlength : name.length - 1 = name'.length := by
      rw [← String.length_toList, hname, List.length_cons, Nat.add_sub_cancel]
    rw [hname] at hread
    rw [List.cons_append] at hread ⊢
    rw [unescape, hread]
    dsimp only
    rw [hlength, List.drop_left]

/-- The way a character is written: by its name, if it has one. -/
def written (c : Char) : List Char := ((namedChars.lookup c).map String.toList).getD [c]

/-- A text is escaped character by character. -/
theorem toList_escape (s : String) : (escape s).toList = s.toList.flatMap written := by
  rw [escape, String.toList_ofList]
  rfl

/-- A character is read back, whichever way it was written. -/
theorem unescape_written (c : Char) (rest : List Char) :
    unescape (written c ++ rest) = c :: unescape rest := by
  rw [written]
  cases hname : namedChars.lookup c with
  | some name =>
    have hmem : (c, name) ∈ namedChars := by
      obtain ⟨l, r, hl, -⟩ := List.lookup_eq_some_iff.1 hname
      rw [hl]
      exact List.mem_append_right _ List.mem_cons_self
    exact unescape_append_of_mem hmem rest
  | none =>
    refine unescape_cons_of_ne (fun hc => ?_) rest
    subst hc
    exact absurd hname (by decide)

/-- Writing a text and reading it gives the same text. -/
theorem unescape_escape (s : String) : unescape (escape s).toList = s.toList := by
  rw [toList_escape]
  induction s.toList with
  | nil => rw [List.flatMap_nil, unescape]
  | cons c cs ih => rw [List.flatMap_cons, unescape_written, ih]

/-- A text without characters that have a name is written as it is. -/
theorem escape_eq_self {s : String} (h : ∀ c ∈ s.toList, namedChars.lookup c = none) :
    escape s = s := by
  rw [← String.toList_inj, toList_escape]
  revert h
  induction s.toList with
  | nil => exact fun _ => rfl
  | cons c cs ih =>
    intro h
    rw [List.flatMap_cons, written, h c List.mem_cons_self,
      ih fun d hd => h d (List.mem_cons_of_mem c hd)]
    rfl

/-- No bracket is written as it is. -/
theorem ne_of_mem_escape {s : String} {c : Char} (h : c ∈ (escape s).toList) : c ≠ '<' := by
  rintro rfl
  rw [toList_escape] at h
  obtain ⟨d, -, hd⟩ := List.mem_flatMap.1 h
  rw [written] at hd
  cases hname : namedChars.lookup d with
  | none =>
    rw [hname] at hd
    obtain rfl : '<' = d := by simpa using hd
    exact absurd hname (by decide)
  | some name =>
    rw [hname] at hd
    obtain ⟨l, r, hl, -⟩ := List.lookup_eq_some_iff.1 hname
    have hmem : (d, name) ∈ namedChars := by
      rw [hl]
      exact List.mem_append_right _ List.mem_cons_self
    have hnames : ∀ p ∈ namedChars, '<' ∉ p.2.toList := by decide
    exact hnames _ hmem hd

/-! ### Marks -/

variable {inside rest : List Char}

/-- What stands before the first occurrence of a character is read up to it. -/
theorem takeWhile_append_of_not_mem {c : Char} (h : c ∉ inside) :
    (inside ++ c :: rest).takeWhile (· ≠ c) = inside := by
  rw [List.takeWhile_append_of_pos fun d hd => by simpa using fun hc : d = c => h (hc ▸ hd)]
  simp

/-- Behind what stands before the first occurrence of a character, that occurrence is left. -/
theorem dropWhile_append_of_not_mem {c : Char} (h : c ∉ inside) :
    (inside ++ c :: rest).dropWhile (· ≠ c) = c :: rest := by
  rw [List.dropWhile_append_of_pos fun d hd => by simpa using fun hc : d = c => h (hc ▸ hd)]
  simp

/-- A tag leaves its marks in front of those of what follows. It ends at the first bracket. -/
theorem marks?_tag {marks : List Mark} (hinside : '>' ∉ inside)
    (hmarks : tagMarks? inside = some marks) (rest : List Char) :
    marks? ('<' :: (inside ++ '>' :: rest)) = (marks? rest).map (marks ++ ·) := by
  rw [marks?, if_pos rfl, takeWhile_append_of_not_mem hinside, hmarks]
  split
  · next hends =>
    rw [dropWhile_append_of_not_mem hinside] at hends
    cases hends
  · next after hends =>
    rw [dropWhile_append_of_not_mem hinside] at hends
    cases hends
    rfl

/-- The marks of a text that stands in an element. An empty one leaves none. -/
def textMarks (s : String) : List Mark := if s = "" then [] else [.text s]

/-- A text in front of a tag is read as it was written. -/
theorem marks?_text (s : String) (rest : List Char) :
    marks? ((escape s).toList ++ '<' :: rest) = (marks? ('<' :: rest)).map (textMarks s ++ ·) := by
  cases hs : (escape s).toList with
  | nil =>
    have hempty : s = "" := by
      rw [← String.toList_inj, ← unescape_escape s, hs, unescape]
      rfl
    simp [textMarks, hempty]
  | cons c cs =>
    have hbracket (d : Char) (hd : d ∈ c :: cs) : d ≠ '<' := ne_of_mem_escape (hs ▸ hd)
    have hcs : '<' ∉ cs := fun hmem => hbracket '<' (List.mem_cons_of_mem c hmem) rfl
    have hsome : s ≠ "" := by
      rintro rfl
      simp [escape] at hs
    rw [List.cons_append, marks?, if_neg (hbracket c List.mem_cons_self),
      takeWhile_append_of_not_mem hcs, dropWhile_append_of_not_mem hcs, ← hs, unescape_escape,
      String.ofList_toList, textMarks, if_neg hsome]
    rfl

/-- The marks of an element that holds a text. -/
def elementMarks (name s : String) : List Mark :=
  .opening name :: textMarks s ++ [.closing name]

/-- A document is what opens its root, what stands in there and what closes it. -/
theorem toList_append_append (front middle back : String) :
    (front ++ middle ++ back).toList = front.toList ++ (middle.toList ++ back.toList) := by
  rw [String.toList_append, String.toList_append, List.append_assoc]

/-- An element that holds a text is read as it was written. -/
theorem marks?_element {name : String} {tag : List Char} (htag : '>' ∉ tag)
    (hopening : tagMarks? tag = some [.opening name])
    (hclosing : tagMarks? ('/' :: tag) = some [.closing name]) (s : String) (rest : List Char) :
    marks? ('<' :: (tag ++ '>' :: ((escape s).toList ++ '<' :: ('/' :: tag ++ '>' :: rest))))
      = (marks? rest).map (elementMarks name s ++ ·) := by
  have hslash : '>' ∉ '/' :: tag := by simpa using htag
  rw [marks?_tag htag hopening, marks?_text, marks?_tag hslash hclosing,
    Option.map_map, Option.map_map]
  congr 1
  funext marks
  simp [elementMarks]

end Fleet.Text.Markup
