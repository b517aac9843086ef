import Fleet.Text.Blank
import Fleet.Text.Search

/-!
# `Fleet.Text.Markup`: documents of elements

A document is read as a list of marks, the tags of its elements and the texts between them, in
the order in which they stand. Attributes, comments and the declaration leave no mark. Some
characters of a text are written by a name; writing a text and reading it gives the same text.
-/

set_option autoImplicit false

namespace Fleet.Text

/-- What stands next in a document: a tag of an element or a text. -/
inductive Mark where
  | opening (name : String)
  | closing (name : String)
  | text (s : String)
deriving DecidableEq, Repr, Inhabited

namespace Markup

/-- The characters that are written by a name. -/
def namedChars : List (Char × String) :=
  [('&', "&amp;"), ('<', "&lt;"), ('>', "&gt;"), ('"', "&quot;"), ('\x27', "&apos;"),
    ('\r', "&#xD;"), ('\n', "&#xA;"), ('\u0085', "&#x85;"), ('\u2028', "&#x2028;")]

/-- The text with its special characters named. -/
def escape (s : String) : String :=
  String.ofList (s.toList.flatMap fun c => ((namedChars.lookup c).map String.toList).getD [c])

/-- The character that is named at the start of a text, and how long its name is. -/
def named? (cs : List Char) : Option (Char × Nat) :=
  namedChars.findSome? fun (d, name) =>
    (dropPrefix? name.toList cs).map fun _ => (d, name.length)

/-- The text with its named characters replaced. -/
def unescape (cs : List Char) : List Char :=
  match cs with
  | [] => []
  | c :: rest =>
    match named? (c :: rest) with
    | some (d, n) => d :: unescape (rest.drop (n - 1))
    | none => c :: unescape rest
termination_by cs.length
decreasing_by all_goals simp only [List.length_drop, List.length_cons]; omega

/-- The marks of a tag, from what stands between its brackets. An element that is empty may have
a single tag with a slash at its end. -/
def tagMarks? (inside : List Char) : Option (List Mark) :=
  match inside with
  | [] => none
  | c :: rest =>
    if c = '?' || c = '!' then some []
    else if c = '/' then some [.closing (trim (String.ofList rest))]
    else
      let name := String.ofList (inside.takeWhile fun c => !isBlank c && c ≠ '/')
      some (.opening name :: if inside.getLast? = some '/' then [.closing name] else [])

/-- The marks of a document, if each of its tags ends. -/
def marks? (cs : List Char) : Option (List Mark) :=
  match cs with
  | [] => some []
  | c :: rest =>
    if c = '<' then
      match _hends : rest.dropWhile (· ≠ '>') with
      | [] => none
      | _ :: after =>
        match tagMarks? (rest.takeWhile (· ≠ '>')) with
        | none => none
        | some marks => (marks? after).map (marks ++ ·)
    else
      (marks? (rest.dropWhile (· ≠ '<'))).map
        (.text (String.ofList (unescape (c :: rest.takeWhile (· ≠ '<')))) :: ·)
termination_by cs.length
decreasing_by
  · have hle := (List.dropWhile_sublist (l := rest) (· ≠ '>')).length_le
    rw [‹rest.dropWhile _ = _›] at hle
    simp only [List.length_cons] at hle ⊢
    omega
  · have hle := (List.dropWhile_sublist (l := rest) (· ≠ '<')).length_le
    simp only [List.length_cons]
    omega

end Markup

/-- The name of the element that holds all others. -/
def rootName? (marks : List Mark) : Option String :=
  marks.findSome? fun mark =>
    match mark with
    | .opening name => some name
    | _ => none

/-- The text of the first element with a name that stands right below the root, so many elements
being open. -/
def childText? (name : String) (depth : Nat) : List Mark → Option String
  | [] => none
  | .opening other :: rest =>
    if depth = 1 && other = name then
      match rest with
      | .text s :: _ => some s
      | _ => some ""
    else childText? name (depth + 1) rest
  | .closing _ :: rest => childText? name (depth - 1) rest
  | .text _ :: rest => childText? name depth rest

end Fleet.Text
