import Fleet.Text.Search
import Fleet.Url.Percent

/-!
# `Fleet.Url.Form`: queries as lists of pairs

A query is read and written as pairs of a name and a value. Pairs are joined by ampersands,
name and value by an equals sign; a space is written as a plus sign and all but a few
characters as their bytes. `parsePairs` reads every text: a piece without an equals sign is a
name with the empty value, empty pieces are dropped, and bytes that are no text are replaced
by U+FFFD.
-/

set_option autoImplicit false

namespace Fleet.Url

open Fleet.Text

/-- A name and its value. -/
abbrev Pair := String × String

/-- Whether a character stands for itself in a pair. -/
def isFormPlain (c : Char) : Bool := isAlnum c || ['*', '-', '.', '_'].contains c

/-- The written form of a character of a pair. -/
def formChar (c : Char) : List Char :=
  if isFormPlain c then [c]
  else if c = ' ' then ['+']
  else (String.utf8EncodeChar c).flatMap percentByte

/-- The written form of a name or a value. -/
def formEncode (cs : List Char) : List Char := cs.flatMap formChar

/-- The name or value that a written form stands for. -/
def formDecode (cs : List Char) : List Char :=
  decodeLossy (percentDecode ((utf8 cs).map fun b => if b = 0x2B then 0x20 else b))

/-- The written form of a pair. -/
def formPair (p : Pair) : List Char :=
  formEncode p.1.toList ++ '=' :: formEncode p.2.toList

/-- The query that is written for pairs. -/
def renderPairs (pairs : List Pair) : String :=
  "&".intercalate (pairs.map fun p => String.ofList (formPair p))

/-- The pair that a piece of a query stands for. -/
def parsePair (piece : List Char) : Pair :=
  match splitFirst? '=' piece with
  | some (name, value) => (String.ofList (formDecode name), String.ofList (formDecode value))
  | none => (String.ofList (formDecode piece), "")

/-- The pairs of a query. -/
def parsePairs (query : String) : List Pair :=
  ((split '&' query.toList).filter fun piece => !piece.isEmpty).map parsePair

/-- A query with pairs put behind those that are there. -/
def appendPairs (query : Option String) (pairs : List Pair) : String :=
  match query with
  | none => renderPairs pairs
  | some q =>
    if q.isEmpty || pairs.isEmpty then q ++ renderPairs pairs
    else q ++ "&" ++ renderPairs pairs

end Fleet.Url
