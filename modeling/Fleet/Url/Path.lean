import Fleet.Text.Search
import Fleet.Url.Percent

/-!
# `Fleet.Url.Path`: paths as lists of segments

A path is a list of segments, each written behind a slash. Reading a path resolves the
segments that stand for this place and for the place above; they never are part of a path.
-/

set_option autoImplicit false

namespace Fleet.Url

open Fleet.Text

/-- Whether a segment stands for this place. -/
def isSingleDot (segment : List Char) : Bool :=
  [".".toList, "%2e".toList].contains (segment.map Char.toLower)

/-- Whether a segment stands for the place above. -/
def isDoubleDot (segment : List Char) : Bool :=
  ["..".toList, ".%2e".toList, "%2e.".toList, "%2e%2e".toList].contains
    (segment.map Char.toLower)

/-- Puts one segment behind those of a path. A segment of dots at the end leaves an empty one,
so that the path keeps its last slash. -/
def pushSegment (path : List String) (segment : List Char) (isLast : Bool) : List String :=
  if isDoubleDot segment then path.dropLast ++ (if isLast then [""] else [])
  else if isSingleDot segment then path ++ (if isLast then [""] else [])
  else path ++ [String.ofList segment]

/-- Puts several segments behind those of a path. -/
def pushSegments (path : List String) : List (List Char) → List String
  | [] => path
  | [last] => pushSegment path last true
  | segment :: rest => pushSegments (pushSegment path segment false) rest

/-- The slash of a special scheme may lean either way. -/
def straighten (isSpecial : Bool) (c : Char) : Char := if isSpecial && c = '\\' then '/' else c

/-- The segments of the text of a path, without its first slash. -/
def parseSegments (isSpecial : Bool) (cs : List Char) : List String :=
  pushSegments [] ((split '/' (cs.map (straighten isSpecial))).map (percentEncode pathSet))

/-- The segments of the text of a path. The first slash may be missing; a path that is not
special may be empty. -/
def parsePath (isSpecial : Bool) (cs : List Char) : List String :=
  match cs with
  | [] => if isSpecial then [""] else []
  | c :: rest =>
    if straighten isSpecial c = '/' then parseSegments isSpecial rest
    else parseSegments isSpecial cs

/-- The text of segments, each behind a slash. -/
def segmentsText (segments : List String) : String :=
  String.ofList (segments.flatMap fun s => '/' :: s.toList)

end Fleet.Url
