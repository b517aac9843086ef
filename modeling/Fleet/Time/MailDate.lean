import Fleet.Time.Rfc3339

/-!
# `Fleet.Time.MailDate`: dates in message headers

Header dates come in two grammars. The mail grammar (RFC 2822) allows an optional weekday,
comments, years of two digits, missing seconds and zone names; `Instant.parseMailDate` reads
it. The web grammar (IMF-fixdate) has one fixed layout; `Instant.parseWebDate` reads that.
Neither checks the weekday against the date.
-/

set_option autoImplicit false

namespace Fleet.Time

open Fleet.Text

/-- The names of the days of the week. -/
def weekdayNames : List String := ["Mon", "Tue", "Wed", "Thu", "Fri", "Sat", "Sun"]

/-- The names of the months. -/
def monthNames : List String :=
  ["Jan", "Feb", "Mar", "Apr", "May", "Jun", "Jul", "Aug", "Sep", "Oct", "Nov", "Dec"]

/-- The zone names of the mail grammar with their offsets in hours. -/
def zoneNames : List (String × Int) :=
  [("UT", 0), ("GMT", 0), ("EST", -5), ("EDT", -4), ("CST", -6), ("CDT", -5), ("MST", -7),
    ("MDT", -6), ("PST", -8), ("PDT", -7)]

/-- A character with ASCII letters in lower case. -/
def foldCase (c : Char) : Char := if 'A' ≤ c ∧ c ≤ 'Z' then Char.ofNat (c.toNat + 32) else c

/-- The rest of a text after a word, letter case ignored. -/
def dropWord? (word : String) (cs : List Char) : Option (List Char) :=
  let w := word.toList
  if (cs.take w.length).map foldCase = w.map foldCase then some (cs.drop w.length) else none

/-- The index of the first word of a list that the text starts with, and the rest. -/
def firstWord? (words : List String) (cs : List Char) : Option (Nat × List Char) :=
  words.zipIdx.findSome? fun (word, i) => (dropWord? word cs).map (i, ·)

/-- Whether a character is a space or a tab. -/
def isSpaceOrTab (c : Char) : Bool := c == ' ' || c == '\t'

/-- The rest after white space, which may be folded over lines, or `none` if there is none.
`fuel` bounds the number of folds. -/
def foldedSpace? (fuel : Nat) (cs : List Char) : Option (List Char) :=
  let spaces (cs : List Char) : Option (List Char) :=
    match cs with
    | c :: rest => if isSpaceOrTab c then some (rest.dropWhile isSpaceOrTab) else none
    | [] => none
  let rec folds : Nat → List Char → Option (List Char)
    | n + 1, '\r' :: '\n' :: rest => (spaces rest).bind (folds n)
    | _, cs => some cs
  match cs with
  | '\r' :: '\n' :: rest => spaces rest
  | cs => (spaces cs).bind (folds fuel)

/-- Whether a character may stand in a comment as it is. -/
def isCommentText (c : Char) : Bool :=
  let n := c.toNat
  (1 ≤ n && n ≤ 8) || n == 11 || n == 12 || (14 ≤ n && n ≤ 31) || n == 127
    || (33 ≤ n && n ≤ 39) || (42 ≤ n && n ≤ 91) || (93 ≤ n && n ≤ 126)

/-- The rest after the closing parenthesis of a comment of the given nesting depth. -/
def skipComment (depth : Nat) : List Char → Option (List Char)
  | [] => none
  | '(' :: rest => skipComment (depth + 1) rest
  | ')' :: rest => if depth ≤ 1 then some rest else skipComment (depth - 1) rest
  | '\\' :: _ :: rest => skipComment depth rest
  | c :: rest =>
    if isCommentText c || isSpaceOrTab c || c == '\r' || c == '\n' then skipComment depth rest
    else none

/-- The rest after white space and comments, or `none` if there are none. -/
def spaceOrComments? (fuel : Nat) (cs : List Char) : Option (List Char) :=
  match fuel with
  | 0 => none
  | fuel + 1 =>
    let one := match foldedSpace? cs.length cs with
      | some rest => some rest
      | none => match cs with
        | '(' :: rest => skipComment 1 rest
        | _ => none
    one.map fun rest => (spaceOrComments? fuel rest).getD rest

/-- The rest after at least one blank or comment. -/
def blanks? (cs : List Char) : Option (List Char) := spaceOrComments? (cs.length + 1) cs

/-- The rest after any number of blanks and comments. -/
def blanks (cs : List Char) : List Char := (blanks? cs).getD cs

/-- One or two digits from the front. -/
def oneOrTwoDigits? (cs : List Char) : Option (Nat × List Char) :=
  match takeDigits? 2 cs with
  | some r => some r
  | none => takeDigits? 1 cs

/-- A year of four digits, not before 1900, or of two digits, and the blanks after it. -/
def mailYear? (cs : List Char) : Option (Nat × List Char) :=
  match takeDigits? 4 cs with
  | some (year, rest) =>
    if 1900 ≤ year then (foldedSpace? rest.length rest).map (year, ·) else none
  | none => do
    let (year, rest) ← takeDigits? 2 cs
    let rest ← blanks? rest
    some (if year < 50 then year + 2000 else year + 1900, rest)

/-- A zone as an offset in seconds; only blanks may follow a numeric one. -/
def mailZone? (cs : List Char) : Option Int :=
  match zoneNames.findSome? fun (name, hours) => (dropWord? name cs).map (hours, ·) with
  | some (hours, rest) => if rest.isEmpty then some (hours * 3600) else none
  | none =>
    match cs with
    | [c] => if c.isAlpha && foldCase c != 'j' then some 0 else none
    | sign :: rest =>
      if sign = '+' ∨ sign = '-' then do
        let (hours, rest) ← takeDigits? 2 rest
        let (minutes, rest) ← takeDigits? 2 rest
        let seconds : Int := (hours * 3600 + minutes * 60 : Nat)
        if (blanks rest).isEmpty && hours ≤ 25 && minutes ≤ 59 then
          some (if sign = '-' then -seconds else seconds)
        else none
      else none
    | [] => none

/-- The instant of a reading at an offset, with a leap second where one may stand. -/
def ofHeaderReading (date : Date) (hour minute second : Nat) (offset : Int) : Option Instant :=
  if !(date.isValid && hour ≤ 23 && minute ≤ 59 && second ≤ 60) then none
  else if second = 60 then
    let t := Instant.ofReading ⟨date, hour, minute, 59, 999999999⟩ offset
    if t.mayBeLeapSecond then some t else none
  else some (Instant.ofReading ⟨date, hour, minute, second, 0⟩ offset)

/-- Reads a date of the mail grammar. -/
def Instant.parseMailDate (s : String) : Option Instant := do
  let cs := blanks s.toList
  let cs ← match firstWord? weekdayNames cs with
    | some (_, rest) => (expectChar ',' rest).map blanks
    | none => some cs
  let (day, cs) ← oneOrTwoDigits? cs
  let cs ← blanks? cs
  let (month, cs) ← firstWord? monthNames cs
  let cs ← blanks? cs
  let (year, cs) ← mailYear? cs
  let (hour, cs) ← takeDigits? 2 cs
  let cs ← expectChar ':' (blanks cs)
  let (minute, cs) ← takeDigits? 2 (blanks cs)
  let (second, cs) ← match expectChar ':' (blanks cs) with
    | some rest => takeDigits? 2 (blanks rest)
    | none => some (0, cs)
  let cs ← blanks? cs
  let offset ← mailZone? cs
  ofHeaderReading ⟨year, month + 1, day⟩ hour minute second offset

/-- Reads a date of the web grammar, `Sun, 01 Mar 2026 12:00:00 GMT`. -/
def Instant.parseWebDate (s : String) : Option Instant := do
  let (_, cs) ← firstWord? weekdayNames s.toList
  let cs ← expectChar ',' cs
  let cs ← expectChar ' ' cs
  let (day, cs) ← takeDigits? 2 cs
  let cs ← expectChar ' ' cs
  let (month, cs) ← firstWord? monthNames cs
  let cs ← expectChar ' ' cs
  let (year, cs) ← takeDigits? 4 cs
  let cs ← expectChar ' ' cs
  let (hour, cs) ← takeDigits? 2 cs
  let cs ← expectChar ':' cs
  let (minute, cs) ← takeDigits? 2 cs
  let cs ← expectChar ':' cs
  let (second, cs) ← takeDigits? 2 cs
  let (nano, cs) ← readFraction cs
  if cs = " GMT".toList && second ≤ 59 then
    let t ← ofHeaderReading ⟨year, month + 1, day⟩ hour minute second 0
    some (t.addNanos nano)
  else none

end Fleet.Time
