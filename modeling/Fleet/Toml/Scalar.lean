import Fleet.Json.Basic
import Fleet.Text.Digits
import Fleet.Time.Calendar

/-!
# `Fleet.Toml.Scalar`: texts, numbers, dates and names in a document

A reader takes the characters that are left and gives what it read with the characters after
it. Texts stand in one or three quotes of two kinds, of which one knows escapes; numbers may
have underscores between their digits; dates and times are checked against the calendar.
-/

set_option autoImplicit false

namespace Fleet.Toml

open Fleet.Text

/-- Whether a character may stand between the parts of a line. -/
def isSpace (c : Char) : Bool := c = ' ' || c = '\t'

/-- Whether a character may stand in a comment or a text as it is. -/
def isPlain (c : Char) : Bool := c = '\t' || (0x20 ≤ c.toNat && c.toNat ≠ 0x7F)

/-- The text without the spaces in front. -/
def skipSpace (cs : List Char) : List Char := cs.dropWhile isSpace

/-- What follows the end of a line, if one is next. -/
def newline? : List Char → Option (List Char)
  | '\n' :: rest => some rest
  | '\r' :: '\n' :: rest => some rest
  | _ => none

/-! ### Texts -/

/-- The value of hexadecimal digits. -/
def hexNumber? (cs : List Char) : Option Nat :=
  cs.foldlM (fun n c => (hexValue? c).map (16 * n + ·)) 0

/-- The character whose number is written with `k` hexadecimal digits. -/
def numbered? (k : Nat) (cs : List Char) : Option (Char × List Char) := do
  let n ← if (cs.take k).length = k then hexNumber? (cs.take k) else none
  if n < 0xD800 || (0xDFFF < n && n ≤ 0x10FFFF) then some (Char.ofNat n, cs.drop k) else none

/-- The character of an escape, `cs` being what follows the backslash. -/
def escape? : List Char → Option (Char × List Char)
  | 'b' :: rest => some (Char.ofNat 8, rest)
  | 't' :: rest => some ('\t', rest)
  | 'n' :: rest => some ('\n', rest)
  | 'f' :: rest => some (Char.ofNat 12, rest)
  | 'r' :: rest => some ('\r', rest)
  | '"' :: rest => some ('"', rest)
  | '\\' :: rest => some ('\\', rest)
  | 'u' :: rest => numbered? 4 rest
  | 'U' :: rest => numbered? 8 rest
  | _ => none

/-- A text on one line up to its closing quote, `done` being what was read, the nearest
first. -/
def lineText (quote : Char) :
    (fuel : Nat) → (done : List Char) → List Char → Option (String × List Char)
  | 0, _, _ => none
  | fuel + 1, done, cs =>
    match cs with
    | [] => none
    | c :: rest =>
      if c = quote then some (String.ofList done.reverse, rest)
      else if c = '\\' && quote = '"' then
        (escape? rest).bind fun (c, rest) => lineText quote fuel (c :: done) rest
      else if isPlain c then lineText quote fuel (c :: done) rest
      else none

/-- What follows a backslash at the end of a line and all blanks after it, if that is what
comes next. -/
def lineJoin? (cs : List Char) : Option (List Char) :=
  (newline? (skipSpace cs)).map fun rest =>
    rest.dropWhile fun c => isSpace c || c = '\n' || c = '\r'

/-- A text on several lines up to its three closing quotes, in front of which there may be one
or two quotes of the text. -/
def blockText (quote : Char) :
    (fuel : Nat) → (done : List Char) → List Char → Option (String × List Char)
  | 0, _, _ => none
  | fuel + 1, done, cs =>
    match cs with
    | [] => none
    | c :: rest =>
      if c = quote then
        let run := (cs.takeWhile (· = quote)).length
        if run < 3 then blockText quote fuel (c :: done) rest
        else if run ≤ 5 then
          some (String.ofList (List.replicate (run - 3) quote ++ done).reverse, cs.drop run)
        else none
      else if c = '\\' && quote = '"' then
        match lineJoin? rest with
        | some rest => blockText quote fuel done rest
        | none => (escape? rest).bind fun (c, rest) => blockText quote fuel (c :: done) rest
      else if isPlain c || c = '\n' then blockText quote fuel (c :: done) rest
      else
        match newline? cs with
        | some rest => blockText quote fuel ('\n' :: done) rest
        | none => none

/-- A text in one or three quotes. -/
def text? (cs : List Char) : Option (String × List Char) :=
  match cs with
  | '"' :: '"' :: '"' :: rest => blockText '"' (rest.length + 1) [] ((newline? rest).getD rest)
  | '\x27' :: '\x27' :: '\x27' :: rest =>
    blockText '\x27' (rest.length + 1) [] ((newline? rest).getD rest)
  | '"' :: rest => lineText '"' (rest.length + 1) [] rest
  | '\x27' :: rest => lineText '\x27' (rest.length + 1) [] rest
  | _ => none

/-! ### Names -/

/-- Whether a character may stand in a name without quotes. -/
def isBare (c : Char) : Bool :=
  ('a' ≤ c && c ≤ 'z') || ('A' ≤ c && c ≤ 'Z') || ('0' ≤ c && c ≤ '9') || c = '-' || c = '_'

/-- A name, in quotes or without. -/
def name? (cs : List Char) : Option (String × List Char) :=
  match cs with
  | '"' :: rest => lineText '"' (rest.length + 1) [] rest
  | '\x27' :: rest => lineText '\x27' (rest.length + 1) [] rest
  | _ =>
    let name := cs.takeWhile isBare
    if name.isEmpty then none else some (String.ofList name, cs.dropWhile isBare)

/-- Names with dots between them. -/
def names : (fuel : Nat) → List Char → Option (List String × List Char)
  | 0, _ => none
  | fuel + 1, cs => do
    let (name, rest) ← name? (skipSpace cs)
    match skipSpace rest with
    | '.' :: rest => do
      let (more, rest) ← names fuel rest
      some (name :: more, rest)
    | rest => some ([name], rest)

/-- Names with dots between them. -/
def names? (cs : List Char) : Option (List String × List Char) := names (cs.length + 1) cs

/-! ### Numbers -/

/-- The digits of a number without the underscores, each of which must stand between two
digits. -/
def plainDigits? (isDigit : Char → Bool) (cs : List Char) : Option (List Char) :=
  let pieces := cs.splitBy fun a b => (a = '_') == (b = '_')
  let digits := cs.filter (· ≠ '_')
  if cs.head? ≠ some '_' && cs.getLast? ≠ some '_' && !cs.isEmpty && digits.all isDigit
      && pieces.all (fun p => p.head? ≠ some '_' || p.length = 1) then
    some digits
  else none

/-- An integer as a value; one of more than 64 bits keeps its text. -/
def integerValue (negative : Bool) (n : Nat) : Json :=
  if negative && n ≤ UInt64.size / 2 then .int (-(n : Int))
  else if !negative && n < UInt64.size then .int n
  else .real ((if negative then "-" else "") ++ Nat.repr n)

/-- Whether a character is a decimal digit. -/
def isDecimal (c : Char) : Bool := '0' ≤ c && c ≤ '9'

/-- An integer in one of the bases that have a mark of their own. -/
def basedInteger? (cs : List Char) : Option Json := do
  let (base, digits) ← match cs with
    | '0' :: 'x' :: rest => some (16, rest)
    | '0' :: 'o' :: rest => some (8, rest)
    | '0' :: 'b' :: rest => some (2, rest)
    | _ => none
  let digits ← plainDigits? (fun c => (hexValue? c).any (· < base)) digits
  let n ← digits.foldlM (fun n c => (hexValue? c).map (base * n + ·)) 0
  some (integerValue false n)

/-- The sign in front of a number and what follows it. -/
def splitSign (cs : List Char) : Bool × List Char :=
  match cs with
  | '-' :: rest => (true, rest)
  | '+' :: rest => (false, rest)
  | _ => (false, cs)

/-- The digits of a whole number, of which more than one do not begin with zero. -/
def wholeDigits? (cs : List Char) : Option (List Char) := do
  let digits ← plainDigits? isDecimal cs
  if 1 < digits.length && digits.head? = some '0' then none else some digits

/-- Whether a text is the exponent of a number: nothing, or a mark, a sign and digits. -/
def isExponent (cs : List Char) : Bool :=
  match cs with
  | [] => true
  | e :: rest => (e = 'e' || e = 'E') && (plainDigits? isDecimal (splitSign rest).2).isSome

/-- A decimal number. -/
def decimal? (cs : List Char) : Option Json := do
  let (negative, body) := splitSign cs
  if body = ['i', 'n', 'f'] || body = ['n', 'a', 'n'] then return .real (String.ofList cs)
  let whole := body.takeWhile fun c => isDecimal c || c = '_'
  let digits ← wholeDigits? whole
  match body.drop whole.length with
  | [] => return integerValue negative (← readDigits digits)
  | '.' :: rest =>
    let fraction := rest.takeWhile fun c => isDecimal c || c = '_'
    let _ ← plainDigits? isDecimal fraction
    if isExponent (rest.drop fraction.length) then some (.real (String.ofList cs)) else none
  | rest => if isExponent rest then some (.real (String.ofList cs)) else none

/-! ### Dates and times -/

/-- Exactly two digits with a value of at most `max`, and the rest. -/
def twoDigits? (max : Nat) (cs : List Char) : Option (Nat × List Char) := do
  let (n, rest) ← takeDigits? 2 cs
  if n ≤ max then some (n, rest) else none

/-- A date, and the rest. -/
def date? (cs : List Char) : Option (Unit × List Char) := do
  let (year, rest) ← takeDigits? 4 cs
  match rest with
  | '-' :: rest =>
    let (month, rest) ← twoDigits? 12 rest
    match rest with
    | '-' :: rest =>
      let (day, rest) ← twoDigits? 31 rest
      if 1 ≤ month && 1 ≤ day && day ≤ Time.daysInMonth year month then some ((), rest) else none
    | _ => none
  | _ => none

/-- A time of day, and the rest. -/
def timeOfDay? (cs : List Char) : Option (Unit × List Char) := do
  let (_, rest) ← twoDigits? 23 cs
  match rest with
  | ':' :: rest =>
    let (_, rest) ← twoDigits? 59 rest
    match rest with
    | ':' :: rest =>
      let (_, rest) ← twoDigits? 60 rest
      match rest with
      | '.' :: rest =>
        if rest.head?.any isDecimal then some ((), rest.dropWhile isDecimal) else none
      | rest => some ((), rest)
    | _ => none
  | _ => none

/-- An offset from UTC, if one is there, and the rest. -/
def offset? (cs : List Char) : Option (Unit × List Char) :=
  match cs with
  | 'Z' :: rest => some ((), rest)
  | 'z' :: rest => some ((), rest)
  | sign :: rest =>
    if sign = '+' || sign = '-' then do
      let (_, rest) ← twoDigits? 23 rest
      match rest with
      | ':' :: rest => do
        let (_, rest) ← twoDigits? 59 rest
        some ((), rest)
      | _ => none
    else some ((), cs)
  | [] => some ((), [])

/-- What follows a date, a time of day, or both and possibly an offset. -/
def moment? (cs : List Char) : Option (List Char) :=
  match date? cs with
  | some (_, rest) =>
    let time := match rest with
      | c :: more =>
        if c = 'T' || c = 't' || (c = ' ' && more.head?.any isDecimal) then some more else none
      | [] => none
    match time with
    | some more => do
      let (_, rest) ← timeOfDay? more
      return (← offset? rest).2
    | none => some rest
  | none => (timeOfDay? cs).map (·.2)

/-- The value of a date or a time: a record of a kind that no setting has. -/
def momentValue (text : List Char) : Json := .obj [("$moment", .str (String.ofList text))]

/-! ### Scalars -/

/-- Whether a character may stand in a number, a date or a truth value. -/
def isScalarChar (c : Char) : Bool := isBare c || c = '+' || c = '.' || c = ':'

/-- Whether a text begins like a date or a time of day. -/
def looksLikeMoment (cs : List Char) : Bool :=
  (cs.take 4).all isDecimal && (cs.drop 4).head? = some '-' && 4 ≤ cs.length
    || ((cs.take 2).all isDecimal && (cs.drop 2).head? = some ':')

/-- A truth value, a number, a date or a time. -/
def scalar? (cs : List Char) : Option (Json × List Char) :=
  if looksLikeMoment cs then
    (moment? cs).map fun rest => (momentValue (cs.take (cs.length - rest.length)), rest)
  else
    let word := cs.takeWhile isScalarChar
    let rest := cs.dropWhile isScalarChar
    if word = "true".toList then some (.bool true, rest)
    else if word = "false".toList then some (.bool false, rest)
    else ((basedInteger? word).or (decimal? word)).map (·, rest)

end Fleet.Toml
