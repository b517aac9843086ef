import Fleet.Text.Digits
import Fleet.Time.Instant

/-!
# `Fleet.Time.Rfc3339`: the exchange format of instants

Instants are exchanged as `YYYY-MM-DDTHH:MM:SS`, an optional fraction and an offset. The
writer gives the fraction without trailing zeros and the zero offset as `Z`. The reader takes
any one ASCII character between date and time, cuts the fraction after nine digits, and
accepts second 60 only where a leap second may stand: at 23:59 UTC on the last day of a
month. It stands for the last nanosecond of second 59.
-/

set_option autoImplicit false

namespace Fleet.Time

open Fleet.Text

/-- A number below a hundred with two digits. -/
def twoDigits (n : Nat) : String := padded 2 n

/-- Nanoseconds as a decimal fraction without trailing zeros; empty for zero. -/
def fractionDigits (nano : Nat) : String :=
  String.ofList (((padded 9 nano).toList.reverse.dropWhile (· == '0')).reverse)

/-- The text of a year: at least four digits, and a sign in front of the digits of a negative
year. -/
def yearText (y : Int) : String :=
  if y < 0 then "-" ++ padded 4 y.natAbs else padded 4 y.natAbs

/-- A date as `YYYY-MM-DD`. -/
def Date.text (d : Date) : String :=
  yearText d.year ++ "-" ++ twoDigits d.month ++ "-" ++ twoDigits d.day

/-- A time of day as `HH:MM:SS`. -/
def Reading.timeText (r : Reading) : String :=
  twoDigits r.hour ++ ":" ++ twoDigits r.minute ++ ":" ++ twoDigits r.second

/-- An offset as `Z` or `+HH:MM`. -/
def offsetText (offset : Int) : String :=
  if offset = 0 then "Z"
  else
    let minutes := offset.natAbs / 60
    (if offset < 0 then "-" else "+") ++ twoDigits (minutes / 60) ++ ":" ++ twoDigits (minutes % 60)

/-- The part of an instant for which there is no place in an exchange text, if there is one: a year
without four digits, an offset of a day or more, or one with seconds. -/
def Instant.unwritable? (t : Instant) : Option String :=
  let year := t.reading.date.year
  if year < 0 || 9999 < year then some "year"
  else if 86400 ≤ t.offset.natAbs then some "offset_hour"
  else if t.offset % 60 ≠ 0 then some "offset_second"
  else none

/-- The exchange text of an instant that has one. -/
def Instant.text (t : Instant) : String :=
  let r := t.reading
  let fraction := fractionDigits r.nano
  r.date.text ++ "T" ++ r.timeText ++ (if fraction.isEmpty then "" else "." ++ fraction)
    ++ offsetText t.offset

/-! ### Reading -/

/-- The rest of a text after an expected character. -/
def expectChar (c : Char) : List Char → Option (List Char)
  | d :: rest => if d = c then some rest else none
  | [] => none

/-- Two digits of a number at most `top`, and the rest. -/
def twoDigitsUpTo (top : Nat) (cs : List Char) : Option (Nat × List Char) := do
  let (n, rest) ← takeDigits? 2 cs
  if n ≤ top then some (n, rest) else none

/-- An optional fraction as nanoseconds, and the rest. A point needs at least one digit. -/
def readFraction (cs : List Char) : Option (Nat × List Char) :=
  match cs with
  | '.' :: rest =>
    let digits := rest.takeWhile (fun c => (digitValue? c).isSome)
    if digits.isEmpty then none
    else
      let kept := digits.take 9
      (readDigits kept).map fun n =>
        (n * Nat.pow 10 (9 - kept.length), rest.drop digits.length)
  | _ => some (0, cs)

/-- An offset in seconds; nothing may follow it. -/
def readOffset (cs : List Char) : Option Int :=
  match cs with
  | ['Z'] => some 0
  | ['z'] => some 0
  | sign :: rest =>
    if sign = '+' ∨ sign = '-' then do
      let (hours, rest) ← twoDigitsUpTo 23 rest
      let rest ← expectChar ':' rest
      let (minutes, rest) ← twoDigitsUpTo 59 rest
      if rest.isEmpty then
        let seconds : Int := (hours * 3600 + minutes * 60 : Nat)
        some (if sign = '-' then -seconds else seconds)
      else none
    else none
  | [] => none

/-- Whether an instant may stand for a leap second: it shows 23:59:59 in UTC on the last day
of a month. -/
def Instant.mayBeLeapSecond (t : Instant) : Bool :=
  let r := t.toUtc.reading
  r.hour == 23 && r.minute == 59 && r.second == 59 && r.date.isMonthEnd

def Instant.parseChars (cs : List Char) : Option Instant := do
  let (year, cs) ← takeDigits? 4 cs
  let cs ← expectChar '-' cs
  let (month, cs) ← takeDigits? 2 cs
  let cs ← expectChar '-' cs
  let (day, cs) ← takeDigits? 2 cs
  let date : Date := ⟨year, month, day⟩
  let cs ← match cs with
    | separator :: rest => if separator.toNat < 128 then some rest else none
    | [] => none
  let (hour, cs) ← twoDigitsUpTo 23 cs
  let cs ← expectChar ':' cs
  let (minute, cs) ← twoDigitsUpTo 59 cs
  let cs ← expectChar ':' cs
  let (second, cs) ← twoDigitsUpTo 60 cs
  let (nano, cs) ← readFraction cs
  let offset ← readOffset cs
  if !date.isValid then none
  else if second = 60 then
    let t := Instant.ofReading ⟨date, hour, minute, 59, 999999999⟩ offset
    if t.mayBeLeapSecond then some t else none
  else some (Instant.ofReading ⟨date, hour, minute, second, nano⟩ offset)

/-- Reads an instant from its exchange text. -/
def Instant.parse (s : String) : Option Instant := Instant.parseChars s.toList

end Fleet.Time
