import Fleet.Time.Rfc3339

/-!
# `Fleet.Time.Stamp`: further written forms of instants

Signed requests carry UTC times in whole seconds, in an extended form
(`2026-03-01T12:00:00Z`) or a compact one (`20260301T120000Z`). Diagnostics show an instant
with its offset down to the second.
-/

set_option autoImplicit false

namespace Fleet.Time

open Fleet.Text

/-- The UTC time in whole seconds, extended form. -/
def Instant.wholeSecondText (t : Instant) : String :=
  let r := t.toUtc.reading
  r.date.text ++ "T" ++ r.timeText ++ "Z"

/-- The UTC date as eight digits. -/
def Instant.compactDate (t : Instant) : String :=
  let d := t.toUtc.reading.date
  yearText d.year ++ twoDigits d.month ++ twoDigits d.day

/-- The UTC time in whole seconds, compact form. -/
def Instant.compactText (t : Instant) : String :=
  let r := t.toUtc.reading
  t.compactDate ++ "T" ++ twoDigits r.hour ++ twoDigits r.minute ++ twoDigits r.second ++ "Z"

/-- The form for diagnostics: date, time of day with an unpadded hour and at least one digit
of fraction, and the offset down to the second. -/
def Instant.displayText (t : Instant) : String :=
  let r := t.reading
  let fraction := fractionDigits r.nano
  let offset := t.offset.natAbs
  r.date.text ++ " " ++ Nat.repr r.hour ++ ":" ++ twoDigits r.minute ++ ":" ++ twoDigits r.second
    ++ "." ++ (if fraction.isEmpty then "0" else fraction)
    ++ " " ++ (if t.offset < 0 then "-" else "+") ++ twoDigits (offset / 3600) ++ ":"
    ++ twoDigits (offset / 60 % 60) ++ ":" ++ twoDigits (offset % 60)

end Fleet.Time
