import Fleet.Time.Calendar

/-!
# `Fleet.Time.Instant`: points in time with the offset they are shown in

An `Instant` is a count of nanoseconds since 1970-01-01T00:00:00Z together with the offset
from UTC in which it is written. Order and arithmetic look at the count alone; the offset
only decides which date and time of day are shown.
-/

set_option autoImplicit false

namespace Fleet.Time

def nanosPerSecond : Int := 1000000000

def secondsPerDay : Int := 86400

/-- A point in time and the offset it is shown in. -/
structure Instant where
  /-- Nanoseconds since 1970-01-01T00:00:00Z. -/
  nanos : Int
  /-- The offset from UTC in seconds, positive to the east. -/
  offset : Int
deriving DecidableEq, Repr, Inhabited

/-- A date and a time of day, as a clock at some offset shows it. -/
structure Reading where
  date : Date
  /-- The hour, from 0 to 23. -/
  hour : Nat
  /-- The minute, from 0 to 59. -/
  minute : Nat
  /-- The second, from 0 to 59. -/
  second : Nat
  /-- The nanosecond within the second. -/
  nano : Nat
deriving DecidableEq, Repr

namespace Instant

/-- The instant `s` seconds after 1970-01-01T00:00:00Z, shown in UTC. -/
def ofUnix (s : Int) : Instant := ⟨s * nanosPerSecond, 0⟩

/-- Whole seconds since 1970-01-01T00:00:00Z, rounded toward the past. -/
def unixSeconds (t : Instant) : Int := t.nanos / nanosPerSecond

/-- Milliseconds since 1970-01-01T00:00:00Z, rounded toward that instant. -/
def unixMillis (t : Instant) : Int := Int.tdiv t.nanos 1000000

/-- The nanoseconds past the last whole second. -/
def subsecond (t : Instant) : Nat := (t.nanos % nanosPerSecond).toNat

/-- The same instant shown in UTC. -/
def toUtc (t : Instant) : Instant := { t with offset := 0 }

/-- The instant a number of nanoseconds later, shown in the same offset. -/
def addNanos (t : Instant) (n : Int) : Instant := { t with nanos := t.nanos + n }

/-- The instant a number of seconds later, shown in the same offset. -/
def addSeconds (t : Instant) (s : Int) : Instant := t.addNanos (s * nanosPerSecond)

/-- The date and time of day at the instant's offset. -/
def reading (t : Instant) : Reading :=
  let shown := t.unixSeconds + t.offset
  let ofDay := (shown % secondsPerDay).toNat
  { date := Date.ofDay (shown / secondsPerDay + epochDay)
    hour := ofDay / 3600
    minute := ofDay / 60 % 60
    second := ofDay % 60
    nano := t.subsecond }

/-- The instant at which a clock at the given offset shows a reading. -/
def ofReading (r : Reading) (offset : Int) : Instant :=
  { nanos :=
      ((r.date.toDay - epochDay) * secondsPerDay
        + (r.hour * 3600 + r.minute * 60 + r.second : Nat) - offset) * nanosPerSecond + r.nano
    offset }

/-- Whether the count of nanoseconds fits a signed 64-bit word. -/
def hasWordNanos (t : Instant) : Bool :=
  -9223372036854775808 ≤ t.nanos && t.nanos < 9223372036854775808

end Instant

end Fleet.Time
