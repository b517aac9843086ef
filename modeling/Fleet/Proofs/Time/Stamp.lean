import Fleet.Proofs.Time.Rfc3339
import Fleet.Time.Stamp

/-!
# `Fleet.Proofs.Time.Stamp`: times in whole seconds

The form of a time for signed requests is the exchange text of its last whole second
(`text_wholeSecond`), so a time whose year has four digits is read back up to its fraction of a
second (`parse_wholeSecondText`), whatever the offset it is shown in.
-/

set_option autoImplicit false

namespace Fleet.Time

open Fleet.Text

namespace Instant

variable {t t' : Instant}

/-- The last whole second, shown in UTC. -/
def wholeSecond (t : Instant) : Instant := ofUnix t.unixSeconds

/-- Dropping the fraction of a second leaves the whole seconds since 1970, before 1970 as well. -/
theorem unixSeconds_wholeSecond (t : Instant) : t.wholeSecond.unixSeconds = t.unixSeconds :=
  Int.mul_ediv_cancel t.unixSeconds (by decide)

/-- Nothing below a second is left of a time without its fraction. -/
theorem subsecond_wholeSecond (t : Instant) : t.wholeSecond.subsecond = 0 := by
  rw [subsecond, wholeSecond, ofUnix, Int.mul_emod_left]
  rfl

/-- A clock in UTC shows the same without the fraction, apart from the nanoseconds. -/
theorem reading_wholeSecond (t : Instant) :
    t.wholeSecond.reading = { t.toUtc.reading with nano := 0 } := by
  rw [reading, unixSeconds_wholeSecond, subsecond_wholeSecond]
  rfl

/-- A time without its fraction is not later, and less than a second earlier. -/
theorem wholeSecond_bounds (t : Instant) :
    t.wholeSecond.nanos ≤ t.nanos ∧ t.nanos < t.wholeSecond.nanos + nanosPerSecond := by
  show t.nanos / 1000000000 * 1000000000 ≤ t.nanos ∧
    t.nanos < t.nanos / 1000000000 * 1000000000 + 1000000000
  omega

/-- Whole seconds in between are still in between when both ends are cut. -/
theorem wholeSecond_addSeconds (t : Instant) (n : Int) :
    (t.addSeconds n).wholeSecond.nanos = t.wholeSecond.nanos + n * nanosPerSecond := by
  show (t.nanos + n * 1000000000) / 1000000000 * 1000000000
    = t.nanos / 1000000000 * 1000000000 + n * 1000000000
  omega

/-- The form for signed requests is the exchange text of the last whole second. -/
theorem text_wholeSecond (t : Instant) : t.wholeSecond.text = t.wholeSecondText := by
  have hfraction : fractionDigits 0 = "" := by decide
  rw [text, reading_wholeSecond, hfraction]
  show _ ++ "" ++ "Z" = _
  rw [String.append_empty]
  rfl

/-- Whether the year of a time has four digits in UTC. -/
def HasPlainYear (t : Instant) : Prop :=
  0 ≤ t.toUtc.reading.date.year ∧ t.toUtc.reading.date.year ≤ 9999

instance (t : Instant) : Decidable t.HasPlainYear := inferInstanceAs (Decidable (_ ∧ _))

/-- A time with a year of four digits has an exchange text once its fraction and offset are
dropped. -/
theorem representable_wholeSecond (h : t.HasPlainYear) : t.wholeSecond.Representable where
  year := by rwa [reading_wholeSecond]
  minutes := rfl
  day := show (0 : Int).natAbs < 86400 by decide

/-- Such a time is read back as its last whole second. -/
theorem parse_wholeSecondText (h : t.HasPlainYear) :
    parse t.wholeSecondText = some t.wholeSecond := by
  rw [← text_wholeSecond, parse_text (representable_wholeSecond h)]

/-- Times with the same stamp lie in the same second, so a signed stamp tells the second. -/
theorem unixSeconds_eq_of_wholeSecondText (h : t.HasPlainYear) (h' : t'.HasPlainYear)
    (htext : t.wholeSecondText = t'.wholeSecondText) : t.unixSeconds = t'.unixSeconds := by
  have hparse := parse_wholeSecondText h
  rw [htext, parse_wholeSecondText h'] at hparse
  rw [← unixSeconds_wholeSecond t, ← Option.some.inj hparse, unixSeconds_wholeSecond]

/-- The text of a time is one line. -/
theorem lineBreak_not_mem_wholeSecondText (t : Instant) : '\n' ∉ t.wholeSecondText.toList := by
  have hdigits {width n : Nat} : '\n' ∉ (padded width n).toList := fun hmem =>
    absurd (isDigit_of_mem_padded hmem) (by decide)
  have hyear (y : Int) : '\n' ∉ (yearText y).toList := by
    rw [yearText]
    split
    · rw [String.toList_append, List.mem_append]
      exact fun hmem => hmem.elim (by decide) hdigits
    · exact hdigits
  simp [wholeSecondText, Date.text, Reading.timeText, twoDigits, hyear, hdigits]

end Instant

end Fleet.Time
