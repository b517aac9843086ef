import Fleet.Proofs.Text.Digits
import Fleet.Proofs.Time.Calendar
import Fleet.Time.Rfc3339
import Mathlib.Data.List.TakeWhile

/-!
# `Fleet.Proofs.Time.Rfc3339`: times are read back from their exchange text

`Instant.Representable` says which times have an exchange text: the year that is shown has four
digits, and the offset is less than a day and a whole number of minutes. `parse_text` is the
round trip for these. It reads the text from left to right, part by part, and puts the reading
together again (`ofReading_reading`).
-/

set_option autoImplicit false

namespace Fleet.Time

open Fleet.Text

/-! ### Readings -/

namespace Instant

/-- The parts of a reading keep to the bounds of a clock, so each fits into the digits that the text
has for it. -/
theorem reading_bounds (t : Instant) :
    t.reading.hour ≤ 23 ∧ t.reading.minute ≤ 59 ∧ t.reading.second ≤ 59 ∧
      t.reading.nano < 1000000000 := by
  have hday := Int.emod_lt_of_pos (t.unixSeconds + t.offset) (show 0 < secondsPerDay by decide)
  have hnano := Int.emod_lt_of_pos t.nanos (show 0 < nanosPerSecond by decide)
  rw [secondsPerDay] at hday
  rw [nanosPerSecond] at hnano
  rw [reading, subsecond, secondsPerDay, nanosPerSecond]
  dsimp only
  omega

/-- A reading and its offset tell the time. -/
theorem ofReading_reading (t : Instant) : ofReading t.reading t.offset = t := by
  have hday : t.reading.date.toDay - epochDay = (t.unixSeconds + t.offset) / secondsPerDay := by
    rw [reading]
    dsimp only
    rw [Date.toDay_ofDay]
    omega
  have htime : ((t.reading.hour * 3600 + t.reading.minute * 60 + t.reading.second : Nat) : Int)
      = (t.unixSeconds + t.offset) % secondsPerDay := by
    have hpos := Int.emod_nonneg (t.unixSeconds + t.offset) (show secondsPerDay ≠ 0 by decide)
    rw [reading]
    dsimp only
    omega
  have hnano : (t.reading.nano : Int) = t.nanos % nanosPerSecond := by
    have hpos := Int.emod_nonneg t.nanos (show nanosPerSecond ≠ 0 by decide)
    rw [reading, subsecond]
    dsimp only
    omega
  -- Days, seconds and nanoseconds are put together again.
  have hshown := Int.mul_ediv_add_emod (t.unixSeconds + t.offset) secondsPerDay
  have hnanos := Int.mul_ediv_add_emod t.nanos nanosPerSecond
  rw [ofReading, hday, htime, hnano]
  congr 1
  rw [unixSeconds] at hshown ⊢
  rw [secondsPerDay] at hshown ⊢
  rw [nanosPerSecond] at hshown hnanos ⊢
  omega

end Instant

/-! ### Fractions -/

/-- A text is what is left of it without the zeros at its end, and those zeros. -/
theorem append_zeros (l : List Char) :
    ∃ zeros, l = (l.reverse.dropWhile (· == '0')).reverse ++ List.replicate zeros '0' := by
  have hzeros : l.reverse.takeWhile (· == '0')
      = List.replicate (l.reverse.takeWhile (· == '0')).length '0' :=
    List.eq_replicate_of_mem fun c hc => by
      have hzero : (c == '0') = true := List.mem_takeWhile_imp (p := fun x => x == '0') hc
      exact eq_of_beq hzero
  refine ⟨(l.reverse.takeWhile (· == '0')).length, ?_⟩
  calc l = (l.reverse.takeWhile (· == '0') ++ l.reverse.dropWhile (· == '0')).reverse := by
        rw [List.takeWhile_append_dropWhile, List.reverse_reverse]
    _ = (l.reverse.dropWhile (· == '0')).reverse
          ++ (l.reverse.takeWhile (· == '0')).reverse := List.reverse_append
    _ = _ := by rw [hzeros, List.reverse_replicate, List.length_replicate]

/-- The fraction is the padded number without the zeros at its end. -/
theorem fractionDigits_append (nano : Nat) :
    ∃ zeros, (padded 9 nano).toList
      = (fractionDigits nano).toList ++ List.replicate zeros '0' := by
  rw [fractionDigits, String.toList_ofList]
  exact append_zeros _

/-- What an offset starts with is no digit and no point. -/
theorem head_offsetText (offset : Int) : ∃ c rest, (offsetText offset).toList = c :: rest ∧
    (c = 'Z' ∨ c = '+' ∨ c = '-') := by
  rw [offsetText]
  split
  · exact ⟨'Z', [], rfl, .inl rfl⟩
  · dsimp only
    split
    · rw [String.append_assoc, String.append_assoc, String.toList_append]
      exact ⟨'-', _, rfl, .inr (.inr rfl)⟩
    · rw [String.append_assoc, String.append_assoc, String.toList_append]
      exact ⟨'+', _, rfl, .inr (.inl rfl)⟩

/-- The fraction that the writer puts between the seconds and the offset. -/
def fractionText (nano : Nat) : String :=
  if (fractionDigits nano).isEmpty then "" else "." ++ fractionDigits nano

/-- The fraction is read back, and the reader stops at the offset, which begins with no digit. -/
theorem readFraction_fractionText {nano : Nat} (h : nano < 1000000000) (offset : Int) :
    readFraction ((fractionText nano).toList ++ (offsetText offset).toList)
      = some (nano, (offsetText offset).toList) := by
  obtain ⟨zeros, hpadded⟩ := fractionDigits_append nano
  obtain ⟨c, rest, hoffset, hc⟩ := head_offsetText offset
  -- The zeros that are left out are those that the reader puts back.
  have hvalue : Nat.ofDigitChars 10 (fractionDigits nano).toList 0 * 10 ^ zeros = nano := by
    have hread := readDigits_padded 9 nano
    rw [readDigits_of_isDigit fun c hc => isDigit_of_mem_padded hc, hpadded,
      Nat.ofDigitChars_append, Nat.ofDigitChars_replicate_zero, Nat.mul_comm] at hread
    exact Option.some.inj hread
  have hlength : (fractionDigits nano).toList.length + zeros = 9 := by
    have hnine := length_padded (show 0 < 9 by decide) h
    rwa [hpadded, List.length_append, List.length_replicate] at hnine
  rw [fractionText]
  split
  · next hempty =>
    -- Nothing is written for zero, and no offset looks like a fraction.
    have hnil : (fractionDigits nano).toList = [] := by simpa using hempty
    rw [hnil, Nat.ofDigitChars_nil, Nat.zero_mul] at hvalue
    subst hvalue
    rw [hoffset]
    rcases hc with rfl | rfl | rfl <;> rfl
  · next hsome =>
    have hdigits : ∀ c ∈ (fractionDigits nano).toList, c.isDigit = true := fun c hc =>
      have hmem : c ∈ (padded 9 nano).toList := by
        rw [hpadded]
        exact List.mem_append_left _ hc
      isDigit_of_mem_padded hmem
    have hstop : ∀ c ∈ (offsetText offset).toList.head?, digitValue? c = none := by
      rw [hoffset]
      intro d hd
      cases hd
      rcases hc with rfl | rfl | rfl <;> rfl
    obtain ⟨htake, -⟩ := span_digits hdigits hstop
    have hnonempty : (fractionDigits nano).toList.isEmpty = false := by simpa using hsome
    have hzeros : 9 - (fractionDigits nano).toList.length = zeros := by omega
    rw [String.toList_append]
    show readFraction ('.' :: ((fractionDigits nano).toList ++ (offsetText offset).toList)) = _
    rw [readFraction]
    dsimp only
    rw [htake, hnonempty, if_neg Bool.false_ne_true, List.take_of_length_le (by omega),
      readDigits_of_isDigit hdigits, Option.map_some, hzeros, Nat.pow_eq, hvalue, List.drop_left]

/-! ### Offsets -/

/-- A number of two digits is read back if it keeps to the bound. -/
theorem twoDigitsUpTo_padded {top n : Nat} (htop : top < 100) (h : n ≤ top) (rest : List Char) :
    twoDigitsUpTo top ((twoDigits n).toList ++ rest) = some (n, rest) := by
  rw [twoDigitsUpTo, twoDigits, takeDigits?_padded (by decide) (by omega)]
  exact if_pos h

/-- An offset is read from its sign and its two numbers. -/
theorem readOffset_parts {sign : Char} (hsign : sign = '+' ∨ sign = '-') {cs rest : List Char}
    {hours minutes : Nat} (hhours : twoDigitsUpTo 23 cs = some (hours, ':' :: rest))
    (hminutes : twoDigitsUpTo 59 rest = some (minutes, [])) :
    readOffset (sign :: cs) = some (if sign = '-' then -((hours * 3600 + minutes * 60 : Nat) : Int)
      else ((hours * 3600 + minutes * 60 : Nat) : Int)) := by
  have hreads : readOffset (sign :: cs) = (twoDigitsUpTo 23 cs).bind fun x =>
      (expectChar ':' x.2).bind fun rest =>
        (twoDigitsUpTo 59 rest).bind fun y =>
          if y.2.isEmpty then
            some (if sign = '-' then -((x.1 * 3600 + y.1 * 60 : Nat) : Int)
              else ((x.1 * 3600 + y.1 * 60 : Nat) : Int))
          else none := by
    rcases hsign with rfl | rfl <;> rfl
  rw [hreads, hhours, Option.bind_some]
  dsimp only
  rw [expectChar, if_pos rfl, Option.bind_some, hminutes, Option.bind_some]
  rfl

/-- An offset of less than a day and of whole minutes is read back. -/
theorem readOffset_offsetText {offset : Int} (hminutes : offset % 60 = 0)
    (hday : offset.natAbs < 86400) : readOffset (offsetText offset).toList = some offset := by
  rw [offsetText]
  split
  · next hzero =>
    rw [hzero]
    rfl
  · have hhours : twoDigitsUpTo 23 ((twoDigits (offset.natAbs / 60 / 60)).toList
        ++ ':' :: (twoDigits (offset.natAbs / 60 % 60)).toList)
          = some (offset.natAbs / 60 / 60, ':' :: (twoDigits (offset.natAbs / 60 % 60)).toList) :=
      twoDigitsUpTo_padded (by decide) (by omega) _
    -- An offset of whole minutes has no part below them to lose.
    have hrest : twoDigitsUpTo 59 (twoDigits (offset.natAbs / 60 % 60)).toList
        = some (offset.natAbs / 60 % 60, []) := by
      have hlast := twoDigitsUpTo_padded (show 59 < 100 by decide)
        (show offset.natAbs / 60 % 60 ≤ 59 by omega) []
      rwa [List.append_nil] at hlast
    dsimp only
    rw [String.toList_append, String.toList_append, String.toList_append, List.append_assoc,
      List.append_assoc, show ":".toList = [':'] from rfl, List.singleton_append]
    split
    · next hneg =>
      have hread := readOffset_parts (.inr rfl) hhours hrest
      rw [show "-".toList = ['-'] from rfl, List.singleton_append]
      rw [if_pos rfl, show -((offset.natAbs / 60 / 60 * 3600 + offset.natAbs / 60 % 60 * 60 : Nat)
        : Int) = offset by omega] at hread
      exact hread
    · next hpos =>
      have hread := readOffset_parts (.inl rfl) hhours hrest
      rw [show "+".toList = ['+'] from rfl, List.singleton_append]
      rw [if_neg (by decide), show ((offset.natAbs / 60 / 60 * 3600
        + offset.natAbs / 60 % 60 * 60 : Nat) : Int) = offset by omega] at hread
      exact hread

/-! ### Whole texts -/

namespace Instant

/-- Times that have an exchange text: the shown year has four digits, and the offset is less than
a day and a whole number of minutes. -/
structure Representable (t : Instant) : Prop where
  year : 0 ≤ t.reading.date.year ∧ t.reading.date.year ≤ 9999
  minutes : t.offset % 60 = 0
  day : t.offset.natAbs < 86400

/-- Exactly these times can be written. -/
theorem unwritable?_eq_none_iff {t : Instant} : t.unwritable? = none ↔ t.Representable := by
  unfold unwritable?
  constructor
  · intro h
    have hyear : ¬(t.reading.date.year < 0 ∨ 9999 < t.reading.date.year) := fun hyear => by
      simp [hyear] at h
    have hday : ¬86400 ≤ t.offset.natAbs := fun hday => by
      simp [hyear, hday] at h
    have hminutes : t.offset % 60 = 0 := by
      simpa [hyear, hday] using h
    exact ⟨by omega, hminutes, by omega⟩
  · rintro ⟨hyear, hminutes, hday⟩
    have hyear : ¬(t.reading.date.year < 0 ∨ 9999 < t.reading.date.year) := by omega
    simp [hyear, hminutes, hday]

/-- A text is read part by part. -/
theorem parseChars_parts {cs cs₁ cs₂ cs₃ cs₄ cs₅ cs₆ cs₇ : List Char}
    {year month day hour minute second nano : Nat} {offset : Int}
    (hyear : takeDigits? 4 cs = some (year, '-' :: cs₁))
    (hmonth : takeDigits? 2 cs₁ = some (month, '-' :: cs₂))
    (hday : takeDigits? 2 cs₂ = some (day, 'T' :: cs₃))
    (hhour : twoDigitsUpTo 23 cs₃ = some (hour, ':' :: cs₄))
    (hminute : twoDigitsUpTo 59 cs₄ = some (minute, ':' :: cs₅))
    (hsecond : twoDigitsUpTo 60 cs₅ = some (second, cs₆))
    (hnano : readFraction cs₆ = some (nano, cs₇)) (hoffset : readOffset cs₇ = some offset)
    (hvalid : Date.isValid ⟨year, month, day⟩ = true) (hleap : second ≠ 60) :
    parseChars cs = some (ofReading ⟨⟨year, month, day⟩, hour, minute, second, nano⟩ offset) := by
  -- The parts are read one at a time. To unfold all of the reader at once makes the goal too large.
  have hbind {α β : Type} (a : α) (f : α → Option β) : (some a >>= f) = f a := rfl
  have hexpect (c : Char) (rest : List Char) : expectChar c (c :: rest) = some rest := if_pos rfl
  rw [parseChars, hyear, hbind]
  dsimp only
  rw [hexpect, hbind, hmonth, hbind]
  dsimp only
  rw [hexpect, hbind, hday, hbind]
  dsimp only
  rw [if_pos (show 'T'.toNat < 128 by decide), hbind, hhour, hbind]
  dsimp only
  rw [hexpect, hbind, hminute, hbind]
  dsimp only
  rw [hexpect, hbind, hsecond, hbind]
  dsimp only
  rw [hnano, hbind]
  dsimp only
  rw [hoffset, hbind, hvalid, Bool.not_true, if_neg Bool.false_ne_true, if_neg hleap]

/-- The parts of an exchange text are read back one after the other. -/
theorem parseChars_text {year month day hour minute second nano : Nat} {offset : Int}
    (hyear : year < 10000) (hmonth : month < 100) (hday : day < 100) (hhour : hour ≤ 23)
    (hminute : minute ≤ 59) (hsecond : second ≤ 59) (hnano : nano < 1000000000)
    (hoffset : readOffset (offsetText offset).toList = some offset)
    (hvalid : Date.isValid ⟨year, month, day⟩ = true) :
    parseChars ((padded 4 year).toList ++ '-' :: ((twoDigits month).toList
      ++ '-' :: ((twoDigits day).toList ++ 'T' :: ((twoDigits hour).toList
      ++ ':' :: ((twoDigits minute).toList ++ ':' :: ((twoDigits second).toList
      ++ ((fractionText nano).toList ++ (offsetText offset).toList)))))))
      = some (ofReading ⟨⟨year, month, day⟩, hour, minute, second, nano⟩ offset) :=
  parseChars_parts (takeDigits?_padded (by decide) hyear _)
    (takeDigits?_padded (by decide) hmonth _) (takeDigits?_padded (by decide) hday _)
    (twoDigitsUpTo_padded (by decide) hhour _) (twoDigitsUpTo_padded (by decide) hminute _)
    (twoDigitsUpTo_padded (by decide) (Nat.le_succ_of_le hsecond) _)
    (readFraction_fractionText hnano offset) hoffset hvalid (by omega)

/-- The parts of the exchange text. -/
theorem toList_text (t : Instant) (h : 0 ≤ t.reading.date.year) :
    t.text.toList = (padded 4 t.reading.date.year.toNat).toList
      ++ '-' :: ((twoDigits t.reading.date.month).toList
      ++ '-' :: ((twoDigits t.reading.date.day).toList
      ++ 'T' :: ((twoDigits t.reading.hour).toList
      ++ ':' :: ((twoDigits t.reading.minute).toList
      ++ ':' :: ((twoDigits t.reading.second).toList
      ++ ((fractionText t.reading.nano).toList ++ (offsetText t.offset).toList)))))) := by
  -- A year of four digits is shown without a sign.
  have hyear : yearText t.reading.date.year = padded 4 t.reading.date.year.toNat := by
    rw [yearText, if_neg (by omega),
      show t.reading.date.year.natAbs = t.reading.date.year.toNat by omega]
  have hcolon : ":".toList = [':'] := rfl
  have hminus : "-".toList = ['-'] := rfl
  have hseparator : "T".toList = ['T'] := rfl
  rw [text, Date.text, Reading.timeText, hyear]
  show (_ ++ _ ++ _ ++ fractionText t.reading.nano ++ _ : String).toList = _
  simp only [String.toList_append, List.append_assoc, hcolon, hminus, hseparator,
    List.cons_append, List.nil_append]

/-- A representable time is read back from its exchange text. -/
theorem parse_text {t : Instant} (h : t.Representable) : parse t.text = some t := by
  obtain ⟨hhour, hminute, hsecond, hnano⟩ := t.reading_bounds
  obtain ⟨hlow, hhigh⟩ := h.year
  have hdate :
      t.reading.date = Date.ofDay ((t.unixSeconds + t.offset) / secondsPerDay + epochDay) := rfl
  have hvalid : t.reading.date.isValid = true := by
    rw [hdate]
    exact Date.isValid_ofDay _
  obtain ⟨hmonth, hday⟩ : t.reading.date.month < 100 ∧ t.reading.date.day < 100 := by
    rw [hdate]
    exact Date.ofDay_lt _
  have hyear : (⟨t.reading.date.year.toNat, t.reading.date.month, t.reading.date.day⟩ : Date)
      = t.reading.date := by
    rw [Int.toNat_of_nonneg hlow]
  rw [parse, toList_text t hlow, parseChars_text (by omega) hmonth hday hhour hminute hsecond hnano
    (readOffset_offsetText h.minutes h.day) (by rw [hyear]; exact hvalid), hyear]
  exact congrArg some t.ofReading_reading

end Instant

end Fleet.Time
