import Fleet.Time.Calendar
import Mathlib.Algebra.GroupWithZero.Nat

/-!
# `Fleet.Proofs.Time.Calendar`: days and dates count the same

`toDay_ofDay` and `isValid_ofDay`: the date of a day is a valid date and has the count of that
day, for all days. The guess of the year is off by at most one (`yearOfDay_spec`).
-/

set_option autoImplicit false

namespace Fleet.Time

/-- Every year has twelve months. -/
theorem length_monthLengths (y : Int) : (monthLengths y).length = 12 := rfl

/-- The months of a year hold its days. -/
theorem daysBeforeYear_succ (y : Int) :
    daysBeforeYear (y + 1) = daysBeforeYear y + (monthLengths y).sum := by
  have hleap : isLeapYear y = true ↔ y % 4 = 0 ∧ (y % 100 ≠ 0 ∨ y % 400 = 0) := by
    simp [isLeapYear]
  rw [monthLengths, daysBeforeYear, daysBeforeYear]
  by_cases h : isLeapYear y = true
  · rw [if_pos h]
    rw [hleap] at h
    simp only [List.sum_cons, List.sum_nil]
    omega
  · rw [if_neg h]
    rw [hleap] at h
    simp only [List.sum_cons, List.sum_nil]
    omega

/-- A year has 146097 / 400 days in the mean, and no count is two days away from the mean. -/
theorem daysBeforeYear_bounds (y : Int) :
    146097 * y ≤ 400 * daysBeforeYear y + 396 ∧ 400 * daysBeforeYear y ≤ 146097 * y + 699 := by
  rw [daysBeforeYear]
  omega

/-- A day lies in the year that is found for it: not before the year begins, and before the next one
does. -/
theorem yearOfDay_spec (n : Int) :
    daysBeforeYear (yearOfDay n) ≤ n ∧ n < daysBeforeYear (yearOfDay n + 1) := by
  have hguess : 146097 * (400 * n / 146097) ≤ 400 * n ∧
      400 * n < 146097 * (400 * n / 146097) + 146097 := by omega
  rw [yearOfDay]
  -- From here on only the bounds of the guess matter.
  generalize 400 * n / 146097 = guess at hguess
  have hbefore := daysBeforeYear_bounds (guess - 1)
  have hafter := daysBeforeYear_bounds (guess + 2)
  split
  · next h =>
    rw [Int.sub_add_cancel]
    exact ⟨by omega, h⟩
  · next h =>
    split
    · next h' =>
      rw [Int.add_assoc, show (1 : Int) + 1 = 2 from rfl]
      exact ⟨h', by omega⟩
    · next h' => exact ⟨by omega, by omega⟩

/-- A day among the days of some months falls into one of them. -/
theorem monthOfDay_spec (month : Nat) {lengths : List Nat} {k : Nat} (h : k < lengths.sum) :
    ∃ j len, lengths[j]? = some len ∧ (lengths.take j).sum ≤ k ∧
      k < (lengths.take j).sum + len ∧
      monthOfDay month lengths k = (month + j, k - (lengths.take j).sum + 1) := by
  induction lengths generalizing month k with
  | nil => cases h
  | cons len rest ih =>
    rw [monthOfDay]
    split
    · next hlt => exact ⟨0, len, rfl, Nat.zero_le _, by simpa using hlt, rfl⟩
    · next hge =>
      rw [List.sum_cons] at h
      obtain ⟨j, len', hget, hle, hlt, hmonth⟩ := ih (month + 1) (k := k - len) (by omega)
      refine ⟨j + 1, len', hget, ?_, ?_, ?_⟩
      · rw [List.take_succ_cons, List.sum_cons]
        omega
      · rw [List.take_succ_cons, List.sum_cons]
        omega
      · rw [hmonth, List.take_succ_cons, List.sum_cons, Nat.add_right_comm, Nat.sub_sub,
          Nat.add_assoc]

namespace Date

/-- What the date of a day is made of. -/
theorem ofDay_spec (n : Int) : ∃ j len : Nat,
    (monthLengths (yearOfDay n))[j]? = some len ∧
    ((monthLengths (yearOfDay n)).take j).sum ≤ (n - daysBeforeYear (yearOfDay n)).toNat ∧
    (n - daysBeforeYear (yearOfDay n)).toNat
      < ((monthLengths (yearOfDay n)).take j).sum + len ∧
    ofDay n = ⟨yearOfDay n, 1 + j, (n - daysBeforeYear (yearOfDay n)).toNat
      - ((monthLengths (yearOfDay n)).take j).sum + 1⟩ := by
  obtain ⟨hle, hlt⟩ := yearOfDay_spec n
  rw [daysBeforeYear_succ] at hlt
  have hbound : (n - daysBeforeYear (yearOfDay n)).toNat
      < (monthLengths (yearOfDay n)).sum := by omega
  obtain ⟨j, len, hget, hlow, hhigh, hmonth⟩ := monthOfDay_spec 1 hbound
  refine ⟨j, len, hget, hlow, hhigh, ?_⟩
  rw [ofDay, hmonth]

/-- The days before a month are those of the months before it. -/
theorem daysBeforeMonth_eq_sum (d : Date) :
    d.daysBeforeMonth = ((monthLengths d.year).take (d.month - 1)).sum :=
  rfl

/-- The date of a day counts back to that day, so no two days share a date. -/
theorem toDay_ofDay (n : Int) : (ofDay n).toDay = n := by
  obtain ⟨j, len, -, hlow, -, hdate⟩ := ofDay_spec n
  obtain ⟨hle, -⟩ := yearOfDay_spec n
  rw [hdate, toDay, daysBeforeMonth_eq_sum]
  dsimp only
  rw [Nat.add_sub_cancel_left]
  omega

/-- The date of a day is a date of the calendar, the 29th of February in leap years only. -/
theorem isValid_ofDay (n : Int) : (ofDay n).isValid = true := by
  obtain ⟨j, len, hget, hlow, hhigh, hdate⟩ := ofDay_spec n
  have hdays : daysInMonth (yearOfDay n) (1 + j) = len := by
    rw [daysInMonth, if_neg (by omega), Nat.add_sub_cancel_left, hget, Option.getD_some]
  rw [hdate, isValid]
  dsimp only
  rw [hdays, Bool.and_eq_true, decide_eq_true_eq, decide_eq_true_eq]
  omega

/-- Months and days of a date have two digits. -/
theorem ofDay_lt (n : Int) : (ofDay n).month < 100 ∧ (ofDay n).day < 100 := by
  obtain ⟨j, len, hget, hlow, hhigh, hdate⟩ := ofDay_spec n
  -- There are twelve months, of at most 31 days.
  have hj : j < 12 := by
    rw [← length_monthLengths (yearOfDay n)]
    exact (List.getElem?_eq_some_iff.1 hget).1
  have hlen : len ≤ 31 := by
    have hall : ∀ l ∈ monthLengths (yearOfDay n), l ≤ 31 := by
      rw [monthLengths]
      cases isLeapYear (yearOfDay n) <;> decide
    exact hall len (List.mem_of_getElem? hget)
  rw [hdate]
  dsimp only
  omega

/-- A valid date falls into its year. -/
theorem toDay_bounds {d : Date} (h : d.isValid = true) :
    daysBeforeYear d.year ≤ d.toDay ∧ d.toDay < daysBeforeYear (d.year + 1) := by
  rw [isValid, Bool.and_eq_true, decide_eq_true_eq, decide_eq_true_eq, daysInMonth] at h
  obtain ⟨hfirst, hlast⟩ := h
  split at hlast
  · omega
  · cases hlen : (monthLengths d.year)[d.month - 1]? with
    | none =>
      rw [hlen, Option.getD_none] at hlast
      omega
    | some len =>
      rw [hlen, Option.getD_some] at hlast
      -- The months up to and with the month of the date are some of the months of the year.
      obtain ⟨hlt, hget⟩ := List.getElem?_eq_some_iff.1 hlen
      have hsum := congrArg List.sum (List.take_append_drop (d.month - 1) (monthLengths d.year))
      rw [List.sum_append, List.drop_eq_getElem_cons hlt, hget, List.sum_cons] at hsum
      rw [daysBeforeYear_succ, toDay, daysBeforeMonth_eq_sum]
      omega

end Date

/-- Later years begin later. -/
theorem daysBeforeYear_mono {y y' : Int} (h : y ≤ y') : daysBeforeYear y ≤ daysBeforeYear y' := by
  rcases Int.lt_or_eq_of_le h with hlt | rfl
  · have hbefore := daysBeforeYear_bounds y
    have hafter := daysBeforeYear_bounds y'
    omega
  · exact Int.le_refl _

/-- Only one year holds a day. -/
theorem yearOfDay_eq {n y : Int} (hle : daysBeforeYear y ≤ n) (hlt : n < daysBeforeYear (y + 1)) :
    yearOfDay n = y := by
  obtain ⟨hle', hlt'⟩ := yearOfDay_spec n
  rcases Int.lt_trichotomy (yearOfDay n) y with h | h | h
  · have hmono := daysBeforeYear_mono (show yearOfDay n + 1 ≤ y from h)
    omega
  · exact h
  · have hmono := daysBeforeYear_mono (show y + 1 ≤ yearOfDay n from h)
    omega

/-- The date of the day of a valid date has the year of the date. -/
theorem Date.year_ofDay_toDay {d : Date} (h : d.isValid = true) :
    (Date.ofDay d.toDay).year = d.year := by
  obtain ⟨hle, hlt⟩ := toDay_bounds h
  obtain ⟨j, len, -, -, -, hdate⟩ := ofDay_spec d.toDay
  rw [hdate]
  exact yearOfDay_eq hle hlt

end Fleet.Time
