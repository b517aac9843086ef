import Fleet.Proofs.Time.Rfc3339

/-!
# `Fleet.Proofs.Time.Accepted`: times that are read can be written

Whatever text the reader of times accepts, what it makes of it is `Representable`
(`Instant.representable_of_parse`). The year has the four digits of the text, since the date is
valid and the clock at the offset shows it again (`year_ofReading`). The hours and minutes of an
offset make less than a day. A leap second is read as the last nanosecond before it.
-/

set_option autoImplicit false

namespace Fleet.Time

open Fleet.Text

/-! ### Parts of a text -/

/-- Two digits that are read up to a bound keep to it. -/
theorem le_of_twoDigitsUpTo {top n : Nat} {cs rest : List Char}
    (h : twoDigitsUpTo top cs = some (n, rest)) : n ≤ top := by
  rw [twoDigitsUpTo] at h
  obtain ⟨⟨m, rest'⟩, -, hm⟩ := Option.bind_eq_some_iff.1 h
  dsimp only at hm
  split at hm
  · next hle =>
    cases hm
    exact hle
  · cases hm

/-- At most nine digits are kept, and zeros make nine of them. -/
theorem lt_of_readFraction {cs rest : List Char} {nano : Nat}
    (h : readFraction cs = some (nano, rest)) : nano < 1000000000 := by
  unfold readFraction at h
  split at h
  · dsimp only at h
    split at h
    · cases h
    · obtain ⟨n, hn, he⟩ := Option.map_eq_some_iff.1 h
      cases he
      generalize hkept : (List.takeWhile _ _).take 9 = kept at hn
      have hlength : kept.length ≤ 9 := by
        rw [← hkept]
        exact List.length_take_le 9 _
      have hlt := lt_of_readDigits hn
      calc n * Nat.pow 10 (9 - kept.length)
          < 10 ^ kept.length * 10 ^ (9 - kept.length) :=
            Nat.mul_lt_mul_of_pos_right hlt (Nat.pow_pos (by decide))
        _ = 10 ^ 9 := by rw [← Nat.pow_add, Nat.add_sub_of_le hlength]
  · cases h
    decide

/-- An offset that was read is of whole minutes and less than a day. The text has no place for
seconds, and hours end at 23. -/
theorem readOffset_bounds {cs : List Char} {offset : Int} (h : readOffset cs = some offset) :
    offset % 60 = 0 ∧ offset.natAbs < 86400 := by
  unfold readOffset at h
  split at h
  · cases h
    decide
  · cases h
    decide
  · split at h
    · obtain ⟨⟨hours, rest₁⟩, hhours, h⟩ := Option.bind_eq_some_iff.1 h
      obtain ⟨rest₂, -, h⟩ := Option.bind_eq_some_iff.1 h
      obtain ⟨⟨minutes, rest₃⟩, hminutes, h⟩ := Option.bind_eq_some_iff.1 h
      have hhours := le_of_twoDigitsUpTo hhours
      have hminutes := le_of_twoDigitsUpTo hminutes
      dsimp only at h
      split at h
      · cases h
        split <;> omega
      · cases h
    · cases h
  · cases h

/-! ### Readings -/

namespace Instant

/-- A clock at the offset of a reading shows its year again. -/
theorem year_ofReading {r : Reading} (offset : Int) (hvalid : r.date.isValid = true)
    (hhour : r.hour ≤ 23) (hminute : r.minute ≤ 59) (hsecond : r.second ≤ 59)
    (hnano : r.nano < 1000000000) : (ofReading r offset).reading.date.year = r.date.year := by
  have hday : ((ofReading r offset).unixSeconds + offset) / secondsPerDay + epochDay
      = r.date.toDay := by
    rw [ofReading, unixSeconds, secondsPerDay, nanosPerSecond]
    dsimp only
    omega
  have hdate : (ofReading r offset).reading.date = Date.ofDay r.date.toDay := by
    rw [← hday]
    rfl
  rw [hdate]
  exact Date.year_ofDay_toDay hvalid

/-- A reading with all its parts in bounds gives a representable time. The year is that of the clock
with the offset, so no year is gained or lost by going over to UTC. -/
theorem representable_ofReading {year month day hour minute second nano : Nat} {offset : Int}
    (hyear : year < 10000) (hvalid : Date.isValid ⟨year, month, day⟩ = true) (hhour : hour ≤ 23)
    (hminute : minute ≤ 59) (hsecond : second ≤ 59) (hnano : nano < 1000000000)
    (hoffset : offset % 60 = 0 ∧ offset.natAbs < 86400) :
    (ofReading ⟨⟨year, month, day⟩, hour, minute, second, nano⟩ offset).Representable := by
  have hshown := year_ofReading (r := ⟨⟨year, month, day⟩, hour, minute, second, nano⟩) offset
    hvalid hhour hminute hsecond hnano
  refine ⟨?_, hoffset.1, hoffset.2⟩
  rw [hshown]
  dsimp only
  omega

/-- Times that are read have an exchange text. -/
theorem representable_of_parse {s : String} {t : Instant} (h : parse s = some t) :
    t.Representable := by
  rw [parse, parseChars] at h
  -- The parts of the text from left to right. Separators and the digits of month and day do not
  -- matter here, because the date as a whole is checked at the end.
  obtain ⟨⟨year, cs₁⟩, hyear, h⟩ := Option.bind_eq_some_iff.1 h
  obtain ⟨cs₂, -, h⟩ := Option.bind_eq_some_iff.1 h
  obtain ⟨⟨month, cs₃⟩, -, h⟩ := Option.bind_eq_some_iff.1 h
  obtain ⟨cs₄, -, h⟩ := Option.bind_eq_some_iff.1 h
  obtain ⟨⟨day, cs₅⟩, -, h⟩ := Option.bind_eq_some_iff.1 h
  cases cs₅ with
  | nil => cases h
  | cons separator rest =>
    dsimp only at h
    split at h
    · obtain ⟨cs₆, -, h⟩ := Option.bind_eq_some_iff.1 h
      obtain ⟨⟨hour, cs₇⟩, hhour, h⟩ := Option.bind_eq_some_iff.1 h
      obtain ⟨cs₈, -, h⟩ := Option.bind_eq_some_iff.1 h
      obtain ⟨⟨minute, cs₉⟩, hminute, h⟩ := Option.bind_eq_some_iff.1 h
      obtain ⟨cs₁₀, -, h⟩ := Option.bind_eq_some_iff.1 h
      obtain ⟨⟨second, cs₁₁⟩, hsecond, h⟩ := Option.bind_eq_some_iff.1 h
      obtain ⟨⟨nano, cs₁₂⟩, hnano, h⟩ := Option.bind_eq_some_iff.1 h
      obtain ⟨offset, hoffset, h⟩ := Option.bind_eq_some_iff.1 h
      have hyear := lt_of_takeDigits? hyear
      have hhour := le_of_twoDigitsUpTo hhour
      have hminute := le_of_twoDigitsUpTo hminute
      have hsecond := le_of_twoDigitsUpTo hsecond
      have hnano := lt_of_readFraction hnano
      have hoffset := readOffset_bounds hoffset
      dsimp only at h
      split at h
      · cases h
      · next hvalid =>
        rw [Bool.not_eq_true', Bool.not_eq_false] at hvalid
        split at h
        -- A leap second stands for the last nanosecond of second 59.
        · split at h
          · cases h
            exact representable_ofReading hyear hvalid hhour hminute (by decide) (by decide) hoffset
          · cases h
        · next hleap =>
          cases h
          exact representable_ofReading hyear hvalid hhour hminute (by omega) hnano hoffset
    · cases h

end Instant

end Fleet.Time
