import Fleet.Text.Digits
import Mathlib.Algebra.Group.Nat.Defs

/-!
# `Fleet.Proofs.Text.Digits`: digits are read as the number they were written for

`readDigits_repr` and `takeDigits?_padded` undo the two ways of writing a number.
`hexValue?_hexLower` undoes a hexadecimal digit.
-/

set_option autoImplicit false

namespace Fleet.Text

/-- The value of a digit is how far it stands behind zero. -/
theorem digitValue?_of_isDigit {c : Char} (h : c.isDigit = true) :
    digitValue? c = some (c.toNat - '0'.toNat) := by
  rw [Char.isDigit, Bool.and_eq_true, decide_eq_true_eq, decide_eq_true_eq] at h
  exact if_pos h

/-- Characters that are digits are read one by one, as the library reads them. -/
theorem foldlM_digits {cs : List Char} (h : ∀ c ∈ cs, c.isDigit = true) (n : Nat) :
    cs.foldlM (fun n c => (digitValue? c).map (10 * n + ·)) n
      = some (Nat.ofDigitChars 10 cs n) := by
  induction cs generalizing n with
  | nil => rw [List.foldlM_nil, Nat.ofDigitChars_nil]; rfl
  | cons c rest ih =>
    have hc : digitValue? c = some (c.toNat - '0'.toNat) :=
      digitValue?_of_isDigit (h c List.mem_cons_self)
    rw [List.foldlM_cons, hc, Option.map_some, Nat.ofDigitChars_cons]
    exact ih (fun c' hc' => h c' (List.mem_cons_of_mem _ hc')) _

/-- A text of digits is read as the number that it writes, leading zeros included. -/
theorem readDigits_of_isDigit {cs : List Char} (h : ∀ c ∈ cs, c.isDigit = true) :
    readDigits cs = some (Nat.ofDigitChars 10 cs 0) :=
  foldlM_digits h 0

/-- The text of a number holds nothing but digits, so it holds no separator of whatever format it is
written into. -/
theorem isDigit_of_mem_repr {n : Nat} {c : Char} (h : c ∈ n.repr.toList) : c.isDigit = true := by
  rw [Nat.toList_repr] at h
  exact Nat.isDigit_of_mem_toDigits (by decide) (by decide) h

/-- Reading digits undoes writing a number. -/
theorem readDigits_repr (n : Nat) : readDigits n.repr.toList = some n := by
  rw [readDigits_of_isDigit fun c hc => isDigit_of_mem_repr hc, Nat.toList_repr,
    Nat.ofDigitChars_ten_toDigits]

/-! ### Padded numbers -/

/-- A padded number is its text behind as many zeros as are missing. -/
theorem toList_padded (width n : Nat) :
    (padded width n).toList = List.replicate (width - n.repr.length) '0' ++ n.repr.toList := by
  rw [padded, String.toList_append, String.toList_ofList]

/-- Padding puts in nothing but digits. -/
theorem isDigit_of_mem_padded {width n : Nat} {c : Char} (h : c ∈ (padded width n).toList) :
    c.isDigit = true := by
  rw [toList_padded] at h
  rcases List.mem_append.1 h with h | h
  · rw [List.eq_of_mem_replicate h]
    decide
  · exact isDigit_of_mem_repr h

/-- Zeros in front do not count. -/
theorem readDigits_padded (width n : Nat) : readDigits (padded width n).toList = some n := by
  rw [readDigits_of_isDigit fun c hc => isDigit_of_mem_padded hc, toList_padded,
    Nat.ofDigitChars_append, Nat.ofDigitChars_replicate_zero, Nat.mul_zero, Nat.toList_repr,
    Nat.ofDigitChars_ten_toDigits]

/-- A number that fits into a width is padded to exactly this width. One that does not fit is
longer. -/
theorem length_padded {width n : Nat} (hwidth : 0 < width) (h : n < 10 ^ width) :
    (padded width n).toList.length = width := by
  have hle : n.repr.length ≤ width := (Nat.length_repr_le_iff hwidth).2 h
  rw [toList_padded, List.length_append, List.length_replicate, String.length_toList]
  omega

/-- A number that fits its width is read back, and nothing after it is touched. -/
theorem takeDigits?_padded {width n : Nat} (hwidth : 0 < width) (h : n < 10 ^ width)
    (rest : List Char) : takeDigits? width ((padded width n).toList ++ rest) = some (n, rest) := by
  have hlength := length_padded hwidth h
  have htake : ((padded width n).toList ++ rest).take width = (padded width n).toList :=
    List.take_left' hlength
  have hdrop : ((padded width n).toList ++ rest).drop width = rest := List.drop_left' hlength
  rw [takeDigits?, htake, hdrop, if_pos hlength, readDigits_padded, Option.map_some]

/-! ### How great a number can be -/

/-- A digit is worth less than ten. -/
theorem lt_of_digitValue? {c : Char} {d : Nat} (h : digitValue? c = some d) : d < 10 := by
  rw [digitValue?] at h
  split at h
  · next hc =>
    have hhigh : c.toNat ≤ '9'.toNat := hc.2
    rw [show '9'.toNat = 57 from rfl] at hhigh
    rw [show '0'.toNat = 48 from rfl, Option.some.injEq] at h
    omega
  · cases h

/-- Reading more digits behind a number multiplies its bound by ten for each. The bound is on the
number and one, so that the induction goes through. -/
theorem lt_of_foldlM_digits {cs : List Char} {m n : Nat}
    (h : cs.foldlM (fun n c => (digitValue? c).map (10 * n + ·)) m = some n) :
    n < (m + 1) * 10 ^ cs.length := by
  induction cs generalizing m with
  | nil =>
    cases h
    simp
  | cons c rest ih =>
    rw [List.foldlM_cons] at h
    obtain ⟨m', hm', hrest⟩ := Option.bind_eq_some_iff.1 h
    obtain ⟨d, hd, rfl⟩ := Option.map_eq_some_iff.1 hm'
    have hlt := lt_of_digitValue? hd
    have hstep : 10 * m + d + 1 ≤ (m + 1) * 10 := by omega
    calc n < (10 * m + d + 1) * 10 ^ rest.length := ih hrest
      _ ≤ (m + 1) * 10 * 10 ^ rest.length := Nat.mul_le_mul_right _ hstep
      _ = (m + 1) * 10 ^ (c :: rest).length := by
        rw [List.length_cons, Nat.pow_succ, Nat.mul_assoc, Nat.mul_comm 10]

/-- So many digits read a number below that power of ten. -/
theorem lt_of_readDigits {cs : List Char} {n : Nat} (h : readDigits cs = some n) :
    n < 10 ^ cs.length := by
  have hlt := lt_of_foldlM_digits h
  rwa [Nat.zero_add, Nat.one_mul] at hlt

/-- A field of so many digits holds a number below that power of ten, which is what bounds the parts
of a date. -/
theorem lt_of_takeDigits? {k n : Nat} {cs rest : List Char}
    (h : takeDigits? k cs = some (n, rest)) : n < 10 ^ k := by
  rw [takeDigits?] at h
  split at h
  · next hlength =>
    obtain ⟨m, hm, he⟩ := Option.map_eq_some_iff.1 h
    cases he
    rw [← hlength]
    exact lt_of_readDigits hm
  · cases h

/-! ### Runs of digits -/

/-- The digits in front of a text that goes on with something else. -/
theorem span_digits {digits rest : List Char} (hdigits : ∀ c ∈ digits, c.isDigit = true)
    (hrest : ∀ c ∈ rest.head?, digitValue? c = none) :
    (digits ++ rest).takeWhile (fun c => (digitValue? c).isSome) = digits ∧
      (digits ++ rest).dropWhile (fun c => (digitValue? c).isSome) = rest := by
  have hall : ∀ c ∈ digits, (digitValue? c).isSome = true := fun c hc => by
    rw [digitValue?_of_isDigit (hdigits c hc)]
    rfl
  rw [List.takeWhile_append_of_pos hall, List.dropWhile_append_of_pos hall]
  cases rest with
  | nil => exact ⟨List.append_nil _, rfl⟩
  | cons c rest =>
    have hc : digitValue? c = none := hrest c rfl
    rw [List.takeWhile_cons, List.dropWhile_cons, hc]
    exact ⟨List.append_nil _, rfl⟩

/-! ### Hexadecimal digits -/

/-- The hexadecimal digit of a number below sixteen is read back as that number. -/
theorem hexValue?_hexLower {n : Nat} (h : n < 16) : hexValue? (hexLower n) = some n := by
  have hall : ∀ n : Fin 16, hexValue? (hexLower n) = some n.val := by decide
  exact hall ⟨n, h⟩

end Fleet.Text
