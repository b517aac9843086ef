import Fleet.Hash.Base64
import Fleet.Text.Utf8

/-!
# `Fleet.Proofs.Hash.Base64`: written bytes are read back

Reading undoes writing (`decode?_encode`), so different bytes are written differently. The length
of what is written depends on the number of bytes only, and every character of it is a printable
one (`length_encode`, `isPrintable_encode`). The last section is about the bytes of texts that are
written so.
-/

set_option autoImplicit false

namespace Fleet.Hash.Base64

/-! ### Digits -/

/-- The digit of a number below 64 is read back as that number. -/
theorem value?_digit {n : Nat} (h : n < 64) : value? (digit n) = some n := by
  have hall : ∀ n : Fin 64, value? (digit n) = some n.val := by decide
  exact hall ⟨n, h⟩

/-- The sign that fills up the last group is no digit. -/
theorem digit_ne_equals {n : Nat} (h : n < 64) : digit n ≠ '=' := by
  intro hequals
  have hvalue := value?_digit h
  rw [hequals] at hvalue
  cases hvalue

/-- Beyond the alphabet every digit is the last one. -/
theorem digit_of_le {n : Nat} (h : 64 ≤ n) : digit n = '/' := by
  rw [digit, if_neg (by omega), if_neg (by omega), if_neg (by omega), if_neg (by omega)]

/-- Digits are printable ASCII characters. -/
theorem isPrintable_digit (n : Nat) : ' ' ≤ digit n ∧ digit n ≤ '~' := by
  by_cases h : n < 64
  · have hall : ∀ n : Fin 64, ' ' ≤ digit n ∧ digit n ≤ '~' := by decide
    exact hall ⟨n, h⟩
  · rw [digit_of_le (Nat.le_of_not_lt h)]
    decide

/-! ### Groups -/

section

variable (a b c : UInt8)

/-- A last group of four digits is read as the three bytes that it was written for. -/
theorem decodeLast?_three :
    decodeLast? (digit (a.toNat / 4)) (digit (a.toNat % 4 * 16 + b.toNat / 16))
      (digit (b.toNat % 16 * 4 + c.toNat / 64)) (digit (c.toNat % 64)) = some [a, b, c] := by
  have ha := a.toNat_lt
  have hb := b.toNat_lt
  have hc := c.toNat_lt
  have hthird : digit (b.toNat % 16 * 4 + c.toNat / 64) ≠ '=' := digit_ne_equals (by omega)
  have hfourth : digit (c.toNat % 64) ≠ '=' := digit_ne_equals (by omega)
  have hfirstByte : a.toNat / 4 * 4 + (a.toNat % 4 * 16 + b.toNat / 16) / 16 = a.toNat := by omega
  have hsecondByte : (a.toNat % 4 * 16 + b.toNat / 16) % 16 * 16
      + (b.toNat % 16 * 4 + c.toNat / 64) / 4 = b.toNat := by omega
  have hthirdByte : (b.toNat % 16 * 4 + c.toNat / 64) % 4 * 64 + c.toNat % 64 = c.toNat := by omega
  rw [decodeLast?, value?_digit (by omega), value?_digit (by omega), value?_digit (by omega),
    value?_digit (by omega)]
  simp only [Option.bind_eq_bind, Option.bind_some, hthird, hfourth, false_and, if_false,
    hfirstByte, hsecondByte, hthirdByte, UInt8.ofNat_toNat]

/-- A last group of three digits and a filling sign is read as two bytes. The bits that no byte
claims are zero, as the reader demands. -/
theorem decodeLast?_two :
    decodeLast? (digit (a.toNat / 4)) (digit (a.toNat % 4 * 16 + b.toNat / 16))
      (digit (b.toNat % 16 * 4)) '=' = some [a, b] := by
  have ha := a.toNat_lt
  have hb := b.toNat_lt
  have hthird : digit (b.toNat % 16 * 4) ≠ '=' := digit_ne_equals (by omega)
  have hfirstByte : a.toNat / 4 * 4 + (a.toNat % 4 * 16 + b.toNat / 16) / 16 = a.toNat := by omega
  have hsecondByte : (a.toNat % 4 * 16 + b.toNat / 16) % 16 * 16 + b.toNat % 16 * 4 / 4
      = b.toNat := by omega
  have hfilled : b.toNat % 16 * 4 % 4 = 0 := by omega
  rw [decodeLast?, value?_digit (by omega), value?_digit (by omega), value?_digit (by omega)]
  simp only [Option.bind_eq_bind, Option.bind_some, hthird, false_and, if_false, if_true,
    hfirstByte, hsecondByte, hfilled, UInt8.ofNat_toNat]

/-- A last group of two digits and two filling signs is read as one byte. -/
theorem decodeLast?_one :
    decodeLast? (digit (a.toNat / 4)) (digit (a.toNat % 4 * 16)) '=' '=' = some [a] := by
  have ha := a.toNat_lt
  have hfirstByte : a.toNat / 4 * 4 + a.toNat % 4 * 16 / 16 = a.toNat := by omega
  have hfilled : a.toNat % 4 * 16 % 16 = 0 := by omega
  rw [decodeLast?, value?_digit (by omega), value?_digit (by omega)]
  simp only [Option.bind_eq_bind, Option.bind_some, and_self, if_true, hfirstByte, hfilled,
    UInt8.ofNat_toNat]

end

/-! ### Texts -/

/-- Decoding undoes encoding, by induction on the groups of three bytes. Only the last group may be
filled up. -/
theorem decodeList?_encodeList (bytes : List UInt8) :
    decodeList? (encodeList bytes) = some bytes := by
  induction bytes using encodeList.induct with
  | case1 => rfl
  | case2 a => exact decodeLast?_one a
  | case3 a b => exact decodeLast?_two a b
  | case4 a b c rest ih =>
    rw [encodeList]
    cases hrest : encodeList rest with
    | nil =>
      rw [hrest] at ih
      cases ih
      exact decodeLast?_three a b c
    | cons x xs =>
      rw [hrest] at ih
      have hthird : digit (b.toNat % 16 * 4 + c.toNat / 64) ≠ '=' :=
        digit_ne_equals (by have := b.toNat_lt; have := c.toNat_lt; omega)
      have hfourth : digit (c.toNat % 64) ≠ '=' := digit_ne_equals (by omega)
      rw [decodeList?, if_neg (by simp [hthird, hfourth]), decodeLast?_three, ih]
      · rfl
      · simp

/-- Reading undoes writing. -/
theorem decode?_encode (bytes : List UInt8) : decode? (encode bytes) = some bytes := by
  rw [decode?, encode, String.toList_ofList]
  exact decodeList?_encodeList bytes

/-- Different bytes have different texts. -/
theorem encode_injective {bytes bytes' : List UInt8} (h : encode bytes = encode bytes') :
    bytes = bytes' := by
  have hread := congrArg decode? h
  rw [decode?_encode, decode?_encode] at hread
  exact Option.some.inj hread

/-- Three bytes are written as four characters, and the last group is filled. -/
theorem length_encode (bytes : List UInt8) :
    (encode bytes).toList.length = (bytes.length + 2) / 3 * 4 := by
  rw [encode, String.toList_ofList]
  induction bytes using encodeList.induct with
  | case1 => rfl
  | case2 a => simp [encodeList]
  | case3 a b => simp [encodeList]
  | case4 a b c rest ih =>
    rw [encodeList]
    simp only [List.length_cons, ih]
    omega

/-- Nothing is written but digits of the alphabet and equals signs. -/
theorem eq_or_exists_of_mem_encode {bytes : List UInt8} {x : Char}
    (h : x ∈ (encode bytes).toList) : x = '=' ∨ ∃ n, x = digit n := by
  rw [encode, String.toList_ofList] at h
  induction bytes using encodeList.induct with
  | case1 => cases h
  | case2 a =>
    simp only [encodeList, List.mem_cons, List.not_mem_nil, or_false] at h
    rcases h with rfl | rfl | rfl | rfl <;> first | exact .inl rfl | exact .inr ⟨_, rfl⟩
  | case3 a b =>
    simp only [encodeList, List.mem_cons, List.not_mem_nil, or_false] at h
    rcases h with rfl | rfl | rfl | rfl <;> first | exact .inl rfl | exact .inr ⟨_, rfl⟩
  | case4 a b c rest ih =>
    simp only [encodeList, List.mem_cons] at h
    rcases h with rfl | rfl | rfl | rfl | h
    · exact .inr ⟨_, rfl⟩
    · exact .inr ⟨_, rfl⟩
    · exact .inr ⟨_, rfl⟩
    · exact .inr ⟨_, rfl⟩
    · exact ih h

/-- An encoded text is printable ASCII, so it can stand in a header and in markup as it is. -/
theorem isPrintable_encode {bytes : List UInt8} {x : Char} (h : x ∈ (encode bytes).toList) :
    ' ' ≤ x ∧ x ≤ '~' := by
  rcases eq_or_exists_of_mem_encode h with rfl | ⟨n, rfl⟩
  · decide
  · exact isPrintable_digit n

end Fleet.Hash.Base64

/-! ### Bytes of texts -/

namespace Fleet.Text

/-- Digits are written as one byte each. -/
theorem length_utf8_of_isDigit {cs : List Char} (h : ∀ c ∈ cs, c.isDigit = true) :
    (utf8 cs).length = cs.length := by
  induction cs with
  | nil => rfl
  | cons c rest ih =>
    have hdigit := h c List.mem_cons_self
    rw [Char.isDigit, Bool.and_eq_true, decide_eq_true_eq, decide_eq_true_eq] at hdigit
    have hsize : c.utf8Size = 1 := by
      have hle : c.val ≤ 0x7F := UInt32.le_trans hdigit.2 (by decide)
      exact if_pos hle
    rw [utf8, List.flatMap_cons, List.length_append, String.length_utf8EncodeChar, hsize,
      List.length_cons, ← utf8, ih fun x hx => h x (List.mem_cons_of_mem _ hx), Nat.add_comm]

end Fleet.Text
