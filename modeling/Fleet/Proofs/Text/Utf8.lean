import Fleet.Text.Utf8

/-!
# `Fleet.Proofs.Text.Utf8`: characters are read back from their bytes

A character has one to four bytes, by its number. The lemmas `decodeStep_one` to
`decodeStep_four` read each form, and `decodeLossy_utf8` says that reading undoes writing. So
different texts have different bytes (`utf8Text_injective`).
-/

set_option autoImplicit false

namespace Fleet.Text

variable {v : Nat} {rest : List UInt8}

/-! ### Single bytes -/

/-- A number below 256 is kept by the byte that is made of it. -/
theorem toNat_byte {n : Nat} (h : n < 256) : (UInt8.ofNat n).toNat = n := by
  rw [UInt8.toNat_ofNat', Nat.mod_eq_of_lt h]

/-- A byte that continues a character carries the six bits that were put into it. -/
theorem lowSix_byte (v : Nat) : lowSix (UInt8.ofNat (v % 64 + 128)) = v % 64 := by
  rw [lowSix, toNat_byte (by omega)]
  omega

/-- The bytes that continue a character are known as such. -/
theorem isContinuation_byte (v : Nat) : isContinuation (UInt8.ofNat (v % 64 + 128)) = true := by
  have hv := toNat_byte (n := v % 64 + 128) (by omega)
  simp only [isContinuation, UInt8.le_iff_toNat_le, UInt8.reduceToNat, hv, Bool.and_eq_true,
    decide_eq_true_eq]
  omega

/-- The second byte is bounded below for the smallest numbers, and above where the numbers lie that
are no characters. -/
theorem secondOfThree_byte (hlow : 2047 < v) (hgap : v < 0xD800 ∨ 0xDFFF < v) (hhigh : v ≤ 65535) :
    secondOfThree (UInt8.ofNat (v / 4096 % 16 + 224)) (UInt8.ofNat (v / 64 % 64 + 128)) = true := by
  have hfirst := toNat_byte (n := v / 4096 % 16 + 224) (by omega)
  have hsecond := toNat_byte (n := v / 64 % 64 + 128) (by omega)
  rw [secondOfThree, isContinuation_byte]
  simp only [beq_iff_eq, ← UInt8.toNat_inj, UInt8.le_iff_toNat_le, UInt8.reduceToNat, hfirst,
    hsecond]
  split
  · simp only [Bool.and_eq_true, decide_eq_true_eq]
    omega
  · split
    · simp only [Bool.and_eq_true, decide_eq_true_eq]
      omega
    · rfl

/-- The second byte is bounded below for the smallest numbers and above for the greatest. -/
theorem secondOfFour_byte (hlow : 65535 < v) (hhigh : v < 0x110000) :
    secondOfFour (UInt8.ofNat (v / 262144 % 8 + 240)) (UInt8.ofNat (v / 4096 % 64 + 128))
      = true := by
  have hfirst := toNat_byte (n := v / 262144 % 8 + 240) (by omega)
  have hsecond := toNat_byte (n := v / 4096 % 64 + 128) (by omega)
  rw [secondOfFour, isContinuation_byte]
  simp only [beq_iff_eq, ← UInt8.toNat_inj, UInt8.le_iff_toNat_le, UInt8.reduceToNat, hfirst,
    hsecond]
  split
  · simp only [Bool.and_eq_true, decide_eq_true_eq]
    omega
  · split
    · simp only [Bool.and_eq_true, decide_eq_true_eq]
      omega
    · rfl

/-! ### Characters -/

/-- A character up to 0x7F is read from the byte that it is. -/
theorem decodeStep_one (h : v ≤ 127) :
    decodeStep (UInt8.ofNat v) rest = (some (Char.ofNat v), 0) := by
  have hfirst := toNat_byte (n := v) (by omega)
  have hascii : UInt8.ofNat v < 0x80 := by
    rw [UInt8.lt_iff_toNat_lt, hfirst]
    exact Nat.lt_succ_of_le h
  unfold decodeStep
  rw [if_pos hascii, hfirst]

/-- A character up to 0x7FF is read from two bytes. -/
theorem decodeStep_two (hlow : 127 < v) (hhigh : v ≤ 2047) :
    decodeStep (UInt8.ofNat (v / 64 % 32 + 192)) (UInt8.ofNat (v % 64 + 128) :: rest)
      = (some (Char.ofNat v), 1) := by
  have hfirst := toNat_byte (n := v / 64 % 32 + 192) (by omega)
  have hsum : (v / 64 % 32 + 192) % 32 * 64 + v % 64 = v := by omega
  simp only [decodeStep, UInt8.lt_iff_toNat_lt, UInt8.le_iff_toNat_le, UInt8.reduceToNat, hfirst,
    isContinuation_byte, lowSix_byte, hsum, Bool.and_eq_true, decide_eq_true_eq]
  rw [if_neg (by omega), if_pos (by omega), if_pos trivial]

/-- A character up to 0xFFFF is read from three bytes. The halves of surrogate pairs lie in this
range and are no characters. -/
theorem decodeStep_three (hlow : 2047 < v) (hgap : v < 0xD800 ∨ 0xDFFF < v) (hhigh : v ≤ 65535) :
    decodeStep (UInt8.ofNat (v / 4096 % 16 + 224)) (UInt8.ofNat (v / 64 % 64 + 128) ::
      UInt8.ofNat (v % 64 + 128) :: rest) = (some (Char.ofNat v), 2) := by
  have hfirst := toNat_byte (n := v / 4096 % 16 + 224) (by omega)
  have hsum : (v / 4096 % 16 + 224) % 16 * 4096 + v / 64 % 64 * 64 + v % 64 = v := by omega
  simp only [decodeStep, UInt8.lt_iff_toNat_lt, UInt8.le_iff_toNat_le, UInt8.reduceToNat, hfirst,
    secondOfThree_byte hlow hgap hhigh, isContinuation_byte, lowSix_byte, hsum, Bool.and_eq_true,
    decide_eq_true_eq]
  rw [if_neg (by omega), if_neg (by omega), if_pos (by omega), if_pos trivial, if_pos trivial]

/-- A character above 0xFFFF is read from four bytes. -/
theorem decodeStep_four (hlow : 65535 < v) (hhigh : v < 0x110000) :
    decodeStep (UInt8.ofNat (v / 262144 % 8 + 240)) (UInt8.ofNat (v / 4096 % 64 + 128) ::
      UInt8.ofNat (v / 64 % 64 + 128) :: UInt8.ofNat (v % 64 + 128) :: rest)
      = (some (Char.ofNat v), 3) := by
  have hfirst := toNat_byte (n := v / 262144 % 8 + 240) (by omega)
  have hsum : (v / 262144 % 8 + 240) % 8 * 262144 + v / 4096 % 64 * 4096 + v / 64 % 64 * 64
      + v % 64 = v := by omega
  simp only [decodeStep, UInt8.lt_iff_toNat_lt, UInt8.le_iff_toNat_le, UInt8.reduceToNat, hfirst,
    secondOfFour_byte hlow hhigh, isContinuation_byte, lowSix_byte, hsum, Bool.and_eq_true,
    decide_eq_true_eq]
  rw [if_neg (by omega), if_neg (by omega), if_neg (by omega), if_pos (by omega), if_pos trivial,
    if_pos trivial, if_pos trivial]

/-- The bytes of a character are read as that character, whatever follows them. -/
theorem decodePieces_encode (c : Char) (rest : List UInt8) :
    decodePieces (String.utf8EncodeChar c ++ rest) = some c :: decodePieces rest := by
  have hc : Char.ofNat c.val.toNat = c := c.ofNat_toNat
  have hvalid : c.val.toNat < 0xD800 ∨ 0xDFFF < c.val.toNat ∧ c.val.toNat < 0x110000 := c.valid
  fun_cases String.utf8EncodeChar c with
  | case1 v h =>
    rw [List.cons_append, decodePieces, decodeStep_one h, hc]
    rfl
  | case2 v hlow hhigh =>
    simp only [List.cons_append]
    rw [decodePieces, decodeStep_two (by omega) hhigh, hc]
    rfl
  | case3 v _ hlow hhigh =>
    simp only [List.cons_append]
    rw [decodePieces, decodeStep_three (by omega) (by omega) hhigh, hc]
    rfl
  | case4 v _ _ hlow =>
    simp only [List.cons_append]
    rw [decodePieces, decodeStep_four (by omega) (by omega), hc]
    rfl

/-- Reading undoes writing. -/
theorem decodeLossy_utf8 (cs : List Char) : decodeLossy (utf8 cs) = cs := by
  rw [decodeLossy]
  induction cs with
  | nil => rw [utf8, List.flatMap_nil, decodePieces, List.map_nil]
  | cons c cs ih =>
    rw [utf8, List.flatMap_cons, decodePieces_encode, List.map_cons, ← utf8, ih, Option.getD_some]

/-- Different characters have different bytes, so nothing is lost when texts are signed or hashed as
bytes. -/
theorem utf8_injective {cs cs' : List Char} (h : utf8 cs = utf8 cs') : cs = cs' := by
  rw [← decodeLossy_utf8 cs, h, decodeLossy_utf8]

/-- Different texts have different bytes. -/
theorem utf8Text_injective {s s' : String} (h : utf8Text s = utf8Text s') : s = s' :=
  String.toList_inj.1 (utf8_injective h)

end Fleet.Text
