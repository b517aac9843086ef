import Fleet.Proofs.Text.Utf8
import Fleet.Url.Percent

/-!
# `Fleet.Proofs.Url.Percent`: percent signs are read back

A byte that is written with a percent sign is read back (`percentDecode_percentBytes`), and so is
whatever was written for a place where percent signs are encoded
(`percentDecode_percentEncode`). Writing for a path leaves what is written for one already
(`percentEncode_eq_self`, `pathSet_of_mem_percentEncode`).
-/

set_option autoImplicit false

namespace Fleet.Url

open Fleet.Text

variable {c : Char} {b : UInt8} {bs rest : List UInt8} {cs : List Char} {set : Char → Bool}

/-! ### Bytes of characters -/

/-- The bytes of two texts are those of the joined text. -/
theorem utf8_append (cs cs' : List Char) : utf8 (cs ++ cs') = utf8 cs ++ utf8 cs' :=
  List.flatMap_append

/-- A byte of ASCII is the only byte of its character. -/
theorem encode_of_ascii_mem (hb : b ∈ String.utf8EncodeChar c) (hascii : b.toNat < 128) :
    c.toNat = b.toNat := by
  fun_cases String.utf8EncodeChar c with
  | case1 v h =>
    rw [String.utf8EncodeChar, if_pos h, List.mem_singleton] at hb
    rw [hb, toNat_byte (by omega)]
    rfl
  | case2 v h h' =>
    rw [String.utf8EncodeChar, if_neg h, if_pos h'] at hb
    simp only [List.mem_cons, List.not_mem_nil, or_false] at hb
    rcases hb with rfl | rfl <;> rw [toNat_byte (by omega)] at hascii <;> omega
  | case3 v h h' h'' =>
    rw [String.utf8EncodeChar, if_neg h, if_neg h', if_pos h''] at hb
    simp only [List.mem_cons, List.not_mem_nil, or_false] at hb
    rcases hb with rfl | rfl | rfl <;> rw [toNat_byte (by omega)] at hascii <;> omega
  | case4 v h h' h'' =>
    rw [String.utf8EncodeChar, if_neg h, if_neg h', if_neg h''] at hb
    simp only [List.mem_cons, List.not_mem_nil, or_false] at hb
    rcases hb with rfl | rfl | rfl | rfl <;> rw [toNat_byte (by omega)] at hascii <;> omega

/-- No other character has the byte of a percent sign. -/
theorem percent_not_mem_encode (h : c ≠ '%') : 0x25 ∉ String.utf8EncodeChar c := fun hmem =>
  h (Char.toNat_inj.1 (encode_of_ascii_mem hmem (by decide)))

/-! ### Decoding -/

/-- A byte other than the percent sign stands for itself. -/
theorem percentDecode_cons_of_ne (h : b ≠ 0x25) (rest : List UInt8) :
    percentDecode (b :: rest) = b :: percentDecode rest := by
  rw [percentDecode.eq_def]
  exact if_neg h

/-- Bytes without a percent sign stand for themselves, in front of any rest. -/
theorem percentDecode_append_of_not_mem (h : 0x25 ∉ bs) (rest : List UInt8) :
    percentDecode (bs ++ rest) = bs ++ percentDecode rest := by
  induction bs with
  | nil => rfl
  | cons b bs ih =>
    obtain ⟨hb, hbs⟩ := List.ne_and_not_mem_of_not_mem_cons h
    rw [List.cons_append, percentDecode_cons_of_ne (Ne.symm hb), ih hbs, List.cons_append]

/-- The byte of a hexadecimal digit. -/
def hexByte (n : Nat) : UInt8 := UInt8.ofNat (hexUpper n).toNat

/-- A hexadecimal digit is read back as the number that it writes. -/
theorem hexByte?_hexByte {n : Nat} (h : n < 16) : hexByte? (hexByte n) = some n := by
  have hall : ∀ n : Fin 16, hexByte? (hexByte n) = some n.val := by decide
  exact hall ⟨n, h⟩

/-- An encoded byte is a percent sign and two hexadecimal digits. -/
theorem utf8_percentByte (b : UInt8) :
    utf8 (percentByte b) = [0x25, hexByte (b.toNat / 16), hexByte (b.toNat % 16)] := by
  have hall : ∀ n : Fin 16, String.utf8EncodeChar (hexUpper n) = [hexByte n] := by decide
  have hhigh : b.toNat / 16 < 16 := by have := b.toNat_lt; omega
  have hlow : b.toNat % 16 < 16 := by omega
  have hsign : String.utf8EncodeChar '%' = [0x25] := by decide
  rw [percentByte, utf8, List.flatMap_cons, List.flatMap_cons, List.flatMap_cons, List.flatMap_nil,
    hall ⟨_, hhigh⟩, hall ⟨_, hlow⟩, hsign]
  rfl

/-- An encoded byte is decoded to itself, in front of any rest. -/
theorem percentDecode_percentByte (b : UInt8) (rest : List UInt8) :
    percentDecode (utf8 (percentByte b) ++ rest) = b :: percentDecode rest := by
  have hhigh : b.toNat / 16 < 16 := by have := b.toNat_lt; omega
  have hbyte : 16 * (b.toNat / 16) + b.toNat % 16 = b.toNat := by omega
  rw [utf8_percentByte, List.cons_append, List.cons_append, List.cons_append, List.nil_append,
    percentDecode, if_pos rfl, hexByte?_hexByte hhigh, hexByte?_hexByte (by omega)]
  dsimp only
  rw [hbyte, UInt8.ofNat_toNat]

/-- Bytes that are written with percent signs are read back. -/
theorem percentDecode_percentBytes (bs rest : List UInt8) :
    percentDecode (utf8 (bs.flatMap percentByte) ++ rest) = bs ++ percentDecode rest := by
  induction bs with
  | nil => rfl
  | cons b bs ih =>
    rw [List.flatMap_cons, utf8_append, List.append_assoc, percentDecode_percentByte, ih,
      List.cons_append]

/-- What is written where percent signs are encoded is read back. -/
theorem percentDecode_percentEncode (hset : set '%' = true) (cs : List Char) :
    percentDecode (utf8 (percentEncode set cs)) = utf8 cs := by
  induction cs with
  | nil => rfl
  | cons c cs ih =>
    rw [percentEncode, List.flatMap_cons, utf8_append, percentChar]
    split
    · rw [percentDecode_percentBytes, ← percentEncode, ih]
      rfl
    · next hplain =>
      have hne : c ≠ '%' := fun hc => hplain (hc ▸ hset)
      rw [← percentEncode, utf8, List.flatMap_cons, List.flatMap_nil, List.append_nil,
        percentDecode_append_of_not_mem (percent_not_mem_encode hne), ih]
      rfl

/-! ### Encoding -/

/-- A text is encoded character by character. -/
theorem percentEncode_cons (set : Char → Bool) (c : Char) (cs : List Char) :
    percentEncode set (c :: cs) = percentChar set c ++ percentEncode set cs :=
  List.flatMap_cons

/-- A text without characters to be encoded is written as it is. -/
theorem percentEncode_eq_self (h : ∀ c ∈ cs, set c = false) : percentEncode set cs = cs := by
  induction cs with
  | nil => rfl
  | cons c cs ih =>
    have hc : percentChar set c = [c] := by
      rw [percentChar, h c List.mem_cons_self]
      rfl
    rw [percentEncode_cons, hc, ih fun x hx => h x (List.mem_cons_of_mem _ hx)]
    rfl

/-- A written character is one that is not encoded, a percent sign or a hexadecimal digit. -/
theorem of_mem_percentEncode (h : c ∈ percentEncode set cs) :
    (c ∈ cs ∧ set c = false) ∨ c = '%' ∨ ∃ n < 16, c = hexUpper n := by
  obtain ⟨d, hd, hc⟩ := List.mem_flatMap.1 h
  rw [percentChar] at hc
  split at hc
  · obtain ⟨b, -, hc⟩ := List.mem_flatMap.1 hc
    have hb := b.toNat_lt
    simp only [percentByte, List.mem_cons, List.not_mem_nil, or_false] at hc
    rcases hc with rfl | rfl | rfl
    · exact .inr (.inl rfl)
    · exact .inr (.inr ⟨_, by omega, rfl⟩)
    · exact .inr (.inr ⟨_, by omega, rfl⟩)
  · next hplain =>
    rw [List.mem_singleton.1 hc]
    exact .inl ⟨hd, eq_false_of_ne_true hplain⟩

/-- The digits of an encoded byte are not encoded again in a path. -/
theorem pathSet_hexUpper {n : Nat} (h : n < 16) : pathSet (hexUpper n) = false := by
  have hall : ∀ n : Fin 16, pathSet (hexUpper n) = false := by decide
  exact hall ⟨n, h⟩

/-- What is written for a path has nothing in it that would be encoded in one. -/
theorem pathSet_of_mem_percentEncode (h : c ∈ percentEncode pathSet cs) : pathSet c = false := by
  rcases of_mem_percentEncode h with ⟨-, hc⟩ | rfl | ⟨n, hn, rfl⟩
  · exact hc
  · decide
  · exact pathSet_hexUpper hn

end Fleet.Url
