/-!
# `Fleet.Text.Digits`: numbers as digits

Decimal numbers padded with zeros, hexadecimal digits in both cases, and reading runs of
decimal digits.
-/

set_option autoImplicit false

namespace Fleet.Text

/-- The decimal digits of `n`, with zeros in front up to `width` characters. -/
def padded (width n : Nat) : String :=
  let digits := Nat.repr n
  String.ofList (List.replicate (width - digits.length) '0') ++ digits

/-- The decimal text of an integer, with a minus sign in front of negative ones. -/
def intText (i : Int) : String :=
  if i < 0 then "-" ++ Nat.repr i.natAbs else Nat.repr i.natAbs

def digitValue? (c : Char) : Option Nat :=
  if '0' ≤ c ∧ c ≤ '9' then some (c.toNat - '0'.toNat) else none

/-- The number written by decimal digits, or `none` if there is a character that is no digit.
The empty list is zero. -/
def readDigits (cs : List Char) : Option Nat :=
  cs.foldlM (fun n c => (digitValue? c).map (10 * n + ·)) 0

/-- Exactly `k` decimal digits from the front: their value and the rest. -/
def takeDigits? (k : Nat) (cs : List Char) : Option (Nat × List Char) :=
  if (cs.take k).length = k then (readDigits (cs.take k)).map (·, cs.drop k) else none

/-- The upper-case hexadecimal digit of a number below sixteen. -/
def hexUpper (n : Nat) : Char :=
  if n < 10 then Char.ofNat (48 + n) else Char.ofNat (55 + n)

/-- The lower-case hexadecimal digit of a number below sixteen. -/
def hexLower (n : Nat) : Char :=
  if n < 10 then Char.ofNat (48 + n) else Char.ofNat (87 + n)

/-- The value of a hexadecimal digit in either case. -/
def hexValue? (c : Char) : Option Nat :=
  if '0' ≤ c ∧ c ≤ '9' then some (c.toNat - 48)
  else if 'a' ≤ c ∧ c ≤ 'f' then some (c.toNat - 87)
  else if 'A' ≤ c ∧ c ≤ 'F' then some (c.toNat - 55)
  else none

/-- The hexadecimal digits of `n` in lower case, without leading zeros. -/
def hexDigits (n : Nat) : List Char :=
  if n < 16 then [hexLower n] else hexDigits (n / 16) ++ [hexLower (n % 16)]

/-- The text of bytes as pairs of lower-case hexadecimal digits. -/
def hexText (bytes : List UInt8) : String :=
  String.ofList (bytes.flatMap fun b => [hexLower (b.toNat / 16), hexLower (b.toNat % 16)])

end Fleet.Text
