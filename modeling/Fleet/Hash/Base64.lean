/-!
# `Fleet.Hash.Base64`: bytes as letters and digits

Three bytes are written as four characters of an alphabet of 64, and equals signs fill the
last group. Reading refuses every other form: a missing or misplaced equals sign, a character
outside the alphabet, and bits behind the last byte that are not zero. So reading accepts
exactly what writing produces.
-/

set_option autoImplicit false

namespace Fleet.Hash.Base64

/-- The character for a value below 64. -/
def digit (n : Nat) : Char :=
  if n < 26 then Char.ofNat (65 + n)
  else if n < 52 then Char.ofNat (71 + n)
  else if n < 62 then Char.ofNat (n - 4)
  else if n = 62 then '+'
  else '/'

def value? (c : Char) : Option Nat :=
  if 'A' ≤ c ∧ c ≤ 'Z' then some (c.toNat - 65)
  else if 'a' ≤ c ∧ c ≤ 'z' then some (c.toNat - 71)
  else if '0' ≤ c ∧ c ≤ '9' then some (c.toNat + 4)
  else if c = '+' then some 62
  else if c = '/' then some 63
  else none

def encodeList : List UInt8 → List Char
  | [] => []
  | [a] => [digit (a.toNat / 4), digit (a.toNat % 4 * 16), '=', '=']
  | [a, b] =>
    [digit (a.toNat / 4), digit (a.toNat % 4 * 16 + b.toNat / 16), digit (b.toNat % 16 * 4), '=']
  | a :: b :: c :: rest =>
    digit (a.toNat / 4) :: digit (a.toNat % 4 * 16 + b.toNat / 16)
      :: digit (b.toNat % 16 * 4 + c.toNat / 64) :: digit (c.toNat % 64) :: encodeList rest

def encode (bytes : List UInt8) : String := String.ofList (encodeList bytes)

/-- The bytes of a last group of four characters. -/
def decodeLast? (p q r s : Char) : Option (List UInt8) := do
  let a ← value? p
  let b ← value? q
  let first := UInt8.ofNat (a * 4 + b / 16)
  if r = '=' ∧ s = '=' then
    if b % 16 = 0 then some [first] else none
  else
    let c ← value? r
    let second := UInt8.ofNat (b % 16 * 16 + c / 4)
    if s = '=' then
      if c % 4 = 0 then some [first, second] else none
    else
      let d ← value? s
      some [first, second, UInt8.ofNat (c % 4 * 64 + d)]

/-- The bytes that a list of characters stands for. -/
def decodeList? : List Char → Option (List UInt8)
  | [] => some []
  | [p, q, r, s] => decodeLast? p q r s
  | p :: q :: r :: s :: rest =>
    if r = '=' ∨ s = '=' then none
    else do pure ((← decodeLast? p q r s) ++ (← decodeList? rest))
  | _ => none

def decode? (s : String) : Option (List UInt8) := decodeList? s.toList

end Fleet.Hash.Base64
