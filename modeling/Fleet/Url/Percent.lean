import Fleet.Text.Digits
import Fleet.Text.Utf8

/-!
# `Fleet.Url.Percent`: percent-encoding

A character that may not stand for itself at some place of an address is written as its
bytes, each as a percent sign and two hexadecimal digits. Which characters these are depends
on the place, so a set of characters is a test, and each set adds a few characters to a
smaller one. Decoding acts on bytes and leaves a percent sign without two digits alone.
-/

set_option autoImplicit false

namespace Fleet.Url

open Fleet.Text

/-! ### Sets of characters that are encoded -/

/-- Controls and everything outside ASCII. -/
def controlSet (c : Char) : Bool := c.toNat < 0x20 || 0x7F ≤ c.toNat

/-- What is encoded in a fragment. -/
def fragmentSet (c : Char) : Bool := controlSet c || [' ', '"', '<', '>', '\x60'].contains c

/-- What is encoded in a query. -/
def querySet (c : Char) : Bool := controlSet c || [' ', '"', '#', '<', '>'].contains c

/-- What is encoded in the query of a special scheme. -/
def specialQuerySet (c : Char) : Bool := querySet c || c = '\x27'

/-- What is encoded in a path. -/
def pathSet (c : Char) : Bool := fragmentSet c || ['#', '?', '\x7b', '\x7d'].contains c

/-- What is encoded in a user name or password. -/
def userinfoSet (c : Char) : Bool :=
  pathSet c || ['/', ':', ';', '=', '@', '[', '\\', ']', '^', '|'].contains c

/-- What is encoded in a piece of a path that is appended as a whole. -/
def segmentSet (c : Char) : Bool := pathSet c || ['/', '%', '\\'].contains c

/-- Whether a character is a letter or digit of ASCII. -/
def isAlnum (c : Char) : Bool :=
  ('a' ≤ c && c ≤ 'z') || ('A' ≤ c && c ≤ 'Z') || ('0' ≤ c && c ≤ '9')

/-- Everything but the unreserved characters. -/
def reservedSet (c : Char) : Bool := !(isAlnum c || ['-', '_', '.', '~'].contains c)

/-- What is encoded in the key of an object, which keeps its separators. -/
def keySet (c : Char) : Bool := reservedSet c && c ≠ '/'

/-! ### Encoding and decoding -/

/-- The written form of a byte. -/
def percentByte (b : UInt8) : List Char :=
  ['%', hexUpper (b.toNat / 16), hexUpper (b.toNat % 16)]

/-- The written form of a character. -/
def percentChar (set : Char → Bool) (c : Char) : List Char :=
  if set c then (String.utf8EncodeChar c).flatMap percentByte else [c]

/-- The written form of a list of characters. -/
def percentEncode (set : Char → Bool) (cs : List Char) : List Char :=
  cs.flatMap (percentChar set)

/-- The written form of a text. -/
def percentText (set : Char → Bool) (s : String) : String :=
  String.ofList (percentEncode set s.toList)

/-- The value of a byte that is a hexadecimal digit. -/
def hexByte? (b : UInt8) : Option Nat := hexValue? (Char.ofNat b.toNat)

/-- The bytes that a written form stands for. -/
def percentDecode : List UInt8 → List UInt8
  | [] => []
  | b :: rest =>
    if b = 0x25 then
      match rest with
      | high :: low :: tail =>
        match hexByte? high, hexByte? low with
        | some h, some l => UInt8.ofNat (16 * h + l) :: percentDecode tail
        | _, _ => b :: percentDecode (high :: low :: tail)
      | short => b :: short
    else b :: percentDecode rest

end Fleet.Url
