import Fleet.Text.Digits
import Fleet.Text.PrintTable

/-!
# `Fleet.Text.Quoted`: text in quotes for diagnostics

A quoted text shows every character that has a visible form of its own and writes all others
as escapes, so that two different texts never look alike.
-/

set_option autoImplicit false

namespace Fleet.Text

/-- Whether a character is shown as it is: it is printable and does not attach to the one
before it. -/
def isShown (c : Char) : Bool :=
  !inRanges c.toNat unprintableRanges && !inRanges c.toNat graphemeExtendRanges

/-- The form of a character between double quotes. -/
def quoteChar (c : Char) : List Char :=
  if c = '\x00' then ['\\', '0']
  else if c = '\t' then ['\\', 't']
  else if c = '\r' then ['\\', 'r']
  else if c = '\n' then ['\\', 'n']
  else if c = '"' then ['\\', '"']
  else if c = '\\' then ['\\', '\\']
  else if isShown c then [c]
  else ['\\', 'u', '\x7b'] ++ hexDigits c.toNat ++ ['\x7d']

/-- A text between double quotes, with escapes. -/
def quoted (s : String) : String :=
  String.ofList ('"' :: s.toList.flatMap quoteChar ++ ['"'])

end Fleet.Text
