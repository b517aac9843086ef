/-!
# `Fleet.Text.Blank`: white space, trimming and blank text

A character is blank when it has the Unicode property White_Space. `trim` drops blank
characters from both ends of a text; a text is blank when nothing is left.
-/

set_option autoImplicit false

namespace Fleet.Text

/-- Whether a character has the property White_Space. -/
def isBlank (c : Char) : Bool :=
  let n := c.toNat
  (9 ≤ n && n ≤ 13) || n == 0x20 || n == 0x85 || n == 0xA0 || n == 0x1680
    || (0x2000 ≤ n && n ≤ 0x200A) || n == 0x2028 || n == 0x2029 || n == 0x202F
    || n == 0x205F || n == 0x3000

/-- The characters from the first that fails the test to the last that fails it. -/
def trimChars (drop : Char → Bool) (cs : List Char) : List Char :=
  ((cs.dropWhile drop).reverse.dropWhile drop).reverse

/-- A text without the blank characters at its two ends. -/
def trim (s : String) : String := String.ofList (trimChars isBlank s.toList)

/-- Whether a text has no character besides blank ones. -/
def isBlankText (s : String) : Bool := s.toList.all isBlank

end Fleet.Text
