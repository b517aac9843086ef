import Fleet.Text.CaseTable

/-!
# `Fleet.Text.Lowercase`: full Unicode lower-casing

Each character is replaced by its full lower-case form. Two characters need more than a
look-up: U+0130 becomes two characters, and a capital sigma becomes the final form U+03C2
when it ends a word, that is, when a cased character stands before it and none after it,
case-ignorable characters between them not counting.
-/

set_option autoImplicit false

namespace Fleet.Text

/-- The image of a code point under the simple lower-case mapping. -/
def lowerCodePoint (n : Nat) : List CaseRun → Nat
  | [] => n
  | run :: rest =>
    if n < run.first then n
    else if n ≤ run.last && (n - run.first) % run.stride == 0 then
      ((n : Int) + run.shift).toNat
    else lowerCodePoint n rest

/-- The lower-case form of a character without regard to its neighbours. -/
def lowerChar (c : Char) : List Char :=
  if c.toNat < 0x80 then
    if 'A' ≤ c ∧ c ≤ 'Z' then [Char.ofNat (c.toNat + 32)] else [c]
  else if c.toNat = 0x130 then ['i', '\u0307']
  else [Char.ofNat (lowerCodePoint c.toNat lowercaseRuns)]

/-- Whether a cased character comes next, case-ignorable characters skipped. -/
def casedNext : List Char → Bool
  | [] => false
  | c :: rest =>
    if inRanges c.toNat caseIgnorableRanges then casedNext rest
    else inRanges c.toNat casedRanges

/-- Lowers the characters of `cs`, of which `before` holds the preceding ones, the nearest
first. -/
def lowerAfter (before : List Char) : List Char → List Char
  | [] => []
  | c :: rest =>
    let image :=
      if c.toNat = 0x3A3 then
        if casedNext before && !casedNext rest then ['\u03C2'] else ['\u03C3']
      else lowerChar c
    image ++ lowerAfter (c :: before) rest

/-- The lower-case form of a text. -/
def lower (s : String) : String := String.ofList (lowerAfter [] s.toList)

end Fleet.Text
