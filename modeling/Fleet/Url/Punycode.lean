import Fleet.Text.Search

/-!
# `Fleet.Url.Punycode`: labels outside ASCII in letters and digits

`encode` writes a list of characters in letters, digits and hyphens: the ASCII characters
first, then, behind a hyphen, for each other character in ascending order how many steps of
inserting lie between it and the one before. Each number is written in a base with
thresholds that adapt to the sizes of the numbers before it. `decode?` reads the form back.
-/

set_option autoImplicit false

namespace Fleet.Url.Punycode

open Fleet.Text

/-- The first code point that is not ASCII. -/
def firstPoint : Nat := 128

/-- The bias before the first number. -/
def firstBias : Nat := 72

/-- The threshold of the digit at position `k`. -/
def threshold (bias k : Nat) : Nat := Nat.max 1 (Nat.min 26 (k - bias))

/-- A threshold is never zero, so a digit always carries some of the number that it stands for and
the writing of a number ends. -/
theorem one_le_threshold (bias k : Nat) : 1 ≤ threshold bias k := Nat.le_max_left ..

/-- Divides by 35 while the value is above 455, counting 36 for each division. -/
def adaptSteps (delta : Nat) : Nat :=
  if 455 < delta then 36 + adaptSteps (delta / 35) else 36 * delta / (delta + 38)
termination_by delta
decreasing_by omega

/-- The bias after a number, the `count`-th that was written. -/
def adapt (delta count : Nat) (isFirst : Bool) : Nat :=
  let scaled := if isFirst then delta / 700 else delta / 2
  adaptSteps (scaled + scaled / count)

/-- The digit for a value below 36. -/
def digit (n : Nat) : Char := if n < 26 then Char.ofNat (97 + n) else Char.ofNat (22 + n)

/-- The value of a digit. -/
def digitValue? (c : Char) : Option Nat :=
  if 'a' ≤ c ∧ c ≤ 'z' then some (c.toNat - 97)
  else if 'A' ≤ c ∧ c ≤ 'Z' then some (c.toNat - 65)
  else if '0' ≤ c ∧ c ≤ '9' then some (c.toNat - 22)
  else none

/-- The digits of a number, from position `k` on. -/
def digits (bias k q : Nat) : List Char :=
  let t := threshold bias k
  if q < t then [digit q]
  else digit (t + (q - t) % (36 - t)) :: digits bias (k + 36) ((q - t) / (36 - t))
termination_by q
decreasing_by
  rename_i h
  have h₁ := one_le_threshold bias k
  have h₂ : (q - t) / (36 - t) ≤ q - t := Nat.div_le_self ..
  simp only [t] at h h₂ ⊢
  omega

/-! ### Writing -/

/-- What is known while the characters outside ASCII are written. -/
structure Progress where
  /-- The steps since the last number. -/
  delta : Nat := 0
  bias : Nat := firstBias
  /-- How many characters are written. -/
  handled : Nat
  /-- How many of them are ASCII. -/
  basic : Nat
  out : List Char := []

/-- Passes one character of the text while code point `point` is being inserted. -/
def Progress.pass (point : Nat) (p : Progress) (c : Nat) : Progress :=
  if c < point then { p with delta := p.delta + 1 }
  else if c = point then
    { p with
      delta := 0
      bias := adapt p.delta (p.handled + 1) (p.handled == p.basic)
      handled := p.handled + 1
      out := p.out ++ digits p.bias 36 p.delta }
  else p

/-- Inserts all occurrences of the code points of a list, `previous` being the next one that
could come. -/
def insertPoints (text : List Nat) (p : Progress) (previous : Nat) : List Nat → Progress
  | [] => p
  | point :: rest =>
    let start := { p with delta := p.delta + (point - previous) * (p.handled + 1) }
    let after := text.foldl (Progress.pass point) start
    insertPoints text { after with delta := after.delta + 1 } (point + 1) rest

/-- The written form of a list of characters. -/
def encode (cs : List Char) : List Char :=
  let text := cs.map Char.toNat
  let basic := cs.filter fun c => c.toNat < firstPoint
  let points := (text.filter fun n => firstPoint ≤ n).eraseDups.mergeSort
  let p := insertPoints text { handled := basic.length, basic := basic.length } firstPoint points
  basic ++ (if basic.isEmpty then [] else ['-']) ++ p.out

/-! ### Reading -/

/-- Reads one number from position `k` on: the number and the rest. -/
def readNumber (bias k weight value : Nat) : List Char → Option (Nat × List Char)
  | [] => none
  | c :: rest => do
    let d ← digitValue? c
    let t := threshold bias k
    let value := value + d * weight
    if d < t then pure (value, rest)
    else readNumber bias (k + 36) (weight * (36 - t)) value rest

/-- Reads the characters outside ASCII and inserts them into `out`. -/
def readPoints (fuel bias point index : Nat) (out : List Nat) (cs : List Char) :
    Option (List Nat) :=
  match fuel, cs with
  | _, [] => some out
  | 0, _ => none
  | fuel + 1, cs => do
    let (delta, rest) ← readNumber bias 36 1 0 cs
    let size := out.length + 1
    let total := index + delta
    let point := point + total / size
    let place := total % size
    let bias := adapt delta size (index == 0)
    let out := out.take place ++ point :: out.drop place
    if 0x10FFFF < point then none else readPoints fuel bias point (place + 1) out rest

/-- The characters that a written form stands for. -/
def decode? (cs : List Char) : Option (List Char) :=
  let tail := (cs.reverse.takeWhile (· ≠ '-')).reverse
  let basic := (cs.take (cs.length - tail.length)).dropLast
  (readPoints cs.length firstBias firstPoint 0 (basic.map Char.toNat) tail).map
    (List.map Char.ofNat)

end Fleet.Url.Punycode
