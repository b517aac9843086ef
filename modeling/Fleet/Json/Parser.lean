import Fleet.Json.Basic
import Fleet.Text.Digits

/-!
# `Fleet.Json.Parser`: reading JSON text

A reader takes the characters that are left and gives a value with the characters after it.
Values nest at most `maxDepth` deep. The recursion is bounded by the length of the text: each
value, element or member takes at least one character.
-/

set_option autoImplicit false

namespace Fleet.Json

open Fleet.Text

/-- The greatest number of arrays and objects around a value. -/
def maxDepth : Nat := 127

/-- Whether a character may stand between the parts of a text. -/
def isSpace (c : Char) : Bool := c == ' ' || c == '\n' || c == '\r' || c == '\t'

/-- The text without the spaces in front. -/
def skipSpace (cs : List Char) : List Char := cs.dropWhile isSpace

/-- The number written by four hexadecimal digits, and the rest. -/
def hexQuad? : List Char → Option (Nat × List Char)
  | a :: b :: c :: d :: rest => do
    let a ← hexValue? a
    let b ← hexValue? b
    let c ← hexValue? c
    let d ← hexValue? d
    some (((a * 16 + b) * 16 + c) * 16 + d, rest)
  | _ => none

/-- The character of an escape `\u`, whose first four digits are `n`; a high surrogate takes a
low one from the text. -/
def unicodeEscape? (n : Nat) (rest : List Char) : Option (Char × List Char) :=
  if 0xD800 ≤ n ∧ n ≤ 0xDBFF then
    match rest with
    | '\\' :: 'u' :: more => do
      let (low, rest) ← hexQuad? more
      if 0xDC00 ≤ low ∧ low ≤ 0xDFFF then
        some (Char.ofNat ((n - 0xD800) * 1024 + (low - 0xDC00) + 0x10000), rest)
      else none
    | _ => none
  else if 0xDC00 ≤ n ∧ n ≤ 0xDFFF then none
  else some (Char.ofNat n, rest)

/-- The character of an escape, `cs` being what follows the backslash. -/
def escape? : List Char → Option (Char × List Char)
  | '"' :: rest => some ('"', rest)
  | '\\' :: rest => some ('\\', rest)
  | '/' :: rest => some ('/', rest)
  | 'b' :: rest => some (Char.ofNat 8, rest)
  | 'f' :: rest => some (Char.ofNat 12, rest)
  | 'n' :: rest => some ('\n', rest)
  | 'r' :: rest => some ('\r', rest)
  | 't' :: rest => some ('\t', rest)
  | 'u' :: rest => (hexQuad? rest).bind fun (n, rest) => unicodeEscape? n rest
  | _ => none

/-- The characters up to the closing quote, the nearest last in `done`, and the rest. -/
def textBody : (fuel : Nat) → (done : List Char) → List Char → Option (String × List Char)
  | 0, _, _ => none
  | fuel + 1, done, cs =>
    match cs with
    | [] => none
    | '"' :: rest => some (String.ofList done.reverse, rest)
    | '\\' :: rest => (escape? rest).bind fun (c, rest) => textBody fuel (c :: done) rest
    | c :: rest => if c.toNat < 32 then none else textBody fuel (c :: done) rest

/-- A text, whose opening quote has been read. -/
def text? (cs : List Char) : Option (String × List Char) := textBody (cs.length + 1) [] cs

/-- The digits in front of a text and what follows them. -/
def spanDigits (cs : List Char) : List Char × List Char :=
  (cs.takeWhile (fun c => (digitValue? c).isSome), cs.dropWhile (fun c => (digitValue? c).isSome))

/-- The fraction and the exponent of a number, both optional, and the rest. -/
def fractionAndExponent? (cs : List Char) : Option (List Char × List Char) := do
  let (fraction, cs) ← match cs with
    | '.' :: rest =>
      let (digits, rest) := spanDigits rest
      if digits.isEmpty then none else some ('.' :: digits, rest)
    | _ => some ([], cs)
  match cs with
  | e :: rest =>
    if e = 'e' ∨ e = 'E' then
      let (sign, rest) := match rest with
        | '+' :: rest => (['+'], rest)
        | '-' :: rest => (['-'], rest)
        | _ => ([], rest)
      let (digits, rest) := spanDigits rest
      if digits.isEmpty then none else some (fraction ++ e :: sign ++ digits, rest)
    else some (fraction, cs)
  | [] => some (fraction, cs)

/-- The value of a number: an integer if it has neither fraction nor exponent and fits 64
bits. Negative zero is no integer. -/
def numberValue (negative : Bool) (digits tail : List Char) : Json :=
  let asText := Json.real (String.ofList ((if negative then ['-'] else []) ++ digits ++ tail))
  if !tail.isEmpty then asText
  else match readDigits digits with
    | none => asText
    | some n =>
      if negative then (if n = 0 ∨ UInt64.size / 2 < n then asText else .int (-(n : Int)))
      else if n < UInt64.size then .int n else asText

/-- A number and the rest. A number has no needless leading zero. -/
def number? (cs : List Char) : Option (Json × List Char) := do
  let (negative, cs) := match cs with
    | '-' :: rest => (true, rest)
    | _ => (false, cs)
  let (digits, cs) := spanDigits cs
  if digits.isEmpty || (digits.length > 1 && digits.head? == some '0') then none
  else
    let (tail, rest) ← fractionAndExponent? cs
    some (numberValue negative digits tail, rest)

mutual

/-- A value and the rest, `depth` more arrays and objects being allowed around values. -/
def value? : (fuel depth : Nat) → List Char → Option (Json × List Char)
  | 0, _, _ => none
  | fuel + 1, depth, cs =>
    match skipSpace cs with
    | [] => none
    | '"' :: rest => (text? rest).map fun (s, rest) => (.str s, rest)
    | '[' :: rest =>
      match depth with
      | 0 => none
      | depth + 1 =>
        match skipSpace rest with
        | ']' :: rest => some (.arr [], rest)
        | rest => (items? fuel depth rest).map fun (vs, rest) => (.arr vs, rest)
    | '\x7b' :: rest =>
      match depth with
      | 0 => none
      | depth + 1 =>
        match skipSpace rest with
        | '\x7d' :: rest => some (.obj [], rest)
        | rest => (members? fuel depth rest).map fun (ms, rest) => (.obj ms, rest)
    | 'n' :: 'u' :: 'l' :: 'l' :: rest => some (.null, rest)
    | 't' :: 'r' :: 'u' :: 'e' :: rest => some (.bool true, rest)
    | 'f' :: 'a' :: 'l' :: 's' :: 'e' :: rest => some (.bool false, rest)
    | rest => number? rest

/-- The values of a list up to its closing bracket, and the rest. -/
def items? : (fuel depth : Nat) → List Char → Option (List Json × List Char)
  | 0, _, _ => none
  | fuel + 1, depth, cs => do
    let (v, rest) ← value? fuel depth cs
    match skipSpace rest with
    | ']' :: rest => some ([v], rest)
    | ',' :: rest => (items? fuel depth rest).map fun (vs, rest) => (v :: vs, rest)
    | _ => none

/-- The members of an object up to its closing brace, and the rest. -/
def members? : (fuel depth : Nat) → List Char → Option (List (String × Json) × List Char)
  | 0, _, _ => none
  | fuel + 1, depth, cs =>
    match skipSpace cs with
    | '"' :: rest => do
      let (name, rest) ← text? rest
      match skipSpace rest with
      | ':' :: rest =>
        let (v, rest) ← value? fuel depth rest
        match skipSpace rest with
        | '\x7d' :: rest => some ([(name, v)], rest)
        | ',' :: rest =>
          (members? fuel depth rest).map fun (ms, rest) => ((name, v) :: ms, rest)
        | _ => none
      | _ => none
    | _ => none

end

/-- Reads a text that holds exactly one value. -/
def parse? (s : String) : Option Json :=
  let cs := s.toList
  match value? (2 * cs.length + 2) maxDepth cs with
  | some (v, rest) => if (skipSpace rest).isEmpty then some v else none
  | none => none

end Fleet.Json
