import Fleet.Text.Lowercase
import Fleet.Text.PrintTable
import Fleet.Text.Search
import Fleet.Url.Percent
import Fleet.Url.Punycode

/-!
# `Fleet.Url.Host`: the hosts of addresses

A host is a name or a number of the fourth or sixth version of the internet protocol. Names
in addresses of the special schemes are lowered and brought into ASCII; a name that ends in
a number has to be a number of the fourth version, which is written with four decimal parts.
-/

set_option autoImplicit false

namespace Fleet.Url

open Fleet.Text

/-- The machine that an address names. -/
inductive Host where
  | name (text : String)
  /-- A number of four bytes. -/
  | ipv4 (number : Nat)
  /-- Eight numbers of two bytes. -/
  | ipv6 (groups : List Nat)
deriving DecidableEq, Repr, Inhabited

/-! ### Numbers of the fourth version -/

/-- The value of digits of a base, or `none` when one of them is none. -/
def readBase (base : Nat) (digits : List Char) : Option Nat :=
  digits.foldlM (fun n c => do
    let d ← hexValue? c
    if d < base then pure (base * n + d) else none) 0

/-- A part of a number: hexadecimal after `0x`, octal after `0`, decimal otherwise. -/
def ipv4Part? : List Char → Option Nat
  | [] => none
  | '0' :: 'x' :: rest => readBase 16 rest
  | '0' :: 'X' :: rest => readBase 16 rest
  | '0' :: rest => readBase 8 rest
  | digits => readBase 10 digits

/-- The parts of a name, without the empty one after a dot at the end. -/
def nameParts (cs : List Char) : List (List Char) :=
  let parts := split '.' cs
  if 2 ≤ parts.length && parts.getLast? == some [] then parts.dropLast else parts

/-- Whether the last part of a name is a number. -/
def endsInNumber (cs : List Char) : Bool :=
  match (nameParts cs).getLast? with
  | none => false
  | some last =>
    (!last.isEmpty && last.all fun c => '0' ≤ c && c ≤ '9') || (ipv4Part? last).isSome

/-- The number with the given parts, the last of which fills the bytes that are left. -/
def joinParts (parts : List Nat) : Option Nat :=
  match parts.reverse with
  | [] => none
  | last :: front =>
    let left := Nat.pow 256 (4 - front.length)
    if front.all (· ≤ 255) && last < left then
      some ((front.reverse.foldl (fun n p => 256 * n + p) 0) * left + last)
    else none

/-- The number that a name stands for. -/
def parseIpv4 (cs : List Char) : Option Nat := do
  let parts := nameParts cs
  if 4 < parts.length then none
  else joinParts (← parts.mapM ipv4Part?)

/-- The four decimal parts of a number. -/
def ipv4Text (n : Nat) : String :=
  ".".intercalate ([n / 16777216, n / 65536 % 256, n / 256 % 256, n % 256].map Nat.repr)

/-! ### Numbers of the sixth version -/

/-- A group of one to four hexadecimal digits. -/
def ipv6Group? (cs : List Char) : Option Nat :=
  if cs.isEmpty || 4 < cs.length then none else readBase 16 cs

/-- A decimal part from 0 to 255 without a zero in front. -/
def decimalByte? (cs : List Char) : Option Nat := do
  let n ← readDigits cs
  if cs.isEmpty || 255 < n || (1 < cs.length && cs.head? == some '0') then none else some n

/-- The two groups that four decimal parts stand for. -/
def dottedGroups? (cs : List Char) : Option (List Nat) := do
  match ← (split '.' cs).mapM decimalByte? with
  | [a, b, c, d] => pure [256 * a + b, 256 * c + d]
  | _ => none

/-- The groups between colons, of which the last may have the dotted form. -/
def ipv6Groups? (dotted : Bool) : List (List Char) → Option (List Nat)
  | [] => some []
  | [last] =>
    if dotted && last.contains '.' then dottedGroups? last
    else (ipv6Group? last).map ([·])
  | group :: rest => do pure ((← ipv6Group? group) :: (← ipv6Groups? dotted rest))

/-- The groups of a side of a double colon, of which there may be none. -/
def ipv6Side? (dotted : Bool) (cs : List Char) : Option (List Nat) :=
  if cs.isEmpty then some [] else ipv6Groups? dotted (split ':' cs)

/-- The text before the first double colon and the text after it. -/
def splitDoubleColon : List Char → Option (List Char × List Char)
  | [] => none
  | [_] => none
  | a :: b :: rest =>
    if a = ':' ∧ b = ':' then some ([], rest)
    else (splitDoubleColon (b :: rest)).map fun (before, after) => (a :: before, after)

/-- The eight groups that a text stands for. A double colon stands for one group of zero or
more. -/
def parseIpv6 (cs : List Char) : Option (List Nat) :=
  match splitDoubleColon cs with
  | none => do
    let groups ← ipv6Side? true cs
    if groups.length = 8 then some groups else none
  | some (before, after) => do
    let left ← ipv6Side? false before
    let right ← ipv6Side? true after
    let count := left.length + right.length
    if count < 8 then some (left ++ List.replicate (8 - count) 0 ++ right) else none

/-- The lengths of the runs of zeros that start at each group. -/
def zeroRuns : List Nat → List Nat
  | [] => []
  | g :: rest =>
    let runs := zeroRuns rest
    (if g = 0 then runs.head?.getD 0 + 1 else 0) :: runs

/-- The text of groups, joined by colons. -/
def groupsText (groups : List Nat) : String :=
  ":".intercalate (groups.map fun g => String.ofList (hexDigits g))

/-- The text of eight groups, in which a double colon stands for the first of the longest
runs of at least two zeros. -/
def ipv6Text (groups : List Nat) : String :=
  let runs := zeroRuns groups
  let longest := runs.foldl Nat.max 0
  if longest < 2 then groupsText groups
  else
    let start := runs.findIdx (· == longest)
    groupsText (groups.take start) ++ "::" ++ groupsText (groups.drop (start + longest))

/-! ### Names -/

/-- What no host may hold. -/
def isForbidden (c : Char) : Bool :=
  ['\x00', '\t', '\n', '\r', ' ', '#', '/', ':', '<', '>', '?', '@', '[', '\\', ']', '^',
    '|'].contains c

/-- What no host of a special scheme may hold. -/
def isForbiddenInName (c : Char) : Bool :=
  isForbidden c || c.toNat < 0x20 || c = '%' || c.toNat = 0x7F

/-- The form in which a character of a name is compared: lowered and of common width, with
every kind of full stop a dot, and nothing for a character that only hints at a break. -/
def foldNameChar (c : Char) : List Char :=
  if c.toNat = 0x3002 ∨ c.toNat = 0xFF61 then ['.']
  else if [0xAD, 0x200B, 0x2060, 0xFEFF].contains c.toNat then []
  else if 0xFF01 ≤ c.toNat ∧ c.toNat ≤ 0xFF5E then lowerChar (Char.ofNat (c.toNat - 0xFEE0))
  else lowerChar c

/-- Whether a character cannot stand in a name because it has no shape of its own. -/
def isShapeless (c : Char) : Bool := 0x80 ≤ c.toNat && inRanges c.toNat unprintableRanges

/-- Whether a label can stand in a name. One in the ASCII form must be the form of some label
with other characters. -/
def isTrueLabel (label : List Char) : Bool :=
  match dropPrefix? "xn--".toList label with
  | none => !label.any isShapeless
  | some code =>
    match Punycode.decode? code with
    | some cs =>
      cs.any (fun c => 0x80 ≤ c.toNat) && !cs.any isShapeless && Punycode.encode cs == code
    | none => false

/-- The ASCII form of a label. -/
def asciiLabel (label : List Char) : List Char :=
  if label.all (·.toNat < 0x80) then label else "xn--".toList ++ Punycode.encode label

/-- The ASCII form of a name, or `none` when it is not a name. Of the mapping of UTS 46 only
`foldNameChar` is followed: characters that are compatible with others (the ligature U+FB01 with
"fi") and characters in pieces (a letter and its accent) stay as they are, where the standard
writes them in their normal form (NFC). The rules about joiners and the direction of a name are
not checked either. -/
def asciiName? (cs : List Char) : Option (List Char) :=
  let labels := split '.' (cs.flatMap foldNameChar)
  let text := ['.'].intercalate (labels.map asciiLabel)
  if labels.all isTrueLabel && !text.any isForbiddenInName then some text else none

namespace Host

/-- The host of an address of a special scheme. -/
def parse? (cs : List Char) : Option Host :=
  match cs with
  | '[' :: rest =>
    if rest.getLast? == some ']' then (parseIpv6 rest.dropLast).map .ipv6 else none
  | _ => do
    let text ← asciiName? (← decodeUtf8? (percentDecode (utf8 cs)))
    if text.isEmpty then none
    else if endsInNumber text then (parseIpv4 text).map .ipv4
    else some (.name (String.ofList text))

/-- The host of an address of another scheme, which may be empty. -/
def parsePlain? (cs : List Char) : Option Host :=
  match cs with
  | '[' :: rest =>
    if rest.getLast? == some ']' then (parseIpv6 rest.dropLast).map .ipv6 else none
  | _ =>
    if cs.any isForbidden then none
    else some (.name (String.ofList (percentEncode controlSet cs)))

def text : Host → String
  | .name s => s
  | .ipv4 n => ipv4Text n
  | .ipv6 groups => "[" ++ ipv6Text groups ++ "]"

end Host

end Fleet.Url
