/-!
# `Fleet.Text.Utf8`: characters as bytes

`utf8` writes characters, `decodeStep` reads one character off the front of a list of bytes,
and `decodeLossy` reads a whole list, giving U+FFFD for each maximal piece that no character
begins with. `decodeUtf8?` accepts well-formed bytes only.
-/

set_option autoImplicit false

namespace Fleet.Text

def utf8 (cs : List Char) : List UInt8 := cs.flatMap String.utf8EncodeChar

def utf8Text (s : String) : List UInt8 := utf8 s.toList

/-- Whether a byte continues a character. -/
def isContinuation (b : UInt8) : Bool := 0x80 ≤ b && b ≤ 0xBF

/-- The second bytes that may follow a first byte of a three-byte character. -/
def secondOfThree (b₀ b₁ : UInt8) : Bool :=
  if b₀ == 0xE0 then 0xA0 ≤ b₁ && b₁ ≤ 0xBF
  else if b₀ == 0xED then 0x80 ≤ b₁ && b₁ ≤ 0x9F
  else isContinuation b₁

/-- The second bytes that may follow a first byte of a four-byte character. -/
def secondOfFour (b₀ b₁ : UInt8) : Bool :=
  if b₀ == 0xF0 then 0x90 ≤ b₁ && b₁ ≤ 0xBF
  else if b₀ == 0xF4 then 0x80 ≤ b₁ && b₁ ≤ 0x8F
  else isContinuation b₁

/-- The low six bits of a continuation byte. -/
def lowSix (b : UInt8) : Nat := b.toNat % 64

/-- One step of reading: a character, or `none` for an ill-formed piece, and how many of the
bytes after the first belong to it. -/
def decodeStep (b₀ : UInt8) (rest : List UInt8) : Option Char × Nat :=
  if b₀ < 0x80 then (some (Char.ofNat b₀.toNat), 0)
  else if 0xC2 ≤ b₀ && b₀ ≤ 0xDF then
    match rest with
    | b₁ :: _ =>
      if isContinuation b₁ then (some (Char.ofNat (b₀.toNat % 32 * 64 + lowSix b₁)), 1)
      else (none, 0)
    | [] => (none, 0)
  else if 0xE0 ≤ b₀ && b₀ ≤ 0xEF then
    match rest with
    | b₁ :: tail =>
      if secondOfThree b₀ b₁ then
        match tail with
        | b₂ :: _ =>
          if isContinuation b₂ then
            (some (Char.ofNat (b₀.toNat % 16 * 4096 + lowSix b₁ * 64 + lowSix b₂)), 2)
          else (none, 1)
        | [] => (none, 1)
      else (none, 0)
    | [] => (none, 0)
  else if 0xF0 ≤ b₀ && b₀ ≤ 0xF4 then
    match rest with
    | b₁ :: tail =>
      if secondOfFour b₀ b₁ then
        match tail with
        | b₂ :: tail' =>
          if isContinuation b₂ then
            match tail' with
            | b₃ :: _ =>
              if isContinuation b₃ then
                (some (Char.ofNat (b₀.toNat % 8 * 262144 + lowSix b₁ * 4096
                  + lowSix b₂ * 64 + lowSix b₃)), 3)
              else (none, 2)
            | [] => (none, 2)
          else (none, 1)
        | [] => (none, 1)
      else (none, 0)
    | [] => (none, 0)
  else (none, 0)

/-- The pieces of a list of bytes: characters, and `none` for each ill-formed piece. -/
def decodePieces : List UInt8 → List (Option Char)
  | [] => []
  | b :: rest => (decodeStep b rest).1 :: decodePieces (rest.drop (decodeStep b rest).2)
termination_by bs => bs.length
decreasing_by simp only [List.length_drop, List.length_cons]; omega

/-- The characters of a list of bytes, U+FFFD standing for each ill-formed piece. -/
def decodeLossy (bs : List UInt8) : List Char :=
  (decodePieces bs).map fun piece => piece.getD '\uFFFD'

/-- The characters of well-formed bytes, or `none`. -/
def decodeUtf8? (bs : List UInt8) : Option (List Char) := (decodePieces bs).mapM id

end Fleet.Text
