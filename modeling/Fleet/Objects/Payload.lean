import Fleet.Objects.Error

/-!
# `Fleet.Objects.Payload`: reading a payload piece by piece

A payload is read in pieces of one size. All pieces but the last are full; the last is shorter
than that, and empty when the size divides the length. So a payload that fits into one piece
with room to spare is a single short piece. A reader that fails does so at the last piece.
Nothing is read in pieces that no memory could hold.
-/

set_option autoImplicit false

namespace Fleet

/-- What is read for an object: some bytes, and possibly a failure after them. -/
structure Payload where
  bytes : ByteArray
  /-- What the reader fails with after the bytes. -/
  failure : Option String := none
deriving Inhabited

/-- A piece of a payload, or what reading it failed with. -/
abbrev Piece := Except ObjectError ByteArray

/-- The most bytes that there can be room for. -/
def maxPieceSize : Nat := 0x7FFFFFFFFFFFFFFF

namespace Payload

/-- The last piece: what is left, unless reading on fails. -/
def lastPiece (p : Payload) : Piece :=
  match p.failure with
  | some detail => .error (.io detail)
  | none => .ok p.bytes

/-- The payload without its first `size` bytes. -/
def drop (p : Payload) (size : Nat) : Payload :=
  { p with bytes := p.bytes.extract size p.bytes.size }

/-- The pieces of a payload. -/
def pieces (size : Nat) (p : Payload) : List Piece :=
  if 0 < size ∧ size ≤ p.bytes.size then
    .ok (p.bytes.extract 0 size) :: (p.drop size).pieces size
  else [p.lastPiece]
termination_by p.bytes.size
decreasing_by simp only [drop, ByteArray.size_extract]; omega

/-- Reads a payload in pieces of one size. Room for a whole piece is made first. Where there cannot
be any, the program ends without having read anything, which the error stands for. -/
def read (size : Nat) (p : Payload) : List Piece :=
  if maxPieceSize < size then [.error (.io "capacity overflow")] else p.pieces size

end Payload

end Fleet
