import Fleet.Objects.Payload

/-!
# `Fleet.Proofs.Objects.Pieces`: what of a payload is sent piece by piece

Uploads in pieces send one body after another, as long as there is room. They stop at an empty
piece, which ends the payload, and at an obstacle: the reader fails, or there is no room for one
more body. `Piece.cut` says of a list of pieces which bodies are sent and what the obstacle is.

A payload that fits is sent whole and without an obstacle (`cut_pieces`): `Payload.Cut` says that
the bodies are the payload cut into pieces of one size, none empty, all but the last full. A
reader that fails is an obstacle (`obstacle_pieces`).
-/

set_option autoImplicit false

namespace Fleet

/-- The bodies that are sent of some pieces while there is room, and what stands in the way of
sending all. -/
def Piece.cut (limit : ObjectError) : Nat → List Piece → List ByteArray × Option ObjectError
  | _, [] => ([], none)
  | _, .error e :: _ => ([], some e)
  | room, .ok body :: rest =>
    if body.isEmpty then ([], none)
    else
      match room with
      | 0 => ([], some limit)
      | room + 1 => (body :: (cut limit room rest).1, (cut limit room rest).2)

/-- A body is not empty exactly if it has a byte. -/
theorem isEmpty_eq_false_iff {body : ByteArray} : body.isEmpty = false ↔ 0 < body.size := by
  simp [ByteArray.isEmpty, Nat.pos_iff_ne_zero]

namespace Piece

variable (limit : ObjectError) (room : Nat) (body : ByteArray) (rest : List Piece)

/-- Of no pieces nothing is sent and nothing stands in the way. -/
@[simp] theorem cut_nil : cut limit room [] = ([], none) := by
  cases room <;> rfl

/-- A piece that cannot be read ends what is sent, and its failure stands in the way. -/
@[simp] theorem cut_error (e : ObjectError) :
    cut limit room (.error e :: rest) = ([], some e) := by
  cases room <;> rfl

/-- An empty piece ends the payload, and nothing stands in the way. -/
theorem cut_of_isEmpty (h : body.isEmpty = true) :
    cut limit room (.ok body :: rest) = ([], none) := by
  cases room <;> simp [cut, h]

/-- A piece for which there is no room stands in the way as the limit that it exceeds. -/
theorem cut_zero (h : body.isEmpty = false) :
    cut limit 0 (.ok body :: rest) = ([], some limit) := by
  simp [cut, h]

/-- A piece for which there is room is sent, and the other ones follow. -/
theorem cut_succ (h : body.isEmpty = false) :
    cut limit (room + 1) (.ok body :: rest)
      = (body :: (cut limit room rest).1, (cut limit room rest).2) := by
  simp [cut, h]

/-- No more bodies are sent than there is room for. -/
theorem length_cut_le (pieces : List Piece) : (cut limit room pieces).1.length ≤ room := by
  induction pieces generalizing room with
  | nil => simp
  | cons piece rest ih =>
    cases piece with
    | error e => simp
    | ok body =>
      cases hempty : body.isEmpty with
      | true => simp [cut_of_isEmpty, hempty]
      | false =>
        cases room with
        | zero => simp [cut_zero, hempty]
        | succ room =>
          rw [cut_succ _ _ _ _ hempty]
          exact Nat.succ_le_succ (ih room)

end Piece

namespace Payload

/-- Bytes cut into bodies of one size. -/
structure Cut (size : Nat) (bytes : ByteArray) (bodies : List ByteArray) : Prop where
  /-- The bodies in order are the bytes. -/
  whole : bodies.foldr (· ++ ·) .empty = bytes
  nonempty : ∀ body ∈ bodies, 0 < body.size
  bounded : ∀ body ∈ bodies, body.size ≤ size
  /-- All bodies but the last are full. -/
  full : ∀ body ∈ bodies.dropLast, body.size = size

namespace Cut

variable {size : Nat} {bytes : ByteArray} {bodies : List ByteArray}

/-- An empty payload is cut into no pieces. -/
theorem nil : Cut size .empty [] where
  whole := rfl
  nonempty _ h := nomatch h
  bounded _ h := nomatch h
  full _ h := nomatch h

/-- Bytes that fit into one body. -/
theorem singleton (hpos : 0 < bytes.size) (hle : bytes.size ≤ size) : Cut size bytes [bytes] where
  whole := by simp
  nonempty := by simpa using hpos
  bounded := by simpa using hle
  full _ h := nomatch h

/-- A full body in front of the rest. -/
theorem cons (hsize : 0 < size) (hle : size ≤ bytes.size)
    (h : Cut size (bytes.extract size bytes.size) bodies) :
    Cut size bytes (bytes.extract 0 size :: bodies) := by
  have hfirst : (bytes.extract 0 size).size = size := by
    rw [ByteArray.size_extract]
    omega
  refine ⟨?_, ?_, ?_, fun body hbody => ?_⟩
  · rw [List.foldr_cons, h.whole, ByteArray.extract_append_extract, Nat.zero_min,
      Nat.max_eq_right hle, ByteArray.extract_zero_size]
  · simpa [hfirst, hsize] using h.nonempty
  · simpa [hfirst] using h.bounded
  · by_cases hbodies : bodies = []
    · simp [hbodies] at hbody
    · rw [List.dropLast_cons_of_ne_nil hbodies] at hbody
      rcases List.mem_cons.1 hbody with rfl | hbody
      · exact hfirst
      · exact h.full body hbody

/-- A payload that is not empty is cut into one piece at least. -/
theorem length_pos (h : Cut size bytes bodies) (hpos : 0 < bytes.size) : 0 < bodies.length := by
  cases bodies with
  | nil =>
    rw [← h.whole] at hpos
    exact absurd hpos (Nat.lt_irrefl 0)
  | cons body rest => exact Nat.succ_pos _

end Cut

variable {size room : Nat} {p : Payload}

/-- A payload that fills a piece gives it first, and then the pieces of what is left. -/
theorem pieces_of_le (hsize : 0 < size) (h : size ≤ p.bytes.size) :
    p.pieces size = .ok (p.bytes.extract 0 size) :: (p.drop size).pieces size := by
  rw [pieces, if_pos ⟨hsize, h⟩]

/-- A payload that does not fill a piece gives what it has, or the failure of its reader. -/
theorem pieces_of_lt (h : p.bytes.size < size) : p.pieces size = [p.lastPiece] := by
  rw [pieces, if_neg fun hle => absurd hle.2 (Nat.not_le.2 h)]

/-- Behind the first piece of a payload that fills it there is another one, be it an empty one. -/
theorem exists_pieces_of_le (hsize : 0 < size) (h : size ≤ p.bytes.size) :
    ∃ first second rest, p.pieces size = .ok first :: second :: rest := by
  rw [pieces_of_le hsize h, pieces]
  split <;> exact ⟨_, _, _, rfl⟩

/-- A payload is read in pieces if there can be room for one. -/
theorem read_of_le (h : size ≤ maxPieceSize) : p.read size = p.pieces size := by
  rw [read, if_neg (Nat.not_lt.2 h)]

/-- A payload that does not fill a piece is read as one, if its reader does not fail. -/
theorem read_of_short (hsize : size ≤ maxPieceSize) (hreads : p.failure = none)
    (hshort : p.bytes.size < size) : p.read size = [.ok p.bytes] := by
  rw [read_of_le hsize, pieces_of_lt hshort, lastPiece, hreads]

/-- Where there cannot be room for a piece, reading fails before the first byte. -/
theorem read_of_lt (h : maxPieceSize < size) :
    p.read size = [.error (.io "capacity overflow")] := by
  rw [read, if_pos h]

/-- What is left of a payload is shorter by the piece that was taken. -/
theorem size_drop : (p.drop size).bytes.size = p.bytes.size - size := by
  rw [drop, ByteArray.size_extract]
  omega

/-- A full piece in front takes one of the places. -/
theorem cut_pieces_of_le (limit : ObjectError) (hsize : 0 < size) (h : size ≤ p.bytes.size) :
    Piece.cut limit (room + 1) (p.pieces size)
      = (p.bytes.extract 0 size :: (Piece.cut limit room ((p.drop size).pieces size)).1,
        (Piece.cut limit room ((p.drop size).pieces size)).2) := by
  have hfirst : (p.bytes.extract 0 size).isEmpty = false := by
    rw [isEmpty_eq_false_iff, ByteArray.size_extract]
    omega
  rw [pieces_of_le hsize h, Piece.cut_succ _ _ _ _ hfirst]

/-- A payload that fits is sent whole. -/
theorem cut_pieces (limit : ObjectError) (hsize : 0 < size) (hfit : p.bytes.size ≤ room * size)
    (hreads : p.failure = none) :
    Cut size p.bytes (Piece.cut limit room (p.pieces size)).1 ∧
      (Piece.cut limit room (p.pieces size)).2 = none := by
  have hlast (p : Payload) (hreads : p.failure = none) : p.lastPiece = .ok p.bytes := by
    simp [lastPiece, hreads]
  -- Nothing is sent of an empty rest.
  have hnothing {room : Nat} {p : Payload} (hreads : p.failure = none) (hempty : p.bytes.size = 0) :
      Cut size p.bytes (Piece.cut limit room (p.pieces size)).1 ∧
        (Piece.cut limit room (p.pieces size)).2 = none := by
    rw [pieces_of_lt (by omega), hlast p hreads, ByteArray.size_eq_zero_iff.1 hempty,
      Piece.cut_of_isEmpty _ _ _ _ rfl]
    exact ⟨.nil, rfl⟩
  induction room generalizing p with
  | zero => exact hnothing hreads (by omega)
  | succ room ih =>
    by_cases hle : size ≤ p.bytes.size
    · have hrest := ih (p := p.drop size) (by rw [size_drop]; rw [Nat.succ_mul] at hfit; omega)
        hreads
      rw [cut_pieces_of_le limit hsize hle]
      exact ⟨.cons hsize hle hrest.1, hrest.2⟩
    · by_cases hempty : p.bytes.size = 0
      · exact hnothing hreads hempty
      · have hbody : p.bytes.isEmpty = false := isEmpty_eq_false_iff.2 (by omega)
        rw [pieces_of_lt (by omega), hlast p hreads, Piece.cut_succ _ _ _ _ hbody, Piece.cut_nil]
        exact ⟨.singleton (by omega) (by omega), rfl⟩

/-- A reader that fails is what stands in the way, unless there is no room before that. -/
theorem obstacle_pieces (limit : ObjectError) (hsize : 0 < size) {detail : String}
    (hfails : p.failure = some detail) :
    (Piece.cut limit room (p.pieces size)).2
      = some (if p.bytes.size / size ≤ room then .io detail else limit) := by
  have hlast (p : Payload) (hfails : p.failure = some detail) :
      p.lastPiece = .error (.io detail) := by
    simp [lastPiece, hfails]
  induction room generalizing p with
  | zero =>
    -- No room is left: a whole piece more is one too many, a shorter rest is the failure.
    by_cases hle : size ≤ p.bytes.size
    · have hfirst : (p.bytes.extract 0 size).isEmpty = false := by
        rw [isEmpty_eq_false_iff, ByteArray.size_extract]
        omega
      have hpos : 0 < p.bytes.size / size := Nat.div_pos hle hsize
      rw [pieces_of_le hsize hle, Piece.cut_zero _ _ _ hfirst, if_neg (by omega)]
    · rw [pieces_of_lt (by omega), hlast p hfails, Piece.cut_error,
        Nat.div_eq_of_lt (by omega), if_pos (Nat.le_refl 0)]
  | succ room ih =>
    by_cases hle : size ≤ p.bytes.size
    · rw [cut_pieces_of_le limit hsize hle, ih (p := p.drop size) hfails, size_drop,
        Nat.div_eq_sub_div hsize hle]
      simp
    · rw [pieces_of_lt (by omega), hlast p hfails, Piece.cut_error,
        Nat.div_eq_of_lt (by omega), if_pos (Nat.zero_le _)]

end Payload

end Fleet
