/-!
# `Fleet.Text.Ranges`: sets of code points as sorted lists of ranges

Every property of characters that the library needs beyond ASCII is a sorted list of
closed ranges of code points. `inRanges` looks a code point up and stops at the first
range that lies above it.
-/

set_option autoImplicit false

namespace Fleet.Text

/-- A set of code points: closed ranges in ascending order. -/
abbrev Ranges := List (Nat × Nat)

/-- Whether some range of the list holds the code point. The list is ascending, so the
search ends at the first range that starts above it. -/
def inRanges (n : Nat) : Ranges → Bool
  | [] => false
  | (lo, hi) :: rest => if n < lo then false else if n ≤ hi then true else inRanges n rest

end Fleet.Text
