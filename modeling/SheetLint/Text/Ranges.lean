/-
This file gives sets of code points as lists of closed ranges.
-/

namespace SheetLint.Text

/-- This is a set of code points: each pair is the first and the last member of a range. -/
abbrev Ranges := List (Nat × Nat)

/-- This test holds when some range contains the code point. -/
def Ranges.covers (ranges : Ranges) (code : Nat) : Bool :=
  ranges.any fun range => range.1 ≤ code && code ≤ range.2

end SheetLint.Text
