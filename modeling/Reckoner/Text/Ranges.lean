/-!
# Sets of characters as ranges

Classes of characters are listed as ranges of code points, in ascending order, each with its first
and its last member.
-/

namespace Reckoner

namespace Text

/-- A set of code points, as ranges with both ends included. -/
abbrev Ranges :=
  List (Nat × Nat)

def Ranges.contains (ranges : Ranges) (code : Nat) : Bool :=
  ranges.any fun (first, last) => first ≤ code && code ≤ last

end Text

end Reckoner
