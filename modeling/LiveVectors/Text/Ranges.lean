/-!
# Ranges of characters

A class of characters that no short rule describes is given by the ranges of its codes, both ends
included.
-/

set_option autoImplicit false

namespace LiveVectors
namespace Text

/-- Whether a character lies in one of some ranges. -/
def inRanges (ranges : List (Nat × Nat)) (c : Char) : Bool :=
  ranges.any fun (first, last) => first ≤ c.toNat && c.toNat ≤ last

end Text
end LiveVectors
