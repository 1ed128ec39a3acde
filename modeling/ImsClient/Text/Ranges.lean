/-!
# Ranges of characters

A property of characters as a table: the code points that have it, in ranges with
both ends in them.
-/

namespace ImsClient.Text

/-- Whether a character lies in one of some ranges of code points. -/
def inRanges (ranges : List (Nat × Nat)) (c : Char) : Bool :=
  ranges.any fun (first, last) => first ≤ c.toNat && c.toNat ≤ last

end ImsClient.Text
