/-! Sets of characters as ranges of their numbers. -/

namespace ModemRelay.Text

/-- Whether the number of a character lies in one of the ranges, both ends of which are included. -/
def inRanges (ranges : List (Nat × Nat)) (c : Char) : Bool :=
  ranges.any fun (low, high) => low ≤ c.toNat && c.toNat ≤ high

end ModemRelay.Text
