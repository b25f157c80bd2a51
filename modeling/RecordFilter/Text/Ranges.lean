/-!
# Ranges of code points

Classes of characters are given by the first and the last code point of each range.
-/
namespace RecordFilter.Text

def inRanges (ranges : List (Nat × Nat)) (c : Char) : Bool :=
  ranges.any fun (first, last) => first ≤ c.toNat && c.toNat ≤ last

end RecordFilter.Text
