/-!
# Ranges of characters

A class of characters is written as a table of code point ranges, ends included.
-/

namespace MarkupTemplate.Text

def inRanges (ranges : Array (Nat × Nat)) (c : Char) : Bool :=
  ranges.any fun (first, last) => first ≤ c.toNat && c.toNat ≤ last

/-- A list is run through in one go, where an array is read at each of its places. -/
theorem inRanges_eq_any (ranges : Array (Nat × Nat)) (c : Char) :
    inRanges ranges c = ranges.toList.any fun (first, last) => first ≤ c.toNat && c.toNat ≤ last :=
  Array.any_toList.symm

end MarkupTemplate.Text
