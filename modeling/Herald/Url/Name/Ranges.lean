/-!
# Ranges of characters

A property of characters is given by the ranges that have it.
-/

namespace Herald.Url.Name

/-- Ranges by the numbers of their first and their last character. -/
abbrev Ranges := List (Nat × Nat)

/-- Whether a character stands in one of the ranges. -/
def Ranges.holds (ranges : Ranges) (c : Char) : Bool :=
  ranges.any fun (first, last) => first ≤ c.toNat && c.toNat ≤ last

end Herald.Url.Name
