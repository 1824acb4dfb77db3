/-!
Sets of characters, given by stretches of codes.
-/

namespace LeaseQueue.Text

/-- The first and the last code of each stretch. -/
abbrev Ranges := List (Nat × Nat)

def Ranges.has (ranges : Ranges) (c : Char) : Bool :=
  ranges.any fun (first, last) => first ≤ c.toNat && c.toNat ≤ last

end LeaseQueue.Text
