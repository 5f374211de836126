namespace Discovery.Text

/-- All code points from `first` to `last`, both included. -/
structure CodeRange where
  first : Nat
  last : Nat
  deriving Repr, DecidableEq

/-- A character lies in a range when its code point is between the two ends. -/
def CodeRange.contains (r : CodeRange) (c : Char) : Bool :=
  r.first ≤ c.toNat && c.toNat ≤ r.last

/-- A character belongs to a class when one of its ranges holds it. -/
def inClass (ranges : List CodeRange) (c : Char) : Bool :=
  ranges.any fun r => r.contains c

end Discovery.Text
