import Discovery.Decimal.Binary64

namespace Discovery

/-- The number `digits * 10 ^ exponent`. -/
structure Decimal where
  digits : Nat
  exponent : Int
  deriving Repr, DecidableEq

namespace Decimal

/-- Orders `d` against `n * 2 ^ q` by comparing products of natural numbers. -/
def compareWith (d : Decimal) (n : Nat) (q : Int) : Ordering :=
  compare (d.digits * Nat.pow 10 d.exponent.toNat * Nat.pow 2 (-q).toNat)
    (n * Nat.pow 2 q.toNat * Nat.pow 10 (-d.exponent).toNat)

/-- Whether a decimal rounds to the magnitude of a double. The bounds are the points halfway to the
    two neighbours, in quarters of a unit in the last place: below a power of two the neighbour is
    only half as far away. A bound itself rounds to the even significand. -/
def roundsTo (d : Decimal) (x : Binary64) : Bool :=
  let narrow := x.significand = Nat.pow 2 52 ∧ -1074 < x.exponent
  let low := d.compareWith (4 * x.significand - if narrow then 1 else 2) (x.exponent - 2)
  let high := d.compareWith (4 * x.significand + 2) (x.exponent - 2)
  let even := x.significand % 2 = 0
  (low = .gt ∨ even ∧ low = .eq) ∧ (high = .lt ∨ even ∧ high = .eq)

/-- The multiple of `10 ^ exponent` next below the magnitude of a double. -/
def below (x : Binary64) (exponent : Int) : Decimal :=
  let (num, den) := x.quotient
  ⟨num * Nat.pow 10 (-exponent).toNat / (den * Nat.pow 10 exponent.toNat), exponent⟩

/-- The better one of the two multiples of `10 ^ exponent` around a double, if any rounds to it.
    When both do, the nearer one is found by comparing the double with the point between them. -/
def onGrid? (x : Binary64) (exponent : Int) : Option Decimal :=
  let low := below x exponent
  let high : Decimal := ⟨low.digits + 1, exponent⟩
  if low.roundsTo x then
    if high.roundsTo x then
      match (⟨low.digits + high.digits, exponent⟩ : Decimal).compareWith x.significand
          (x.exponent + 1) with
      | .gt => some low
      | .lt => some high
      | .eq => some (if low.digits % 2 = 0 then low else high)
    else some low
  else if high.roundsTo x then some high
  else none

/-- Tries `steps` grids, the first with the given exponent and each ten times finer than the one
    before. -/
def firstOnGrid? (x : Binary64) (exponent : Int) : Nat → Option Decimal
  | 0 => none
  | steps + 1 =>
    match onGrid? x exponent with
    | some d => some d
    | none => firstOnGrid? x (exponent - 1) steps

/-- The shortest decimal of the magnitude of a double; zero has no digits to choose. The grids reach
    from the order of the largest double down to one finer than the least distance of two doubles,
    so one of them is always found. -/
def shortest (x : Binary64) : Decimal :=
  if x.significand = 0 then ⟨0, 0⟩
  else (firstOnGrid? x 308 633).getD ⟨0, 0⟩

end Decimal

end Discovery
