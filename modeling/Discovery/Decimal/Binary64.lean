namespace Discovery

/-- The number `significand * 2 ^ exponent`, or its negative. The significand is below `2 ^ 53`, the
    exponent is at least -1074, and a significand below `2 ^ 52` has the exponent -1074, so each
    value but zero has one form and zero has one for each sign. -/
structure Binary64 where
  negative : Bool
  significand : Nat
  exponent : Int
  deriving Repr, DecidableEq

namespace Binary64

/-- Zero, which keeps a sign. -/
def zero (negative : Bool) : Binary64 :=
  ⟨negative, 0, -1074⟩

/-- The same number with the given sign. -/
def withSign (x : Binary64) (negative : Bool) : Binary64 :=
  { x with negative := negative }

/-- The quotient of two numbers, rounded to the nearest whole number and from a half to the even
    one. -/
def roundHalfEven (num den : Nat) : Nat :=
  let q := num / den
  let r := num % den
  if 2 * r < den then q
  else if den < 2 * r then q + 1
  else q + q % 2

/-- A quotient times a power of two, as a quotient. -/
def scale (num den : Nat) (shift : Int) : Nat × Nat :=
  (num * Nat.pow 2 shift.toNat, den * Nat.pow 2 (-shift).toNat)

/-- The exponent at which a positive quotient has a whole part of 53 binary digits, or -1074 for a
    quotient too small for that. The difference of the two logarithms is at most one too large. -/
def exponentOf (num den : Nat) : Int :=
  let guess : Int := (num.log2 : Int) - den.log2
  let (n, d) := scale num den (-guess)
  max (-1074) (if d ≤ n then guess - 52 else guess - 53)

/-- The double nearest to a quotient, or nothing when that is beyond the largest finite one. -/
def ofQuotient? (negative : Bool) (num den : Nat) : Option Binary64 :=
  if num = 0 then some (zero negative)
  else
    let e := exponentOf num den
    let (n, d) := scale num den (-e)
    let m := roundHalfEven n d
    let (m, e) := if m = Nat.pow 2 53 then (Nat.pow 2 52, e + 1) else (m, e)
    if 971 < e then none else some ⟨negative, m, e⟩

/-- The magnitude of a double as a quotient. -/
def quotient (x : Binary64) : Nat × Nat :=
  scale x.significand 1 x.exponent

/-- The double nearest to a product. -/
def mul? (x y : Binary64) : Option Binary64 :=
  let (a, b) := x.quotient
  let (c, d) := y.quotient
  ofQuotient? (x.negative != y.negative) (a * c) (b * d)

/-- The double nearest to a ratio. -/
def div? (x y : Binary64) : Option Binary64 :=
  let (a, b) := x.quotient
  let (c, d) := y.quotient
  ofQuotient? (x.negative != y.negative) (a * d) (b * c)

/-- The double nearest to a power of ten. -/
def powerOfTen? (k : Nat) : Option Binary64 :=
  ofQuotient? false (Nat.pow 10 k) 1

/-- A double times a power of ten that is itself a double. -/
def timesTen? (x : Binary64) (k : Nat) : Option Binary64 :=
  (powerOfTen? k).bind x.mul?

/-- A double divided by a power of ten that is itself a double. -/
def overTen? (x : Binary64) (k : Nat) : Option Binary64 :=
  (powerOfTen? k).bind x.div?

/-- The magnitude of a decimal whose significand has been rounded to the double `x`. Powers of ten
    end at 308: a larger one gives no value, and for a smaller one the quotient is taken twice,
    after which what is smaller still is zero. -/
def scaled? (x : Binary64) (exponent : Int) : Option Binary64 :=
  let k := exponent.natAbs
  if x.significand = 0 then some x
  else if 0 ≤ exponent then if k ≤ 308 then x.timesTen? k else none
  else if k ≤ 308 then x.overTen? k
  else if k ≤ 616 then (x.overTen? 308).bind fun y => y.overTen? (k - 308)
  else some (zero false)

/-- The double for a decimal significand and an exponent of ten. The significand becomes a double of
    its own before the power of ten is applied, so two roundings happen and the result can differ in
    its last place from the double nearest to the decimal. -/
def ofDecimal? (negative : Bool) (significand : Nat) (exponent : Int) : Option Binary64 :=
  ((ofQuotient? false significand 1).bind fun x => x.scaled? exponent).map fun x =>
    x.withSign negative

end Binary64

end Discovery
