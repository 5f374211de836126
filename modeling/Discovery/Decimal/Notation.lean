import Discovery.Decimal.Shortest

namespace Discovery

/-- The decimal digits of a natural number. -/
def naturalDigits (n : Nat) : List Char :=
  Nat.toDigits 10 n

/-- The decimal digits of an integer, after a minus sign if it is negative. -/
def integerDigits (i : Int) : List Char :=
  if i < 0 then '-' :: naturalDigits i.natAbs else naturalDigits i.natAbs

namespace Decimal

/-- The decimal exponent of the first digit. -/
def leadingExponent (d : Decimal) : Int :=
  d.exponent + (naturalDigits d.digits).length - 1

/-- Positional notation, with a digit before the point and one after it even where these are
    zeros. -/
def positional (d : Decimal) : List Char :=
  let digits := naturalDigits d.digits
  if 0 ≤ d.exponent then digits ++ List.replicate d.exponent.toNat '0' ++ ['.', '0']
  else
    let places := (-d.exponent).toNat
    if places < digits.length then
      digits.take (digits.length - places) ++ '.' :: digits.drop (digits.length - places)
    else ['0', '.'] ++ List.replicate (places - digits.length) '0' ++ digits

/-- Scientific notation: one digit before the point, no point if there are no others, and an
    exponent with its sign. -/
def scientific (d : Decimal) : List Char :=
  let e := d.leadingExponent
  let exponent := (if e < 0 then '-' else '+') :: naturalDigits e.natAbs
  match naturalDigits d.digits with
  | [] => []
  | [digit] => digit :: 'e' :: exponent
  | digit :: others => digit :: '.' :: others ++ 'e' :: exponent

/-- Numbers from one hundred-thousandth up to below ten to the sixteenth are written
    positionally. -/
def written (d : Decimal) : List Char :=
  if -5 ≤ d.leadingExponent ∧ d.leadingExponent ≤ 15 then d.positional else d.scientific

end Decimal

/-- The written form of a double. Zero keeps its sign. -/
def Binary64.digits (x : Binary64) : List Char :=
  let magnitude := (Decimal.shortest x).written
  if x.negative then '-' :: magnitude else magnitude

end Discovery
