import Discovery.Json.Basic
import Discovery.Json.Fault

namespace Discovery.Json

/-- The largest significand, which is also the largest integer. -/
def significandLimit : Nat :=
  18446744073709551615

/-- The largest exponent that can be written. -/
def exponentLimit : Nat :=
  2147483647

/-- The value of a decimal digit. -/
def digit? (c : Char) : Option Nat :=
  if c.isDigit then some (c.toNat - 48) else none

/-- What is known of a numeral after its first characters. The digits gather in a significand of 64
    bits. From the first one on that would not fit, digits are dropped: before the point each of them
    raises the exponent of ten by one, after the point they have no effect. -/
inductive Numeral where
  /-- a minus sign -/
  | sign
  /-- a single zero -/
  | zero (negative : Bool)
  /-- digits before the point, all of them kept -/
  | whole (negative : Bool) (significand : Nat)
  /-- digits before the point, the last `dropped` of them not kept -/
  | long (negative : Bool) (significand dropped : Nat)
  /-- a point without a digit after it -/
  | point (negative : Bool) (significand : Nat) (scale : Int)
  /-- digits after the point, all of them kept -/
  | fraction (negative : Bool) (significand : Nat) (scale : Int)
  /-- digits after the point, some of them not kept -/
  | excess (negative : Bool) (significand : Nat) (scale : Int)
  /-- an exponent mark -/
  | mark (negative : Bool) (significand : Nat) (scale : Int)
  /-- an exponent mark and a sign -/
  | markSign (negative : Bool) (significand : Nat) (scale : Int) (down : Bool)
  /-- digits of the exponent -/
  | power (negative : Bool) (significand : Nat) (scale : Int) (down : Bool) (exponent : Nat)
  /-- an exponent beyond the limit that makes the number zero -/
  | vanishing (negative : Bool)
  deriving Repr, DecidableEq

namespace Numeral

/-- Whether a character can begin a numeral, and the numeral it begins. -/
def start? (c : Char) : Option Numeral :=
  if c = '-' then some .sign
  else if c = '0' then some (.zero false)
  else (digit? c).map fun d => .whole false d

/-- Whether a character is an exponent mark. -/
def isMark (c : Char) : Bool :=
  c = 'e' || c = 'E'

/-- One more digit of a significand, if it fits. -/
def extend? (significand d : Nat) : Option Nat :=
  if significand * 10 + d ≤ significandLimit then some (significand * 10 + d) else none

/-- After a digit that stands behind the point. -/
def afterPoint (negative : Bool) (significand : Nat) (scale : Int) (d : Nat) : Numeral :=
  match extend? significand d with
  | some s => .fraction negative s (scale - 1)
  | none => .excess negative significand scale

/-- After a point or an exponent mark that may follow the digits read so far, or the end. -/
def afterDigits (negative : Bool) (significand : Nat) (scale : Int) (pointAllowed : Bool)
    (c : Char) : Option Numeral :=
  if pointAllowed && c = '.' then some (.point negative significand scale)
  else if isMark c then some (.mark negative significand scale)
  else none

/-- Takes one more character. The answer is the longer numeral, or nothing when the character does
    not belong to the numeral, which then ends before it. -/
def next (n : Numeral) (c : Char) : Except Fault (Option Numeral) :=
  match n with
  | .sign =>
    if c = '0' then .ok (some (.zero true))
    else match digit? c with
      | some d => .ok (some (.whole true d))
      | none => .error (.at .invalidNumber)
  | .zero negative =>
    match digit? c with
    | some _ => .error (.at .invalidNumber)
    | none => .ok (afterDigits negative 0 0 true c)
  | .whole negative significand =>
    match digit? c with
    | some d =>
      match extend? significand d with
      | some s => .ok (some (.whole negative s))
      | none => .ok (some (.long negative significand 1))
    | none => .ok (afterDigits negative significand 0 true c)
  | .long negative significand dropped =>
    match digit? c with
    | some _ => .ok (some (.long negative significand (dropped + 1)))
    | none => .ok (afterDigits negative significand dropped true c)
  | .point negative significand scale =>
    match digit? c with
    | some d => .ok (some (afterPoint negative significand scale d))
    | none => .error (.at .invalidNumber)
  | .fraction negative significand scale =>
    match digit? c with
    | some d => .ok (some (afterPoint negative significand scale d))
    | none => .ok (afterDigits negative significand scale false c)
  | .excess negative significand scale =>
    match digit? c with
    | some _ => .ok (some n)
    | none => .ok (afterDigits negative significand scale false c)
  | .mark negative significand scale =>
    if c = '+' then .ok (some (.markSign negative significand scale false))
    else if c = '-' then .ok (some (.markSign negative significand scale true))
    else match digit? c with
      | some d => .ok (some (.power negative significand scale false d))
      | none => .error (.at .invalidNumber)
  | .markSign negative significand scale down =>
    match digit? c with
    | some d => .ok (some (.power negative significand scale down d))
    | none => .error (.at .invalidNumber)
  | .power negative significand scale down exponent =>
    match digit? c with
    | some d =>
      if exponent * 10 + d ≤ exponentLimit then
        .ok (some (.power negative significand scale down (exponent * 10 + d)))
      else if significand = 0 ∨ down then .ok (some (.vanishing negative))
      else .error (.at .numberOutOfRange)
    | none => .ok none
  | .vanishing _ =>
    match digit? c with
    | some _ => .ok (some n)
    | none => .ok none

/-- The integer with the given digits, as far as 64 bits hold it. Zero with a minus sign and
    integers beyond the limits are doubles. -/
def integer (negative : Bool) (significand : Nat) : Option Number :=
  if !negative then some (.integer significand)
  else if 0 < significand ∧ significand ≤ 9223372036854775808 then
    some (.integer (-(significand : Int)))
  else (Binary64.ofDecimal? true significand 0).map .double

/-- The number that a numeral stands for when it ends here. -/
def value (n : Numeral) : Except FaultCode Number :=
  let orOutOfRange (x : Option Number) : Except FaultCode Number :=
    match x with
    | some x => .ok x
    | none => .error .numberOutOfRange
  let double (negative : Bool) (significand : Nat) (exponent : Int) :=
    orOutOfRange ((Binary64.ofDecimal? negative significand exponent).map .double)
  match n with
  | .sign | .point .. | .mark .. | .markSign .. => .error .endInValue
  | .zero negative => orOutOfRange (integer negative 0)
  | .whole negative significand => orOutOfRange (integer negative significand)
  | .long negative significand dropped => double negative significand dropped
  | .fraction negative significand scale | .excess negative significand scale =>
    double negative significand scale
  | .power negative significand scale down exponent =>
    double negative significand (if down then scale - exponent else scale + exponent)
  | .vanishing negative => .ok (.double (.zero negative))

end Numeral

end Discovery.Json
