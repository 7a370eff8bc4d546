import SqlTemplate.Number.Binary64
import SqlTemplate.Number.Decimal

/-! The value of a number whatever its type, as a coefficient and a power of ten in lowest terms.
Whole numbers, doubles and decimal numbers all have such a form, and two of them stand for the same
number exactly when their forms are the same; no power of ten is ever multiplied out for that. -/
namespace SqlTemplate.Number

/-- The number `coefficient * 10 ^ exponent`. In lowest terms ten does not divide the coefficient,
and zero has the exponent zero. -/
structure Scientific where
  coefficient : Int
  exponent : Int
  deriving DecidableEq, Repr, Inhabited

namespace Scientific

def normal (negative : Bool) (coefficient : Nat) (exponent : Int) : Scientific :=
  let (n, e) := trimZeros coefficient.log2 coefficient exponent
  { coefficient := if negative then -(n : Int) else n,
    exponent := if coefficient = 0 then 0 else e }

def ofInt (n : Int) : Scientific := normal (n < 0) n.natAbs 0

/-- A decimal number, if it is finite. -/
def ofDecimal? : Decimal → Option Scientific
  | .finite negative coefficient exponent => some (normal negative coefficient exponent)
  | _ => none

/-- A double, if it is finite. A half is five tenths, so a fraction of a power of two is one of a
power of ten. -/
def ofBinary64? : Binary64 → Option Scientific
  | .finite negative mantissa exponent =>
    some (if exponent ≥ 0 then normal negative (mantissa * Nat.pow 2 exponent.toNat) 0
      else normal negative (mantissa * Nat.pow 5 (-exponent).toNat) exponent)
  | _ => none

/-- The order of the magnitudes of a positive number and a natural number. Numbers with a different
number of places are told apart by that. -/
def compareMagnitude (coefficient : Nat) (exponent : Int) (n : Nat) : Ordering :=
  let places := exponent + digitCount coefficient
  if places < 1 then if n = 0 then .gt else .lt
  else if places > digitCount n then .gt
  else
    let (num, den) := scale 10 coefficient 1 exponent
    compare num (n * den)

/-- The order of a number and a whole number. -/
def compareInt (x : Scientific) (n : Int) : Ordering :=
  if x.coefficient = 0 then compare 0 n
  else if x.coefficient > 0 then
    if n < 0 then .gt else compareMagnitude x.coefficient.natAbs x.exponent n.natAbs
  else if n ≥ 0 then .lt
  else (compareMagnitude x.coefficient.natAbs x.exponent n.natAbs).swap

/-- The order of two numbers. The one with the greater exponent is a whole number when both are
divided by the power of ten of the other. -/
def compareTo (x y : Scientific) : Ordering :=
  if x.exponent ≤ y.exponent then
    (compareInt { y with exponent := y.exponent - x.exponent } x.coefficient).swap
  else compareInt { x with exponent := x.exponent - y.exponent } y.coefficient

end Scientific

end SqlTemplate.Number
