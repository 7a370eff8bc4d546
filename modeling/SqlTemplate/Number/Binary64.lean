import SqlTemplate.Number.Rounding

/-! Double precision numbers, held as what they stand for: a sign, a whole mantissa and a power of
two. The mantissa of a number in normal form has 53 binary digits, except near zero. -/
namespace SqlTemplate.Number

/-- A double precision number. The finite ones are `mantissa * 2 ^ exponent` with a sign. -/
inductive Binary64
  | nan
  | infinity (negative : Bool)
  | finite (negative : Bool) (mantissa : Nat) (exponent : Int)
  deriving DecidableEq, Repr, Inhabited

namespace Binary64

def minExponent : Int := -1074

def maxExponent : Int := 971

def zero (negative : Bool) : Binary64 := .finite negative 0 minExponent

/-- The double nearest to a fraction; a tie goes to the even mantissa, and what rounds beyond the
greatest finite number is infinite. -/
def ofRatio (negative : Bool) (num den : Nat) : Binary64 :=
  if num = 0 then zero negative
  else
    let place := max (log2 num den - 52) minExponent
    let (n, d) := scale 2 num den (-place)
    let rounded := roundQuotient n d
    let (mantissa, exponent) :=
      if rounded = Nat.pow 2 53 then (Nat.pow 2 52, place + 1) else (rounded, place)
    if exponent > maxExponent then .infinity negative else .finite negative mantissa exponent

/-- The double nearest to a decimal numeral. Numerals far beyond the range are settled without
computing the power of ten. -/
def ofDecimal (negative : Bool) (coefficient : Nat) (exponent : Int) : Binary64 :=
  let top := exponent + digitCount coefficient
  if coefficient = 0 ∨ top < -400 then zero negative
  else if top > 400 then .infinity negative
  else
    let (num, den) := scale 10 coefficient 1 exponent
    ofRatio negative num den

/-- The magnitude of a finite number as a fraction. -/
def magnitude (mantissa : Nat) (exponent : Int) : Nat × Nat :=
  scale 2 mantissa 1 exponent

def isZero : Binary64 → Bool
  | .finite _ mantissa _ => mantissa == 0
  | _ => false

/-- The whole part of a finite number. -/
def truncate? : Binary64 → Option Int
  | .finite negative mantissa exponent =>
    let (num, den) := magnitude mantissa exponent
    let whole : Int := (num / den : Nat)
    some (if negative then -whole else whole)
  | _ => none

end Binary64

end SqlTemplate.Number
