import SqlTemplate.Number.Rounding

/-! Decimal numbers of any precision: a sign, a whole coefficient and a power of ten, together
with infinities and values that are not numbers. Trailing zeros are part of a number, so `2.5` and
`2.50` are equal in value but different in text. -/
namespace SqlTemplate.Number

inductive Decimal
  | finite (negative : Bool) (coefficient : Nat) (exponent : Int)
  | infinity (negative : Bool)
  | nan (negative signaling : Bool) (payload : Option Nat)
  deriving DecidableEq, Repr, Inhabited

namespace Decimal

/-- The sign that a written number starts with. -/
def signText (negative : Bool) : List Char :=
  if negative then ['-'] else []

/-- The digits of a number without an exponent, or with one digit before the point and the rest
as an exponent. An exponent is needed when the number has trailing places before the point that
its coefficient does not fill, or more than five zeros after the point. -/
def finiteText (coefficient : Nat) (exponent : Int) : List Char :=
  let digits := Nat.toDigits 10 coefficient
  let whole := exponent + digits.length
  let dot := if exponent ≤ 0 ∧ whole > -6 then whole else 1
  let body :=
    if dot ≤ 0 then '0' :: '.' :: List.replicate (-dot).toNat '0' ++ digits
    else if dot.toNat ≥ digits.length then
      digits ++ List.replicate (dot.toNat - digits.length) '0'
    else digits.take dot.toNat ++ '.' :: digits.drop dot.toNat
  let power := whole - dot
  if power = 0 then body
  else body ++ 'E' :: (if power < 0 then '-' else '+') :: Nat.toDigits 10 power.natAbs

/-- The text that a decimal number is read from. -/
def text : Decimal → String
  | .finite negative coefficient exponent =>
    String.ofList (signText negative ++ finiteText coefficient exponent)
  | .infinity negative => String.ofList (signText negative ++ "Infinity".toList)
  | .nan negative signaling payload =>
    String.ofList (signText negative ++ (if signaling then "sNaN" else "NaN").toList ++
      (match payload with
      | some n => Nat.toDigits 10 n
      | none => []))

/-- The whole part of a finite number, which is zero if all its digits stand behind the point. -/
def truncate? : Decimal → Option Int
  | .finite negative coefficient exponent =>
    if coefficient = 0 ∨ exponent + digitCount coefficient ≤ 0 then some 0
    else
      let (num, den) := scale 10 coefficient 1 exponent
      let whole : Int := (num / den : Nat)
      some (if negative then -whole else whole)
  | _ => none

def isZero : Decimal → Bool
  | .finite _ coefficient _ => coefficient == 0
  | _ => false

end Decimal

end SqlTemplate.Number
