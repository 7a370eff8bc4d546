import SqlTemplate.Number.Shortest

/-! Fractions in decimal with a given number of places or digits. Ties go to the even digit. -/
namespace SqlTemplate.Number

/-- Digits with a point before the last `places` of them. -/
def withPoint (digits : List Char) (places : Nat) (keepPoint : Bool) : List Char :=
  let filled := List.replicate (places + 1 - digits.length) '0' ++ digits
  let whole := filled.length - places
  if places = 0 then filled ++ (if keepPoint then ['.'] else [])
  else filled.take whole ++ '.' :: filled.drop whole

/-- A fraction with a number of places after the point. -/
def fixedPlaces (num den places : Nat) (keepPoint : Bool) : List Char :=
  withPoint (Nat.toDigits 10 (roundQuotient (num * Nat.pow 10 places) den)) places keepPoint

/-- The leading digits of a positive fraction, one more than `places`, and the power of the first
of them. Rounding may carry into a new digit. -/
def leadingDigits (num den places : Nat) : List Char × Int :=
  let power := log10 num den
  let (n, d) := scale 10 num den (places - power)
  let rounded := roundQuotient n d
  if rounded = Nat.pow 10 (places + 1) then (Nat.toDigits 10 (Nat.pow 10 places), power + 1)
  else (Nat.toDigits 10 rounded, power)

/-- The leading digits of a fraction that may be zero. -/
def significantDigits (num den places : Nat) : List Char × Int :=
  if num = 0 then (List.replicate (places + 1) '0', 0) else leadingDigits num den places

/-- An exponent with its sign and at least two digits. -/
def exponentText (mark : Char) (power : Int) : List Char :=
  mark :: (if power < 0 then '-' else '+') :: padded 2 power.natAbs

/-- A fraction with one digit before the point, a number of places after it and an exponent. -/
def scientificPlaces (num den places : Nat) (keepPoint : Bool) (mark : Char) : List Char :=
  let (digits, power) := significantDigits num den places
  withPoint digits places keepPoint ++ exponentText mark power

/-- Digits after a point without the zeros at their end, and without the point if none is left. -/
def dropZeros (text : List Char) : List Char :=
  if text.contains '.' then
    ((text.reverse.dropWhile (· == '0')).dropWhile (· == '.')).reverse
  else text

/-- A fraction with a number of significant digits, as a positional numeral unless its leading
digit is far from the point. Zeros at the end are dropped unless they are asked for. -/
def generalDigits (num den significant : Nat) (keepZeros : Bool) (mark : Char) : List Char :=
  let count := max significant 1
  let (digits, power) := significantDigits num den (count - 1)
  let tidy text := if keepZeros then text else dropZeros text
  if -4 ≤ power ∧ power < count then
    tidy (fixedPlaces num den (count - 1 - power).toNat keepZeros)
  else tidy (withPoint digits (count - 1) keepZeros) ++ exponentText mark power

end SqlTemplate.Number
