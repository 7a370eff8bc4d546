/-! Rounding of exact quotients, and the powers that place a number on a grid. -/
namespace SqlTemplate.Number

/-- The quotient rounded to the nearest integer; a tie goes to the even neighbour. -/
def roundQuotient (num den : Nat) : Nat :=
  let q := num / den
  let twice := 2 * (num % den)
  if twice > den ∨ (twice = den ∧ q % 2 = 1) then q + 1 else q

/-- A fraction scaled by a power of `base`, with the power put where it is a whole number. -/
def scale (base : Nat) (num den : Nat) (power : Int) : Nat × Nat :=
  if power ≥ 0 then (num * Nat.pow base power.toNat, den)
  else (num, den * Nat.pow base (-power).toNat)

/-- The place of the leading digit: the power `p` with `base ^ p ≤ num / den < base ^ (p + 1)`,
searched upwards from a guess that is at most that power. -/
def leadingPower (base num den : Nat) : Nat → Int → Int
  | 0, guess => guess
  | fuel + 1, guess =>
    let (n, d) := scale base num den (-(guess + 1))
    if d ≤ n then leadingPower base num den fuel (guess + 1) else guess

/-- The power of two of the leading binary digit of a positive fraction. -/
def log2 (num den : Nat) : Int :=
  leadingPower 2 num den 2 ((num.log2 : Int) - den.log2 - 1)

/-- The number of decimal digits of a natural number; zero has one. -/
def digitCount (n : Nat) : Nat :=
  (Nat.toDigits 10 n).length

/-- The power of ten of the leading decimal digit of a positive fraction. -/
def log10 (num den : Nat) : Int :=
  leadingPower 10 num den 2 ((digitCount num : Int) - digitCount den - 1)

/-- Takes the trailing zeros off a coefficient and counts them into the exponent. -/
def trimZeros : Nat → Nat → Int → Nat × Int
  | 0, n, e => (n, e)
  | fuel + 1, n, e => if n % 10 = 0 ∧ n ≠ 0 then trimZeros fuel (n / 10) (e + 1) else (n, e)

end SqlTemplate.Number
