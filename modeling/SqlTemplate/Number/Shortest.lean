import SqlTemplate.Number.Binary64

/-! The shortest decimal that reads back as a given double, and its written form. Every decimal
inside the interval of reals that round to a double reads back as that double, so the fewest
digits are found by trying coarser decimal grids before finer ones. -/
namespace SqlTemplate.Number

/-- The reals that round to a double, as fractions with a common denominator. -/
structure RoundingInterval where
  low : Nat
  value : Nat
  high : Nat
  den : Nat
  /-- The ends belong to the interval exactly when the mantissa is even. -/
  closed : Bool

/-- The interval of a positive double. Below a power of two the grid of doubles is twice as fine. -/
def roundingInterval (mantissa : Nat) (exponent : Int) : RoundingInterval :=
  let below := if mantissa = Nat.pow 2 52 ∧ exponent > Binary64.minExponent then 1 else 2
  let (unit, den) := scale 2 1 1 (exponent - 2)
  { low := (4 * mantissa - below) * unit, value := 4 * mantissa * unit,
    high := (4 * mantissa + 2) * unit, den := den, closed := mantissa % 2 == 0 }

/-- Whether `digits * 10 ^ power` lies in the interval. -/
def RoundingInterval.holds (i : RoundingInterval) (digits : Nat) (power : Int) : Bool :=
  let (n, d) := scale 10 (digits * i.den) 1 power
  let low := i.low * d
  let high := i.high * d
  if i.closed then low ≤ n && n ≤ high else low < n && n < high

/-- The neighbour of the value on the grid of a power of ten that lies in the interval; of two the
nearer, and of two equally near the even one. -/
def RoundingInterval.onGrid? (i : RoundingInterval) (power : Int) : Option Nat :=
  let (n, d) := scale 10 i.value i.den (-power)
  let down := n / d
  let nearest := roundQuotient n d
  let other := if nearest = down then down + 1 else down
  if nearest ≠ 0 && i.holds nearest power then some nearest
  else if other ≠ 0 && i.holds other power then some other
  else none

/-- Tries grids of more and more digits. -/
def shortestFrom (i : RoundingInterval) (top : Int) : Nat → Nat → Nat × Int
  | 0, count => ((scale 10 i.value i.den (count - top)).1, top - count)
  | fuel + 1, count =>
    match i.onGrid? (top - count) with
    | some digits => trimZeros 20 digits (top - count)
    | none => shortestFrom i top fuel (count + 1)

/-- The shortest decimal that reads back as a positive double: its digits as a number that does
not end in zero, and the power of ten of the last digit. -/
def shortest (mantissa : Nat) (exponent : Int) : Nat × Int :=
  let i := roundingInterval mantissa exponent
  shortestFrom i (log10 i.value i.den + 1) 17 1

/-- How a format writes decimals. -/
structure DecimalStyle where
  /-- The least power of the leading digit that is written without an exponent. -/
  positionalFrom : Int
  /-- The greatest power of the leading digit that is written without an exponent. -/
  positionalTo : Int
  /-- Whether a positive exponent has a plus sign. -/
  plus : Bool
  /-- The fewest digits of an exponent. -/
  exponentDigits : Nat

/-- A natural number in decimal, filled with zeros on the left up to a width. -/
def padded (width n : Nat) : List Char :=
  let digits := Nat.toDigits 10 n
  List.replicate (width - digits.length) '0' ++ digits

/-- Digits with a point after the first `whole` of them; zeros fill the places that are missing,
and a number without a fraction ends in `.0`. -/
def positional (digits : List Char) (whole : Int) : List Char :=
  if whole ≤ 0 then '0' :: '.' :: List.replicate (-whole).toNat '0' ++ digits
  else
    let n := whole.toNat
    if digits.length ≤ n then digits ++ List.replicate (n - digits.length) '0' ++ ['.', '0']
    else digits.take n ++ '.' :: digits.drop n

/-- Digits with a point after the first, and an exponent. -/
def DecimalStyle.scientific (style : DecimalStyle) (digits : List Char) (power : Int) :
    List Char :=
  let fraction := match digits.drop 1 with
    | [] => []
    | rest => '.' :: rest
  let sign := if power < 0 then ['-'] else if style.plus then ['+'] else []
  digits.take 1 ++ fraction ++ 'e' :: sign ++ padded style.exponentDigits power.natAbs

/-- A finite double in a style. -/
def DecimalStyle.write (style : DecimalStyle) (negative : Bool) (mantissa : Nat) (exponent : Int) :
    String :=
  let sign := if negative then ['-'] else []
  if mantissa = 0 then String.ofList (sign ++ ['0', '.', '0'])
  else
    let (coefficient, last) := shortest mantissa exponent
    let digits := Nat.toDigits 10 coefficient
    let power := last + digits.length - 1
    let body :=
      if style.positionalFrom ≤ power ∧ power ≤ style.positionalTo then
        positional digits (power + 1)
      else style.scientific digits power
    String.ofList (sign ++ body)

end SqlTemplate.Number
