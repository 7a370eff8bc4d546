import SqlTemplate.Number.Binary64
import SqlTemplate.Number.Decimal
import SqlTemplate.Text.Digit

/-! Numerals with a fraction and an exponent, and the numbers they name. -/
namespace SqlTemplate.Number

/-- A written number: `coefficient * 10 ^ exponent` with a sign. -/
structure Numeral where
  negative : Bool
  coefficient : Nat
  exponent : Int
  deriving DecidableEq, Repr

namespace Numeral

def spanDigits (text : List Char) : List Char × List Char :=
  text.span Char.isDigit

/-- The number that ASCII digits spell. -/
def value (digits : List Char) : Nat :=
  Text.ofDigits (digits.map fun c => c.toNat - 48)

def spanSign : List Char → Bool × List Char
  | '-' :: rest => (true, rest)
  | '+' :: rest => (false, rest)
  | text => (false, text)

/-- Reads the exponent at the end of a numeral; an empty text is the exponent zero. -/
def readExponent? : List Char → Option Int
  | [] => some 0
  | e :: rest =>
    if e = 'e' ∨ e = 'E' then
      let (negative, body) := spanSign rest
      let (digits, after) := spanDigits body
      if digits.isEmpty || !after.isEmpty then none
      else some (if negative then -(value digits : Int) else value digits)
    else none

/-- Reads a whole text as a numeral: digits, a fraction and an exponent, of which the last two may
be missing. -/
def read? (text : List Char) : Option Numeral :=
  let (negative, body) := spanSign text
  let (whole, rest) := spanDigits body
  let (fraction, rest) :=
    match rest with
    | '.' :: rest => spanDigits rest
    | rest => ([], rest)
  if whole.isEmpty && fraction.isEmpty then none
  else
    (readExponent? rest).map fun exponent =>
      { negative := negative, coefficient := value (whole ++ fraction),
        exponent := exponent - fraction.length }

end Numeral

/-- Reads a double: a numeral, or a word for a value that is not finite. -/
def Binary64.read? (text : String) : Option Binary64 :=
  match text with
  | "nan" => some .nan
  | "inf" => some (.infinity false)
  | "-inf" => some (.infinity true)
  | _ =>
    (Numeral.read? text.toList).map fun n => ofDecimal n.negative n.coefficient n.exponent

/-- Reads what follows the sign and the word for a value that is not a number. -/
def Decimal.readPayload? (negative signaling : Bool) (digits : List Char) : Option Decimal :=
  if digits.isEmpty then some (.nan negative signaling none)
  else if digits.all Char.isDigit then some (.nan negative signaling (some (Numeral.value digits)))
  else none

/-- Reads a decimal number in the text that `Decimal.text` writes. -/
def Decimal.read? (text : String) : Option Decimal :=
  let (negative, body) := Numeral.spanSign text.toList
  match body with
  | 'N' :: 'a' :: 'N' :: digits => readPayload? negative false digits
  | 's' :: 'N' :: 'a' :: 'N' :: digits => readPayload? negative true digits
  | _ =>
    if body = "Infinity".toList then some (.infinity negative)
    else
      (Numeral.read? body).map fun n => .finite negative n.coefficient n.exponent

end SqlTemplate.Number
