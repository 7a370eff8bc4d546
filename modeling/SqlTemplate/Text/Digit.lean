import SqlTemplate.Text.Blank

/-! Decimal digits of every script and the integers they spell. Unicode keeps the ten digits of a
script together and in order, so the table holds the place of each zero. -/
namespace SqlTemplate.Text

/-- The code points of the digits zero. -/
def digitZeros : List Nat :=
  [0x30, 0x660, 0x6F0, 0x7C0, 0x966, 0x9E6, 0xA66, 0xAE6, 0xB66, 0xBE6, 0xC66, 0xCE6, 0xD66,
   0xDE6, 0xE50, 0xED0, 0xF20, 0x1040, 0x1090, 0x17E0, 0x1810, 0x1946, 0x19D0, 0x1A80, 0x1A90,
   0x1B50, 0x1BB0, 0x1C40, 0x1C50, 0xA620, 0xA8D0, 0xA900, 0xA9D0, 0xA9F0, 0xAA50, 0xABF0,
   0xFF10, 0x104A0, 0x10D30, 0x11066, 0x110F0, 0x11136, 0x111D0, 0x112F0, 0x11450, 0x114D0,
   0x11650, 0x116C0, 0x11730, 0x118E0, 0x11950, 0x11C50, 0x11D50, 0x11DA0, 0x11F50, 0x16A60,
   0x16AC0, 0x16B50, 0x1D7CE, 0x1D7D8, 0x1D7E2, 0x1D7EC, 0x1D7F6, 0x1E140, 0x1E2F0, 0x1E4F0,
   0x1E950, 0x1FBF0]

/-- The value of a decimal digit of any script. -/
def digit? (c : Char) : Option Nat :=
  (digitZeros.find? fun first => first ≤ c.toNat && c.toNat < first + 10).map (c.toNat - ·)

/-- The value of an ASCII digit. -/
def asciiDigit? (c : Char) : Option Nat :=
  if c.isDigit then some (c.toNat - 48) else none

/-- Reads digits that may be grouped by single underscores, each between two digits. -/
def groupedDigits? (digit : Char → Option Nat) : List Char → Option (List Nat)
  | [] => none
  | c :: rest =>
    match digit c, rest with
    | none, _ => none
    | some d, [] => some [d]
    | some d, '_' :: more => (groupedDigits? digit more).map (d :: ·)
    | some d, next :: more => (groupedDigits? digit (next :: more)).map (d :: ·)

/-- The number that decimal digits spell, most significant first. -/
def ofDigits (digits : List Nat) : Nat :=
  digits.foldl (fun n d => 10 * n + d) 0

/-- The most digits a numeral may have. -/
def maxNumeralDigits : Nat := 4300

/-- A blank that may surround a numeral: the separators of ASCII do not count. -/
def isNumeralBlank (c : Char) : Bool :=
  if c.toNat < 128 then isAsciiBlank c else isBlank c

/-- Reads a signed integer between blanks. A numeral of more than `maxNumeralDigits` digits is
refused. -/
def readInteger? (blank : Char → Bool) (digit : Char → Option Nat) (text : List Char) :
    Option Int :=
  let (negative, body) :=
    match trimBy blank text with
    | '-' :: rest => (true, rest)
    | '+' :: rest => (false, rest)
    | body => (false, body)
  match groupedDigits? digit body with
  | none => none
  | some digits =>
    if digits.length > maxNumeralDigits then none
    else
      let n : Int := ofDigits digits
      some (if negative then -n else n)

end SqlTemplate.Text
