import SqlTemplate.Text.Printable

/-! Quoted texts as error messages and diagnostics show them: apostrophes around the text, or
quotation marks when only apostrophes occur in it, and escapes for everything unprintable. -/
namespace SqlTemplate.Text

def apostrophe : Char := '\x27'

def quotationMark : Char := '\x22'

def backslash : Char := '\x5c'

def backtick : Char := '\x60'

def hexDigit (n : Nat) : Char :=
  if n < 10 then Char.ofNat (48 + n) else Char.ofNat (87 + n)

/-- The last `width` hexadecimal digits of a number. -/
def hex : Nat → Nat → List Char
  | 0, _ => []
  | width + 1, n => hex width (n / 16) ++ [hexDigit (n % 16)]

/-- Quotation marks are used exactly when they save escaping apostrophes. -/
def quoteFor (text : List Char) : Char :=
  if text.contains apostrophe && !text.contains quotationMark then quotationMark else apostrophe

/-- The escapes shared by texts and byte strings. -/
def escapeCommon? (quote c : Char) : Option (List Char) :=
  if c = quote ∨ c = backslash then some [backslash, c]
  else if c = '\n' then some [backslash, 'n']
  else if c = '\r' then some [backslash, 'r']
  else if c = '\t' then some [backslash, 't']
  else none

/-- How one character of a text is written between quotes. -/
def escapeChar (quote c : Char) : List Char :=
  match escapeCommon? quote c with
  | some escaped => escaped
  | none =>
    if isPrintable c then [c]
    else if c.toNat < 0x100 then backslash :: 'x' :: hex 2 c.toNat
    else if c.toNat < 0x10000 then backslash :: 'u' :: hex 4 c.toNat
    else backslash :: 'U' :: hex 8 c.toNat

/-- How one byte of a byte string is written between quotes. -/
def escapeByte (quote : Char) (byte : UInt8) : List Char :=
  let c := Char.ofNat byte.toNat
  match escapeCommon? quote c with
  | some escaped => escaped
  | none =>
    if 0x20 ≤ byte.toNat ∧ byte.toNat < 0x7F then [c] else backslash :: 'x' :: hex 2 byte.toNat

def quoted (text : String) : String :=
  let chars := text.toList
  let quote := quoteFor chars
  String.ofList (quote :: chars.flatMap (escapeChar quote) ++ [quote])

/-- A byte string in quotes, after the letter that marks it. -/
def quotedBytes (bytes : List UInt8) : String :=
  let quote := quoteFor (bytes.map fun byte => Char.ofNat byte.toNat)
  String.ofList ('b' :: quote :: bytes.flatMap (escapeByte quote) ++ [quote])

end SqlTemplate.Text
