import SqlTemplate.Text.Base64
import SqlTemplate.Value.Text

/-! JSON texts of values. There are no blanks, characters beyond ASCII stand for themselves, and a
value without a JSON form of its own is written as its plain text. -/
namespace SqlTemplate.Json

open Number

/-- Doubles are written without an exponent from `1e-5` to below `1e16`. -/
def floatStyle : DecimalStyle :=
  { positionalFrom := -5, positionalTo := 15, plus := false, exponentDigits := 1 }

/-- A double; what is not finite is null. -/
def encodeFloat : Binary64 → String
  | .finite negative mantissa exponent => floatStyle.write negative mantissa exponent
  | _ => "null"

/-- A double where only a string will do: there what is not finite has a name. -/
def floatKey : Binary64 → String
  | .finite negative mantissa exponent => floatStyle.write negative mantissa exponent
  | x => floatLiteral x

/-- How a character is written inside a string. -/
def escapeChar (c : Char) : List Char :=
  if c = Text.quotationMark ∨ c = Text.backslash then [Text.backslash, c]
  else if c = '\n' then [Text.backslash, 'n']
  else if c = '\r' then [Text.backslash, 'r']
  else if c = '\t' then [Text.backslash, 't']
  else if c.toNat = 8 then [Text.backslash, 'b']
  else if c.toNat = 12 then [Text.backslash, 'f']
  else if c.toNat < 0x20 then Text.backslash :: 'u' :: Text.hex 4 c.toNat
  else [c]

/-- A string in quotation marks. -/
def encodeString (text : String) : String :=
  String.ofList
    (Text.quotationMark :: text.toList.flatMap escapeChar ++ [Text.quotationMark])

/-- The internet form of a date or a time. -/
def internetText? : Value → Option String
  | .date d => some (String.ofList d.iso)
  | .datetime d clock => some (String.ofList (d.iso ++ 'T' :: clock.internet))
  | .time clock => some (String.ofList clock.internet)
  | _ => none

/-- The text that a value is written as where only a string will do. -/
def keyText : Value → String
  | .float x => floatKey x
  | .bytes _ content => String.ofList (Text.base64 content)
  | value => (internetText? value).getD value.text

mutual
def encode : Value → String
  | .null => "null"
  | .bool b => if b then "true" else "false"
  | .int n => toString n
  | .float x => encodeFloat x
  | .collection _ items => "[" ++ ",".intercalate (encodeEach items) ++ "]"
  | .mapping entries => "\x7b" ++ ",".intercalate (encodeEntries entries) ++ "\x7d"
  | value => encodeString (keyText value)
termination_by structural value => value

def encodeEach : List Value → List String
  | [] => []
  | item :: rest => encode item :: encodeEach rest
termination_by structural items => items

def encodeEntries : List (Value × Value) → List String
  | [] => []
  | (key, value) :: rest =>
    (encodeString (keyText key) ++ ":" ++ encode value) :: encodeEntries rest
termination_by structural entries => entries
end

end SqlTemplate.Json
