import SqlTemplate.FaultKind
import SqlTemplate.Text.Digit
import SqlTemplate.Text.Quoted
import SqlTemplate.Value.Basic

/-! The two texts of a value: its literal, which shows the type and is used in messages, and its
plain text, which shows the content. They differ for texts, dates, decimal numbers and objects. An
integer that has too many digits has neither, and nor has a value with such an integer in it. -/
namespace SqlTemplate

open Number

/-- Doubles are written without an exponent from `1e-4` to below `1e16`. -/
def literalStyle : DecimalStyle :=
  { positionalFrom := -4, positionalTo := 15, plus := true, exponentDigits := 2 }

def floatLiteral : Binary64 → String
  | .nan => "nan"
  | .infinity false => "inf"
  | .infinity true => "-inf"
  | .finite negative mantissa exponent => literalStyle.write negative mantissa exponent

/-- Fields separated by commas, between parentheses. -/
def callText (name : String) (fields : List String) : String :=
  name ++ "(" ++ ", ".intercalate fields ++ ")"

/-- The literal of an offset from universal time: days, then the seconds and microseconds that are
left, all but the days not negative. -/
def offsetLiteral (offset : Int) : String :=
  if offset = 0 then "datetime.timezone.utc"
  else
    let days := offset / 86400000000
    let rest := offset % 86400000000
    let parts :=
      [("days=", days), ("seconds=", rest / 1000000), ("microseconds=", rest % 1000000)]
    let shown := parts.filterMap fun (label, n) =>
      if n = 0 then none else some (label ++ toString n)
    callText "datetime.timezone" [callText "datetime.timedelta" shown]

/-- Hours and minutes; seconds and microseconds only up to the last that is not zero. -/
def clockFields (clock : Clock) : List String :=
  let tail :=
    if clock.microsecond ≠ 0 then [clock.second, clock.microsecond]
    else if clock.second ≠ 0 then [clock.second]
    else []
  ([clock.hour, clock.minute] ++ tail).map toString

/-- The offset field of a literal. -/
def offsetFields (clock : Clock) : List String :=
  match clock.offset with
  | none => []
  | some offset => ["tzinfo=" ++ offsetLiteral offset]

def dateFields (date : Date) : List String :=
  [date.year, date.month, date.day].map toString

def boolText (b : Bool) : String :=
  if b then "True" else "False"

namespace Value

/-- The literal of a collection, from those of its elements. -/
def collectionLiteral : CollectionKind → List String → String
  | .list, items => "[" ++ ", ".intercalate items ++ "]"
  | .tuple, [item] => "(" ++ item ++ ",)"
  | .tuple, items => "(" ++ ", ".intercalate items ++ ")"
  | .set, [] => "set()"
  | .set, items => "\x7b" ++ ", ".intercalate items ++ "\x7d"
  | .frozenset, [] => "frozenset()"
  | .frozenset, items => "frozenset(\x7b" ++ ", ".intercalate items ++ "\x7d)"

mutual
def literal : Value → String
  | null => "None"
  | bool b => boolText b
  | int n => toString n
  | float x => floatLiteral x
  | str text => Text.quoted text
  | bytes .bytes content => Text.quotedBytes content
  | bytes .bytearray content => "bytearray(" ++ Text.quotedBytes content ++ ")"
  | bytes .memoryview _ => "<memory>"
  | collection kind items => collectionLiteral kind (literals items)
  | range start stop step =>
    let bounds := [toString start, toString stop]
    callText "range" (if step = 1 then bounds else bounds ++ [toString step])
  | mapping entries => "\x7b" ++ ", ".intercalate (entryLiterals entries) ++ "\x7d"
  | decimal x => "Decimal('" ++ x.text ++ "')"
  | date d => callText "datetime.date" (dateFields d)
  | datetime d clock =>
    callText "datetime.datetime" (dateFields d ++ clockFields clock ++ offsetFields clock)
  | time clock => callText "datetime.time" (clockFields clock ++ offsetFields clock)
  | object text => "<Obj " ++ text ++ ">"
termination_by structural value => value

def literals : List Value → List String
  | [] => []
  | item :: rest => literal item :: literals rest
termination_by structural items => items

/-- The literals of entries, key and value. -/
def entryLiterals : List (Value × Value) → List String
  | [] => []
  | (key, value) :: rest => (literal key ++ ": " ++ literal value) :: entryLiterals rest
termination_by structural entries => entries
end

def text : Value → String
  | str text => text
  | decimal x => x.text
  | date d => String.ofList d.iso
  | datetime d clock => String.ofList (d.iso ++ ' ' :: clock.iso)
  | time clock => String.ofList clock.iso
  | object text => text
  | value => value.literal

/-- An integer is written with as many digits as a numeral that is read may have. -/
def hasWritableDigits (n : Int) : Bool := digitCount n.natAbs ≤ Text.maxNumeralDigits

mutual
/-- Whether a value has texts: those that `literal` and `text` give are asked for only then. -/
def isWritable : Value → Bool
  | int n => hasWritableDigits n
  | collection _ items => areWritable items
  | range start stop step =>
    hasWritableDigits start && hasWritableDigits stop && hasWritableDigits step
  | mapping entries => areEntriesWritable entries
  | _ => true
termination_by structural value => value

def areWritable : List Value → Bool
  | [] => true
  | item :: rest => isWritable item && areWritable rest
termination_by structural items => items

def areEntriesWritable : List (Value × Value) → Bool
  | [] => true
  | (key, value) :: rest => isWritable key && isWritable value && areEntriesWritable rest
termination_by structural entries => entries
end

/-- The literal of a value, or the fault that it has none. -/
def toLiteral (value : Value) : Except FaultKind String :=
  if value.isWritable then .ok value.literal else .error .badValue

/-- The plain text of a value, or the fault that it has none. -/
def toText (value : Value) : Except FaultKind String :=
  if value.isWritable then .ok value.text else .error .badValue

/-- The plain text of a date or a time, with `T` between the two. -/
def isoText? : Value → Option String
  | date d => some (String.ofList d.iso)
  | datetime d clock => some (String.ofList (d.iso ++ 'T' :: clock.iso))
  | time clock => some (String.ofList clock.iso)
  | _ => none

end Value

end SqlTemplate
