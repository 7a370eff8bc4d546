import SqlTemplate.Error
import SqlTemplate.Text.Digit
import SqlTemplate.Value.Equality

/-! What can be read out of a value: the integer it converts to, and the item at an index. -/
namespace SqlTemplate.Value

open Number

/-- The integer that a value converts to. Numbers lose their fraction, texts and byte strings are
read as numerals, and a byte string knows only the digits and blanks of ASCII. -/
def toInteger : Value → Except FaultKind Int
  | bool b => .ok (if b then 1 else 0)
  | int n => .ok n
  | float .nan => .error .badValue
  | float (.infinity _) => .error .overflow
  | float x => x.truncate?.elim (.error .badValue) .ok
  | decimal (.nan ..) => .error .badValue
  | decimal (.infinity _) => .error .overflow
  | decimal x => x.truncate?.elim (.error .badValue) .ok
  | str text =>
    (Text.readInteger? Text.isNumeralBlank Text.digit? text.toList).elim (.error .badValue) .ok
  | bytes _ content =>
    let text := content.map fun b => Char.ofNat b.toNat
    (Text.readInteger? Text.isAsciiBlank Text.asciiDigit? text).elim (.error .badValue) .ok
  | _ => .error .wrongType

/-- The number of an integer value. No other number can stand for one where places are counted. -/
def toIndex : Value → Except FaultKind Int
  | bool b => .ok (if b then 1 else 0)
  | int n => .ok n
  | _ => .error .wrongType

/-- The place that an index names among some elements; a negative index counts from the end. -/
def placeOf (index : Int) (length : Nat) : Except FaultKind Nat :=
  let place := if index < 0 then index + length else index
  if 0 ≤ place ∧ place < length then .ok place.toNat else .error .indexOutOfRange

/-- The item of a value at a place. A set has no places, and the elements of a range need not be
listed. -/
def itemAt (value : Value) (index : Int) : Except FaultKind Value :=
  match value with
  | collection .set _ | collection .frozenset _ | mapping _ => .error .wrongType
  | range start stop step =>
    (placeOf index (rangeLength start stop step)).map fun place => int (start + step * place)
  | _ =>
    match value.iterate? with
    | none => .error .wrongType
    | some items => (placeOf index items.length).map fun place => items.getD place null

/-- The item of a value at an index. A mapping is asked for the index as a key; anything else is
asked for a place, which is an integer. -/
def item (value index : Value) : Except FaultKind Value :=
  match value, index with
  | mapping entries, key =>
    if key.isHashable then (lookup? entries key).elim (.error .missingKey) .ok
    else .error .wrongType
  | _, int n => value.itemAt n
  | _, bool b => value.itemAt (if b then 1 else 0)
  | _, _ => .error .wrongType

/-- The number of elements of a value, or the fault that it has none. -/
def length (value : Value) : Except FaultKind Nat :=
  value.length?.elim (.error .wrongType) .ok

/-- The values met when walking through a value, or the fault that it cannot be walked through. -/
def walk (value : Value) : Except FaultKind (List Value) :=
  value.iterate?.elim (.error .wrongType) .ok

/-- The two items of a pair, of which the first can be a key. -/
def pair (value : Value) : Except FaultKind (Value × Value) :=
  match value.iterate? with
  | none => .error .wrongType
  | some [key, item] => if key.isHashable then .ok (key, item) else .error .wrongType
  | some _ => .error .badValue

/-- The entries that a value stands for: those of a mapping, those that a sequence of pairs makes,
and none for a value that counts as false. -/
def toEntries (value : Value) : Except FaultKind (List (Value × Value)) :=
  if !value.isTruthy then .ok []
  else
    match value with
    | mapping entries => .ok entries
    | _ => do
      let items ← value.walk
      let pairs ← items.mapM pair
      return entriesOf pairs

end SqlTemplate.Value
