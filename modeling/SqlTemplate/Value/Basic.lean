import SqlTemplate.Number.Binary64
import SqlTemplate.Number.Decimal
import SqlTemplate.Number.Calendar

/-! Values that templates are filled with and rows are made of, and the shapes that decide how a
value is used: a mapping of columns, a sequence of values, or one value. -/
namespace SqlTemplate

open Number

inductive BytesKind
  | bytes | bytearray | memoryview
  deriving DecidableEq, Repr, Inhabited

/-- Kinds of collection with listed elements. -/
inductive CollectionKind
  | list | tuple | set | frozenset
  deriving DecidableEq, Repr, Inhabited

/-- Kinds of collection that have no order. -/
def CollectionKind.isSet : CollectionKind → Bool
  | .set | .frozenset => true
  | .list | .tuple => false

/-- A value. A mapping lists its entries in the order in which their keys were first put in. -/
inductive Value
  | null
  | bool (b : Bool)
  | int (n : Int)
  | float (x : Binary64)
  | str (text : String)
  | bytes (kind : BytesKind) (content : List UInt8)
  | collection (kind : CollectionKind) (items : List Value)
  | range (start stop step : Int)
  | mapping (entries : List (Value × Value))
  | decimal (x : Decimal)
  | date (date : Date)
  | datetime (date : Date) (clock : Clock)
  | time (clock : Clock)
  /-- Something of another type, known by its text alone. -/
  | object (text : String)
  deriving Repr, Inhabited

namespace Value

def list (items : List Value) : Value := .collection .list items

def tuple (items : List Value) : Value := .collection .tuple items

def rangeLength (start stop step : Int) : Nat :=
  if step > 0 then ((stop - start + step - 1) / step).toNat
  else if step < 0 then ((start - stop - step - 1) / (-step)).toNat
  else 0

def rangeItems (start stop step : Int) : List Int :=
  (List.range (rangeLength start stop step)).map fun (i : Nat) => start + step * i

/-- The name of a value's type in messages. -/
def typeName : Value → String
  | null => "NoneType"
  | bool _ => "bool"
  | int _ => "int"
  | float _ => "float"
  | str _ => "str"
  | bytes .bytes _ => "bytes"
  | bytes .bytearray _ => "bytearray"
  | bytes .memoryview _ => "memoryview"
  | collection .list _ => "list"
  | collection .tuple _ => "tuple"
  | collection .set _ => "set"
  | collection .frozenset _ => "frozenset"
  | range .. => "range"
  | mapping _ => "dict"
  | decimal _ => "Decimal"
  | date _ => "date"
  | datetime .. => "datetime"
  | time _ => "time"
  | object _ => "Obj"

/-- The number of elements of a value that has any. -/
def length? : Value → Option Nat
  | str text => some text.length
  | bytes _ content => some content.length
  | collection _ items => some items.length
  | range start stop step => some (rangeLength start stop step)
  | mapping entries => some entries.length
  | _ => none

/-- Whether a value counts as true: zeros and empty things do not. -/
def isTruthy : Value → Bool
  | null => false
  | bool b => b
  | int n => n != 0
  | float x => !x.isZero
  | str text => text != ""
  | bytes _ content => !content.isEmpty
  | collection _ items => !items.isEmpty
  | range start stop step => rangeLength start stop step != 0
  | mapping entries => !entries.isEmpty
  | decimal x => !x.isZero
  | date _ | datetime .. | time _ | object _ => true

/-- A value that gives columns their values. -/
def isMapping : Value → Bool
  | mapping _ => true
  | _ => false

/-- A value that stands for several values. Texts and byte strings stand for one. -/
def isSequence : Value → Bool
  | collection .. | range .. => true
  | _ => false

/-- The most elements that a list can have. -/
def maxLength : Nat := Nat.pow 2 63 - 1

/-- Whether a list can hold the elements of a sequence. Only those of a range can be too many: they
are not there before they are listed. -/
def isListable : Value → Bool
  | collection _ items => items.length ≤ maxLength
  | range start stop step => rangeLength start stop step ≤ maxLength
  | _ => true

def entries? : Value → Option (List (Value × Value))
  | mapping entries => some entries
  | _ => none

def sequence? : Value → Option (List Value)
  | collection _ items => some items
  | range start stop step => some ((rangeItems start stop step).map int)
  | _ => none

/-- The values met when walking through a value: characters of a text, bytes as numbers, keys of a
mapping. -/
def iterate? : Value → Option (List Value)
  | str text => some (text.toList.map fun c => str (String.singleton c))
  | bytes _ content => some (content.map fun b => int b.toNat)
  | mapping entries => some (entries.map Prod.fst)
  | value => value.sequence?

/-- A mapping whose first key is a text that starts with a colon. Later keys are not looked at. -/
def isNamedMapping : Value → Bool
  | mapping ((str name, _) :: _) => name.toList.head? == some ':'
  | _ => false

mutual
/-- Whether a value can be a key: nothing that can be changed may be inside it. -/
def isHashable : Value → Bool
  | bytes .bytearray _ => false
  | collection .tuple items => hashableAll items
  | collection .frozenset _ => true
  | collection .. => false
  | mapping _ => false
  | decimal (.nan _ signaling _) => !signaling
  | _ => true
termination_by structural value => value

def hashableAll : List Value → Bool
  | [] => true
  | item :: rest => isHashable item && hashableAll rest
termination_by structural items => items
end

end Value

end SqlTemplate
