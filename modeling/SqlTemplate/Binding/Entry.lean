import SqlTemplate.Binding.BindType
import SqlTemplate.Value.Comparison

/-! Bind entries: values that wait to be bound to a statement. -/
namespace SqlTemplate

/-- A value with its bind type, and the marker it is bound to where the statement has markers.
The marker is a value, because a mapping of markers may have any keys after the first; null stands
for no marker. -/
structure BindEntry where
  value : Value
  type : BindType
  marker : Value
  deriving Repr, Inhabited

namespace BindEntry

/-- An entry without a marker. -/
def unnamed (value : Value) (type : BindType) : BindEntry :=
  { value := value, type := type, marker := .null }

/-- An entry whose bind type is that of its value. -/
def inferred (value marker : Value) : BindEntry :=
  { value := value, type := .infer value, marker := marker }

def isNamed (entry : BindEntry) : Bool :=
  match entry.marker with
  | .null => false
  | _ => true

def parts (entry : BindEntry) : List Value :=
  [entry.value, .str entry.type.text, entry.marker]

/-- Entries are equal when their parts are, which are compared in order. -/
def equals (a b : BindEntry) : Except FaultKind Bool := do
  if !(← a.value.isEqual b.value) || a.type != b.type then return false
  else a.marker.isEqual b.marker

/-- An entry equals the tuple of its parts, which may leave out a missing marker. -/
def equalsTuple (entry : BindEntry) (items : List Value) : Except FaultKind Bool := do
  if ← Value.isEqualEach entry.parts items then return true
  else if entry.isNamed then return false
  else Value.isEqualEach (entry.parts.take 2) items

/-- Whether two entries have the same hash key, in which the literal stands for the value. -/
def sameHashKey (a b : BindEntry) : Bool :=
  a.value.literal == b.value.literal && a.type == b.type && a.marker.equals b.marker

/-- An entry has a hash if its value has a literal and its marker can be a key. -/
def requireHash (entry : BindEntry) : Except FaultKind Unit := do
  let _ ← entry.value.toLiteral
  if entry.marker.isHashable then return () else .error .wrongType

/-- Whether two entries have the same hash, if both have one. -/
def sameHash (a b : BindEntry) : Except FaultKind Bool := do
  a.requireHash
  b.requireHash
  return a.sameHashKey b

/-- The literal of an entry, with its marker if it has one. -/
def literal (entry : BindEntry) : Except FaultKind String := do
  let value ← entry.value.toLiteral
  let marker ←
    if entry.isNamed then entry.marker.toLiteral.map (", name=" ++ ·) else .ok ""
  return "BindEntry(" ++ value ++ ", " ++ entry.type.label ++ marker ++ ")"

end BindEntry

end SqlTemplate
