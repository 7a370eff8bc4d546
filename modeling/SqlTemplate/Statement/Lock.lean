import SqlTemplate.Error
import SqlTemplate.Template.Fill
import SqlTemplate.Value.Access

/-! Locking of tables for writing. -/
namespace SqlTemplate.Lock

/-- Why no lock can be asked for. -/
inductive LockFault
  | noTables
  /-- The tables cannot be walked through. -/
  | badTables
  /-- A table has no text. -/
  | unwritable
  /-- There are more tables than can be listed. -/
  | unlistable
  deriving DecidableEq, Repr

def LockFault.toError : LockFault → Error
  | noTables => .about .parameter "Lock requires at least one table" none
  | badTables => .ofKind .wrongType
  | unwritable => .ofKind .badValue
  | unlistable => .ofKind .overflow

/-- The text that locks some tables. -/
def ofTables (tables : List Value) : Except LockFault String :=
  if tables.isEmpty then .error .noTables
  else if !Value.areWritable tables then .error .unwritable
  else
    .ok ("LOCK TABLES " ++
      ",".intercalate (tables.map fun table => Template.columnName table ++ " WRITE"))

/-- The text that locks the tables met when walking through a value, characters included. -/
def buildEach (tables : Value) : Except LockFault String :=
  if tables.isListable then tables.iterate?.elim (.error .badTables) ofTables
  else .error .unlistable

/-- The text that locks what a value stands for: a text is one table, and anything else is walked
through. -/
def build (tables : Value) : Except LockFault String :=
  match tables with
  | .str _ => ofTables [tables]
  | _ => buildEach tables

end SqlTemplate.Lock
