import SqlTemplate.Statement.Compiled
import SqlTemplate.Value.Access

/-! Results of statements: the rows as the database gave them, and the shapes that they are asked
for in. -/
namespace SqlTemplate

structure StatementResult where
  statement : Compiled
  rows : List Value
  columnNames : List Value
  rowsAffected : Value
  /-- The values that loading the last inserted id gives, one time after the other, if it can be
  loaded. -/
  loader : Option (List Value)
  /-- The number of times the id was loaded. -/
  loads : Nat
  /-- The id, once it was asked for. -/
  loaded : Option Value
  /-- The error of a statement that failed without raising it. -/
  error : Option Error
  /-- Whether the run was timed. -/
  timed : Bool
  deriving Inhabited

namespace StatementResult

def succeeded (statement : Compiled) (rows : List Value) (columnNames : List Value)
    (rowsAffected : Value) (loader : Option (List Value)) (timed : Bool) : StatementResult :=
  { statement := statement, rows := rows, columnNames := columnNames,
    rowsAffected := rowsAffected, loader := loader, loads := 0, loaded := none, error := none,
    timed := timed }

/-- The empty result of a statement that failed. -/
def failed (statement : Compiled) (error : Error) : StatementResult :=
  { succeeded statement [] [] (.int 0) none false with error := some error }

def isSuccess (result : StatementResult) : Bool := result.error.isNone

/-- The last inserted id. It is loaded when it is asked for the first time. -/
def lastInsertId (result : StatementResult) : Value × StatementResult :=
  match result.loaded, result.loader with
  | some id, _ => (id, result)
  | none, some ids =>
    if result.isSuccess then
      let id := ids.headD .null
      (id, { result with loads := result.loads + 1, loaded := some id })
    else (.null, { result with loaded := some .null })
  | none, none => (.null, { result with loaded := some .null })

/-- A row as a mapping of column names to values. What goes beyond the shorter of the two is left
out; the names that are left must be able to be keys. -/
def rowMapping (names : List Value) (row : Value) : Except FaultKind Value := do
  let items ← row.walk
  let pairs := names.zip items
  if pairs.all fun pair => pair.1.isHashable then return .ofPairs pairs else .error .wrongType

def all (result : StatementResult) : Except FaultKind Value :=
  (result.rows.mapM (rowMapping result.columnNames)).map .list

/-- The number of rows. -/
def length (result : StatementResult) : Nat := result.rows.length

/-- The mappings met when walking through a result. All of them are made before the first is met. -/
def walk (result : StatementResult) : Except FaultKind (List Value) := do
  let mappings ← result.all
  mappings.walk

/-- The first row as a mapping, or null. -/
def one (result : StatementResult) : Except FaultKind Value :=
  match result.rows with
  | [] => .ok .null
  | row :: _ => rowMapping result.columnNames row

/-- An item of the first row, or null. -/
def scalar (result : StatementResult) (index : Value) : Except FaultKind Value :=
  match result.rows with
  | [] => .ok .null
  | row :: _ => row.item index

def column (result : StatementResult) (index : Value) : Except FaultKind Value :=
  (result.rows.mapM fun (row : Value) => row.item index).map .list

/-- The first two items of a row; the first must be able to be a key. -/
def keyValueOf (row : Value) : Except FaultKind (Value × Value) := do
  let key ← row.item (.int 0)
  let value ← row.item (.int 1)
  if key.isHashable then return (key, value) else .error .wrongType

/-- The mapping of the first item of each row to the second. -/
def keyValue (result : StatementResult) : Except FaultKind Value :=
  (result.rows.mapM keyValueOf).map .ofPairs

def literal (result : StatementResult) : Except FaultKind String := do
  let status ←
    match result.error with
    | none => .ok "ok"
    | some error => error.literal.map ("failed: " ++ ·)
  let affected ← result.rowsAffected.toText
  return callText "StatementResult"
    ["sql=" ++ Text.quoted result.statement.sql, "rows=" ++ toString result.rows.length,
      "rows_affected=" ++ affected, "status=" ++ status]

end StatementResult

end SqlTemplate
