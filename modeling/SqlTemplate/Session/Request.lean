import SqlTemplate.Session.Basic

/-! Requests to a session, and what they are answered with. -/
namespace SqlTemplate

/-- The shape that the result of a template is wanted in. -/
inductive Shape
  /-- The whole result. -/
  | whole
  /-- The number of affected rows. -/
  | affected
  /-- Every row as a mapping. -/
  | all
  /-- The first row as a mapping. -/
  | one
  /-- The first item of the first row. -/
  | scalar
  /-- The first item of every row. -/
  | column
  /-- The first item of every row mapped to the second. -/
  | keyValue
  deriving DecidableEq, Repr, Inhabited

inductive Request
  | query (shape : Shape) (template : String) (arguments : List Value)
  /-- Compiles a template once and runs it twice; the second time nothing is left to bind. -/
  | runTwice (template : String) (arguments : List Value)
  | compile (template : String) (arguments : List Value)
  | insert (mode : Session.InsertMode) (table rows : Value) (columns : Option Value)
  | buildInsert (verb : String) (table rows : Value) (columns : Option Value)
  | lock (tables : Value)
  | unlock
  | begin
  | commit
  | rollback
  | close
  | lastInsertId
  | affectedRows
  | lastResult
  /-- Sets the correlation id of the log. -/
  | correlate (id : Value)
  deriving Inhabited

inductive Reply
  | value (value : Value)
  | result (result : Option StatementResult)
  | compiled (compiled : Compiled)
  deriving Inhabited

namespace Session

def shaped (shape : Shape) (result : StatementResult) : Except Error Reply :=
  let reply (value : Except FaultKind Value) := (value.map Reply.value).mapError Error.ofKind
  match shape with
  | .whole => .ok (.result (some result))
  | .affected => .ok (.value result.rowsAffected)
  | .all => reply result.all
  | .one => reply result.one
  | .scalar => reply (result.scalar (.int 0))
  | .column => reply (result.column (.int 0))
  | .keyValue => reply result.keyValue

def runTwice (connection : Connection) (template : String) (arguments : List Value) :
    Action Session StatementResult := do
  let compiled ← compile template arguments
  let first ← runStatement connection compiled
  runStatement connection first.statement

/-- Does nothing but answer with null. -/
def silently (body : Action Session Unit) : Action Session Reply := do
  body
  return .value .null

def truth (body : Action Session Bool) : Action Session Reply := do
  let b ← body
  return .value (.bool b)

def perform (connection : Connection) : Request → Action Session Reply
  | .query shape template arguments => do
    let result ← query connection template arguments
    .ofExcept (shaped shape result)
  | .runTwice template arguments => do
    let result ← runTwice connection template arguments
    return .result (some result)
  | .compile template arguments => do
    let compiled ← compile template arguments
    return .compiled compiled
  | .insert mode table rows columns => do
    let affected ← insertRows connection mode table rows columns
    return .value affected
  | .buildInsert verb table rows columns => do
    let compiled ← buildInsert verb table rows columns
    return .compiled compiled
  | .lock tables => truth (lock connection tables)
  | .unlock => truth (unlock connection)
  | .begin => silently (begin connection)
  | .commit => silently (commit connection)
  | .rollback => silently (rollback connection)
  | .close => silently (close connection)
  | .lastInsertId => do
    let id ← lastInsertId connection
    return .value id
  | .affectedRows => do
    let session ← .state
    return .value session.affectedRows
  | .lastResult => do
    let session ← .state
    return .result session.lastResult
  | .correlate id => do
    .change (Keeps.update fun journal =>
      { journal with log := { journal.log with correlation := id } })
    return .value id

end Session

end SqlTemplate
