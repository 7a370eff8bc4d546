import SqlTemplate.Session.Adapter
import SqlTemplate.Statement.Insert
import SqlTemplate.Statement.Lock
import SqlTemplate.Statement.Result
import SqlTemplate.Template.Compiler

/-! Sessions: templates are compiled, their values bound, and the statements executed on one
connection. Every statement is compiled and bound completely before the connection is touched. -/
namespace SqlTemplate

structure Session where
  adapter : Adapter
  config : StatementConfig
  compiler : Compiler
  /-- The result of the last statement, unless it raised an error. -/
  lastResult : Option StatementResult
  journal : Journal

instance : Keeps Session where
  journal session := session.journal
  update change session := { session with journal := change session.journal }

/-- What a session may be opened on. -/
inductive Candidate
  | connection (connection : Connection)
  /-- Something that is no connection. -/
  | value (value : Value)

def Candidate.typeName : Candidate → String
  | connection it => it.typeName
  | value it => it.typeName

def Candidate.isUsable : Candidate → Bool
  | connection it => it.isUsable
  | value _ => false

/-- The outcome of running a statement, and the entries left in its queue. -/
structure Run where
  outcome : Except Error StatementResult
  left : Queue

namespace Session

/-- Opens a session, with the configuration of the adapter unless one is given. -/
def start (parser : Operation.Parser) (adapter : Adapter) (candidate : Candidate)
    (config : Option StatementConfig) (journal : Journal) : Except Error Session :=
  if candidate.isUsable then
    let config := config.getD adapter.sessionConfig
    .ok { adapter := adapter, config := config, compiler := .new parser config,
          lastResult := none, journal := journal }
  else
    .error (.library (.ofArguments .improperConfiguration
      [.str (adapter.sessionName ++ " requires a DB-API connection, got " ++ candidate.typeName)]
      (.str "")))

def logger : String := "sqlmark.driver"

def compilerLogger : String := "sqlmark.core.compiler"

def logCompiled (compiled : Compiled) : Action Session Unit :=
  logRecord .debug compilerLogger
    ("Compiled " ++ compiled.mode.text ++ " template with " ++ toString compiled.queue.length ++
      " bind entries (" ++ compiled.operation.text ++ ")") none

/-- Compiles a template. What the compiler remembers is kept even when the template cannot be
compiled. -/
def compile (template : String) (arguments : List Value) : Action Session Compiled := do
  let session ← .state
  let (outcome, compiler) := session.compiler.compile template arguments
  .change fun session => { session with compiler := compiler }
  let compiled ← .ofExcept (outcome.mapError (Template.CompileFault.toError template))
  logCompiled compiled
  return compiled

def buildInsert (verb : String) (table rows : Value) (columns : Option Value) :
    Action Session Compiled := do
  let session ← .state
  let (sql, queue) ←
    .ofExcept ((Insert.build verb table rows columns).mapError Insert.InsertFault.toError)
  let compiled := session.compiler.fromQueue sql queue
  logCompiled compiled
  return compiled

/-- Prepares SQL for the connection of a session. -/
def prepare (session : Session) (sql : String) : Prepared :=
  .new session.adapter.statementName session.adapter.markerStyle sql
    session.config.statementCoercions

/-- Executes a prepared statement; faults of the database become errors about its SQL. -/
def executePrepared (connection : Connection) (prepared : Prepared) (session : Session) :
    Except Error Prepared × Session :=
  match Prepared.execute connection { prepared := prepared, journal := session.journal } with
  | (outcome, running) =>
    ((outcome.map fun _ => running.prepared).mapError
        (session.adapter.classify (some prepared.sql)),
      { session with journal := running.journal })

def attempt (connection : Connection) (compiled : Compiled) (session : Session) :
    (Except Error Prepared × Queue) × Session :=
  match (session.prepare compiled.sql).bindQueue 1 compiled.queue with
  | (.error error, left) =>
    ((.error (session.adapter.classify (some compiled.sql) error), left), session)
  | (.ok prepared, left) =>
    let (outcome, session) := executePrepared connection prepared session
    ((outcome, left), session)

def statementFields (compiled : Compiled) (more : List (Value × Value)) : List (Value × Value) :=
  [(.str "operation", .str compiled.operation.text), (.str "sql", .str compiled.sql),
    (.str "bind_count", .int compiled.queue.length)] ++ more

def keepResult (result : Option StatementResult) : Action Session Unit :=
  .change fun session => { session with lastResult := result }

def detailOf : Error → String
  | .library error => error.detail.text
  | .fault cause => cause.text

def resultOf (statement : Compiled) (prepared : Prepared) : StatementResult :=
  .succeeded statement prepared.rows prepared.columnNames prepared.rowCount
    (some [prepared.lastRowId]) true

/-- What becomes of an attempt to run a statement: a result, which is logged and kept, or an error.
Unless the configuration is strict, a statement that failed has an empty result. -/
def conclude (compiled : Compiled) (left : Queue) (outcome : Except Error Prepared) :
    Action Session StatementResult := do
  let session ← .state
  let statement := { compiled with queue := left }
  match outcome with
  | .ok prepared =>
    let result := resultOf statement prepared
    logRecord .debug logger ("Executed " ++ compiled.operation.text ++ " statement")
      (some (statementFields compiled [(.str "rows_affected", result.rowsAffected)]))
    keepResult (some result)
    return result
  | .error error =>
    if error.isStatementError && !session.config.strict.isTruthy then
      logRecord .warning logger
        ("Statement failed, returning empty result: " ++ detailOf error)
        (some (statementFields compiled []))
      let result := StatementResult.failed statement error
      keepResult (some result)
      return result
    else .fail error

/-- Runs a compiled statement, and tells what is left in its queue. -/
def run (connection : Connection) (compiled : Compiled) (session : Session) : Run × Session :=
  let session := { session with lastResult := none }
  let ((outcome, left), session) := attempt connection compiled session
  let (result, session) := conclude compiled left outcome session
  ({ outcome := result, left := left }, session)

def runStatement (connection : Connection) (compiled : Compiled) :
    Action Session StatementResult := fun session =>
  let (ran, session) := run connection compiled session
  (ran.outcome, session)

def query (connection : Connection) (template : String) (arguments : List Value) :
    Action Session StatementResult := do
  keepResult none
  let compiled ← compile template arguments
  runStatement connection compiled

inductive InsertMode
  /-- Rows that exist are an error. -/
  | insert
  /-- Rows that exist are passed over. -/
  | ignore
  /-- Rows that exist are replaced. -/
  | replace
  deriving DecidableEq, Repr, Inhabited

/-- The words that an insertion starts with. -/
def InsertMode.verb (config : StatementConfig) : InsertMode → String
  | insert => "INSERT"
  | ignore => config.insertIgnoreVerb.text
  | replace => "REPLACE"

/-- Inserts rows, and tells the number of affected rows. -/
def insertRows (connection : Connection) (mode : InsertMode) (table rows : Value)
    (columns : Option Value) : Action Session Value := do
  let session ← .state
  let compiled ← buildInsert (mode.verb session.config) table rows columns
  let result ← runStatement connection compiled
  return result.rowsAffected

/-- Executes SQL to which nothing is bound, and tells whether it succeeded. Unless the
configuration is strict, a failure is logged instead of raised. -/
def executeUnbound (connection : Connection) (sql : String) : Action Session Bool :=
  fun session =>
    match executePrepared connection (session.prepare sql) session with
    | (.ok _, session) => (.ok true, session)
    | (.error error, session) =>
      if error.isStatementError && !session.config.strict.isTruthy then
        let (_, session) :=
          (logRecord .warning logger ("Statement failed: " ++ detailOf error) none :
            Action Session Unit) session
        (.ok false, session)
      else (.error error, session)

/-- Fails if the database has no table locks. -/
def requireLocks : Action Session Unit := do
  let session ← .state
  if session.config.supportsTableLocks.isTruthy then return ()
  else
    .fail (.about .statement
      (session.adapter.sessionName ++ " does not support table locks") none)

def lock (connection : Connection) (tables : Value) : Action Session Bool := do
  requireLocks
  let sql ← .ofExcept ((Lock.build tables).mapError Lock.LockFault.toError)
  executeUnbound connection sql

def unlock (connection : Connection) : Action Session Bool := do
  requireLocks
  executeUnbound connection "UNLOCK TABLES"

/-- Makes a computation's faults of the database errors about some SQL. -/
def classifying {α : Type} (sql : Option String) (body : Action Session α) :
    Action Session α := do
  let session ← .state
  body.mapError (session.adapter.classify sql)

def begin (connection : Connection) : Action Session Unit := do
  let session ← .state
  match session.adapter with
  | .sqlite =>
    classifying (some "BEGIN") (connection.ask (.statement "BEGIN"))
    logRecord .debug "sqlmark.adapters.sqlite" "Started SQLite transaction" none
  | .mysql =>
    classifying (some "BEGIN") (connection.ask .begin)
    logRecord .debug "sqlmark.adapters.pymysql" "Started MySQL transaction" none
  | .plain => connection.ask .begin

/-- Ends a transaction by a call of the connection, which the plain adapter leaves alone. -/
def endTransaction (sql : String) (body : Action Session Unit) : Action Session Unit := do
  let session ← .state
  match session.adapter with
  | .plain => body
  | .sqlite | .mysql => classifying (some sql) body

def commit (connection : Connection) : Action Session Unit :=
  endTransaction "COMMIT" (connection.ask .commit)

def rollback (connection : Connection) : Action Session Unit :=
  endTransaction "ROLLBACK" (connection.ask .rollback)

def lastIdSql : String := "SELECT last_insert_rowid()"

/-- A value as an integer, or the fault of its conversion. -/
def integerValue (value : Value) : Except Error Value :=
  (value.toInteger.map Value.int).mapError Error.ofKind

/-- The first row of the statement that asks SQLite for the last inserted id. -/
def askLastId (connection : Connection) : Action Session (Option Value) := do
  connection.ask (.statement lastIdSql)
  connection.ask .fetchOne

def lastInsertId (connection : Connection) : Action Session Value := do
  let session ← .state
  match session.adapter with
  | .sqlite =>
    let row ← classifying (some lastIdSql) (askLastId connection)
    match row with
    | none | some .null => return .null
    | some row =>
      let id ← .ofExcept ((row.item (.int 0)).mapError Error.ofKind)
      .ofExcept (integerValue id)
  | .mysql =>
    let id ← classifying none (connection.ask .insertId)
    if id.isTruthy then .ofExcept (integerValue id) else return .null
  | .plain => connection.ask .insertId

def affectedRows (session : Session) : Value :=
  (session.lastResult.map StatementResult.rowsAffected).getD .null

/-- Closes the connection; whatever fault it reports becomes an error of the library. -/
def close (connection : Connection) : Action Session Unit :=
  (connection.ask .close : Action Session Unit).mapError Error.wrapped

end Session

end SqlTemplate
