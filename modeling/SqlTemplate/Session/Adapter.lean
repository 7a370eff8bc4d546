import SqlTemplate.Statement.Config
import SqlTemplate.Statement.Prepared

/-! Adapters: what differs from one kind of database to the other. -/
namespace SqlTemplate

/-- Kinds of database. The plain one leaves markers as they are and knows no faults of its own. -/
inductive Adapter
  | sqlite | mysql | plain
  deriving DecidableEq, Repr, Inhabited

namespace Adapter

def sessionName : Adapter → String
  | sqlite => "SqliteDriver"
  | mysql => "PyMysqlDriver"
  | plain => "QmarkDriver"

/-- The name of prepared statements in messages. -/
def statementName : Adapter → String
  | sqlite => "SqliteStatement"
  | mysql => "PyMysqlStatement"
  | plain => "QmarkStatement"

/-- The name of database settings in messages. -/
def databaseName : Adapter → String
  | sqlite => "SqliteConfig"
  | mysql => "PyMysqlConfig"
  | plain => "QmarkConfig"

/-- The configuration of a session that is given none. -/
def sessionConfig : Adapter → StatementConfig
  | sqlite => .sqlite
  | mysql | plain => .standard

/-- How placeholders and markers are sent. -/
def markerStyle : Adapter → MarkerStyle
  | sqlite => .colon
  | mysql => .percent
  | plain => .verbatim

/-- An error for a statement that failed because of a fault. -/
def statementFailed (message : String) (sql : Option String) (cause : Fault) : Error :=
  .library { LibraryError.about .statement (.str message) ((sql.map Value.str).getD .null) with
    cause := some cause }

/-- The message for a fault of the database, if a fault is one. -/
def faultMessage? (adapter : Adapter) (fault : Fault) : Option String :=
  match adapter with
  | sqlite =>
    if fault.isDatabaseError .sqlite then some ("SQLite database error: " ++ fault.text) else none
  | mysql =>
    if fault.isDatabaseError .mysql then
      some ("MySQL database error [" ++ (fault.arguments.headD .null).text ++ "]: " ++ fault.text)
    else none
  | plain => if fault.kind = .failure then some ("Driver error: " ++ fault.text) else none

/-- A fault of the database becomes an error about the statement; any other error stays. -/
def classify (adapter : Adapter) (sql : Option String) (error : Error) : Error :=
  match error with
  | .library _ => error
  | .fault cause =>
    match adapter.faultMessage? cause with
    | some message => statementFailed message sql cause
    | none => error

end Adapter

end SqlTemplate
