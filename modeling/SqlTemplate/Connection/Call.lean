import SqlTemplate.Error

/-! Calls on a connection, and connections as what answers them. A connection decides each answer
by the calls that were made before, so that everything a session does can be read off its calls
and one connection. -/
namespace SqlTemplate

/-- Methods that a connection may lack. -/
inductive Method
  | cursor | execute | begin | commit | rollback | insertId | close
  deriving DecidableEq, Repr, Inhabited

def Method.name : Method → String
  | cursor => "cursor"
  | execute => "execute"
  | begin => "begin"
  | commit => "commit"
  | rollback => "rollback"
  | insertId => "insert_id"
  | close => "close"

def Method.ofName? (name : String) : Option Method :=
  [cursor, execute, begin, commit, rollback, insertId, close].find? (·.name == name)

/-- Calls on a connection and on the cursor that was opened last. -/
inductive Call
  | openCursor
  | execute (sql : String) (parameters : Option Value)
  /-- Asks for the names of the result columns. -/
  | description
  | fetchAll
  | rowCount
  | lastRowId
  | closeCursor
  /-- Executes a statement on a cursor that the connection opens itself. -/
  | statement (sql : String)
  /-- Asks for the first row of that statement. -/
  | fetchOne
  | begin
  | commit
  | rollback
  | insertId
  | close
  deriving Repr, Inhabited

namespace Call

/-- What a call is answered with when it does not fail. -/
def Answer : Call → Type
  | description => Option (List Value)
  | fetchAll | rowCount | lastRowId | insertId => Value
  | fetchOne => Option Value
  | _ => Unit

/-- The method of the connection that a call needs. -/
def method? : Call → Option Method
  | openCursor => some .cursor
  | statement _ => some .execute
  | begin => some .begin
  | commit => some .commit
  | rollback => some .rollback
  | insertId => some .insertId
  | close => some .close
  | _ => none

end Call

structure Connection where
  /-- The name of the connection's type in messages. -/
  typeName : String
  offers : Method → Bool
  /-- The answer to a call after earlier calls. -/
  answer : List Call → (call : Call) → Except Error call.Answer

/-- A session needs these methods of its connection from the start. -/
def Connection.isUsable (connection : Connection) : Bool :=
  ([.cursor, .commit, .rollback, .close] : List Method).all connection.offers

def Connection.canAnswer (connection : Connection) (call : Call) : Bool :=
  call.method?.all connection.offers

end SqlTemplate
