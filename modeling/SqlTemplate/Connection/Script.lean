import SqlTemplate.Connection.Call

/-! A connection that plays a script instead of talking to a database. Every statement and every
method call takes the next reply of the script; questions about a statement are answered from the
reply that its execution took. -/
namespace SqlTemplate

/-- What a script says about one call. -/
structure ScriptReply where
  raises : Option Error
  /-- The value of a method call. -/
  value : Value
  columns : Option (List Value)
  rows : Value
  rowCount : Value
  /-- Set on the cursor if it is there, even when the statement fails. -/
  lastRowId : Option Value
  deriving Inhabited

/-- The reply to a call for which the script has none. -/
def ScriptReply.none : ScriptReply :=
  { raises := .none, value := .null, columns := .none, rows := .list [], rowCount := .int (-1),
    lastRowId := .none }

namespace Script

/-- Whether a call takes a reply of its own. -/
def takesReply : Call → Bool
  | .execute .. | .statement _ | .begin | .commit | .rollback | .insertId | .close => true
  | _ => false

/-- The replies that are left after some calls. -/
def remaining (replies : List ScriptReply) (calls : List Call) : List ScriptReply :=
  replies.drop (calls.filter takesReply).length

/-- The reply that the next statement or method call takes. -/
def next (replies : List ScriptReply) (calls : List Call) : ScriptReply :=
  (remaining replies calls).headD .none

/-- The reply that the last statement or method call took. -/
def current (replies : List ScriptReply) (calls : List Call) : ScriptReply :=
  match (calls.filter takesReply).length with
  | 0 => .none
  | taken + 1 => (replies.drop taken).headD .none

def perform (reply : ScriptReply) : Except Error Unit :=
  match reply.raises with
  | some error => .error error
  | .none => .ok ()

def firstRow (reply : ScriptReply) : Option Value :=
  (reply.rows.iterate?.getD []).head?

/-- The answer of a script to a call. -/
def answer (replies : List ScriptReply) (calls : List Call) :
    (call : Call) → Except Error call.Answer
  | .execute .. | .statement _ | .begin | .commit | .rollback | .close =>
    perform (next replies calls)
  | .insertId =>
    let reply := next replies calls
    (perform reply).map fun _ => reply.value
  | .description => .ok (current replies calls).columns
  | .fetchAll => .ok (current replies calls).rows
  | .rowCount => .ok (current replies calls).rowCount
  | .lastRowId => .ok ((current replies calls).lastRowId.getD .null)
  | .fetchOne => .ok (firstRow (current replies calls))
  | .openCursor | .closeCursor => .ok ()

end Script

/-- The connection that plays a script and lacks some methods. -/
def Connection.scripted (typeName : String) (missing : List Method)
    (replies : List ScriptReply) : Connection :=
  { typeName := typeName, offers := fun method => !missing.contains method,
    answer := Script.answer replies }

end SqlTemplate
