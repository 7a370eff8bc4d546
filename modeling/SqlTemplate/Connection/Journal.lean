import SqlTemplate.Action
import SqlTemplate.Connection.Call
import SqlTemplate.Log.Record

/-! The journal of what is done on a connection: the calls that are made and the records that are
logged, both in order. -/
namespace SqlTemplate

/-- The log, with the level that records must reach and the correlation id they are tagged with. -/
structure Log where
  threshold : LogLevel
  correlation : Value
  records : List LogRecord
  deriving Inhabited

def Log.empty (threshold : LogLevel) : Log :=
  { threshold := threshold, correlation := .null, records := [] }

/-- Adds a record if its level reaches that of the log. -/
def Log.add (log : Log) (record : LogRecord) : Log :=
  if record.level ≥ log.threshold then
    { log with records := log.records ++ [record.tag log.correlation] }
  else log

/-- The calls made on a connection and the log. -/
structure Journal where
  calls : List Call
  log : Log
  deriving Inhabited

def Journal.empty (threshold : LogLevel) : Journal := { calls := [], log := .empty threshold }

/-- A state that keeps a journal. -/
class Keeps (σ : Type) where
  journal : σ → Journal
  update : (Journal → Journal) → σ → σ

instance : Keeps Journal where
  journal journal := journal
  update change := change

/-- Makes a call and notes it in the journal. A call of a method that the connection does not have
is not made. -/
def Connection.ask {σ : Type} [Keeps σ] (connection : Connection) (call : Call) :
    Action σ call.Answer := fun state =>
  if connection.canAnswer call then
    (connection.answer (Keeps.journal state).calls call,
      Keeps.update (fun journal => { journal with calls := journal.calls ++ [call] }) state)
  else (.error (.ofKind .missingMethod), state)

def logRecord {σ : Type} [Keeps σ] (level : LogLevel) (logger message : String)
    (fields : Option (List (Value × Value))) : Action σ Unit :=
  let record : LogRecord :=
    { level := level, logger := logger, message := message, fields := fields, correlation := .null }
  .change (Keeps.update fun journal => { journal with log := journal.log.add record })

end SqlTemplate
