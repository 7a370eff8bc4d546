import SqlTemplate.Binding.Queue
import SqlTemplate.Statement.Operation

/-! Compiled statements: SQL with the placeholders of the database, and what they stand for. -/
namespace SqlTemplate

/-- How a template was compiled: its tokens were filled, its markers were named, or there was
nothing to fill. -/
inductive TemplateMode
  | template | named | static
  /-- What is said of a statement that was put together by hand. -/
  | other (word : String)
  deriving DecidableEq, Repr, Inhabited

namespace TemplateMode

def text : TemplateMode → String
  | template => "template"
  | named => "named"
  | static => "static"
  | other word => word

/-- The mode that a word names. -/
def ofText (word : String) : TemplateMode :=
  ([template, named, static].find? fun mode => mode.text == word).getD (other word)

end TemplateMode

/-- A statement that is ready to be run. -/
structure Compiled where
  sql : String
  /-- The entries that are still to be bound, in the order of the placeholders. -/
  queue : Queue
  mode : TemplateMode
  operation : OperationType
  /-- The template that the statement was compiled from. -/
  template : String
  deriving Repr, Inhabited

namespace Compiled

def literal (compiled : Compiled) : Except FaultKind String :=
  (Queue.literal compiled.queue).map fun queue =>
    callText "CompiledStatement"
      ["sql=" ++ Text.quoted compiled.sql, "queue=" ++ queue,
        "mode=" ++ Text.quoted compiled.mode.text,
        "operation_type=" ++ Text.quoted compiled.operation.text]

end Compiled

end SqlTemplate
