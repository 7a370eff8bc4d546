import SqlTemplate.Log.Record
import SqlTemplate.Text.Capital

/-! Loggers of the package. They form a tree under one root, which decides what is written and in
which form; each named logger tags its records with the correlation id. -/
namespace SqlTemplate

namespace Logger

def root : String := "sqlmark"

/-- The loggers that exist from the start, besides the root. -/
def builtIn : List String :=
  ["config", "core.compiler", "core.statement", "driver", "adapters.pymysql",
    "adapters.pymysql.config", "adapters.sqlite", "adapters.sqlite.config"].map
    fun name => root ++ "." ++ name

/-- The full name of a logger. A name that does not lie under the root is put there. -/
def fullName : Option String → String
  | none => root
  | some name =>
    if name = root ∨ (root ++ ".").toList.isPrefixOf name.toList then name
    else root ++ "." ++ name

end Logger

/-- The loggers that tag their records. -/
structure LoggerTree where
  tagging : List String

namespace LoggerTree

/-- The tree as it is at the start: the root does not tag its records. -/
def initial : LoggerTree := { tagging := Logger.builtIn }

/-- Asks for a logger. One that is asked for by name tags its records from then on. -/
def get (tree : LoggerTree) (name : Option String) : String × LoggerTree :=
  let full := Logger.fullName name
  if name.isSome && !tree.tagging.contains full then
    (full, { tree with tagging := tree.tagging ++ [full] })
  else (full, tree)

/-- The number of times a logger tags its records. -/
def tags (tree : LoggerTree) (name : String) : Nat :=
  tree.tagging.count name

end LoggerTree

structure LogSetup where
  /-- The level of the root; zero leaves it to the surroundings, which ask for warnings. -/
  level : LogLevel
  structured : Bool
  /-- The number of handlers besides the one that writes. -/
  extraHandlers : Nat

namespace LogSetup

/-- A level as it is asked for: by name in any case, or by number. -/
def readLevel : String ⊕ Int → Except FaultKind LogLevel
  | .inr level => .ok level
  | .inl name => (LogLevel.ofName? (Text.capitals name.toList)).elim (.error .badValue) .ok

/-- The least level of records that are written. -/
def threshold (setup : LogSetup) : LogLevel :=
  if setup.level = 0 then LogLevel.warning else setup.level

/-- What happens between two states of the log: a record, or a change of the correlation id. -/
inductive Event
  | log (logger : Option String) (level : LogLevel) (message : String)
      (fields : List (Value × Value))
  | correlate (id : Value)

/-- Names that fields of a record cannot have, because they are the record's own. -/
def reservedFields : List String := ["logger", "level", "message"]

/-- Whether the fields of a record have names that fields can have. -/
def Event.isWellNamed : Event → Bool
  | correlate _ => true
  | log _ _ _ fields => fields.all fun
    | (.str name, _) => !reservedFields.contains name
    | _ => false

/-- Whether a record is written: its level must be positive and reach the threshold. -/
def admits (setup : LogSetup) (level : LogLevel) : Bool :=
  level > 0 && level ≥ setup.threshold

/-- The text written for some events, each record on a line. The location of a record is given as
a word, whatever its fields say. -/
def written (setup : LogSetup) (location : String) :
    LoggerTree → Value → List Event → String
  | _, _, [] => ""
  | tree, _, .correlate id :: rest => written setup location tree id rest
  | tree, current, .log logger level message fields :: rest =>
    let (name, tree) := tree.get logger
    let more := written setup location tree current rest
    if setup.admits level then
      let record : LogRecord :=
        { level := level, logger := name, message := message, correlation := .null
          fields := some (fields ++ [(.str "location", .str location)]) }
      let tagged := if tree.tags name = 0 then record else record.tag current
      let text := if setup.structured then tagged.json location current none else tagged.line
      text ++ "\n" ++ more
    else more

/-- What is written for some events from the start on. Fields must not have reserved names. -/
def transcript (setup : LogSetup) (location : String) (events : List Event) :
    Except FaultKind String :=
  if events.all Event.isWellNamed then .ok (setup.written location .initial .null events)
  else .error .wrongType

end LogSetup

end SqlTemplate
