import SqlTemplate.Json.Encode
import SqlTemplate.Log.Message

/-! Log records and their two written forms: one JSON object, or one line of text. Records may be
tagged with the correlation id of the work in progress. -/
namespace SqlTemplate

abbrev LogLevel := Int

namespace LogLevel

def debug : LogLevel := 10

def info : LogLevel := 20

def warning : LogLevel := 30

def names : List (String × LogLevel) :=
  [("CRITICAL", 50), ("ERROR", 40), ("WARNING", warning), ("INFO", info), ("DEBUG", debug),
    ("NOTSET", 0)]

def name (level : LogLevel) : String :=
  match names.find? fun entry => entry.2 == level with
  | some entry => entry.1
  | none => "Level " ++ toString level

/-- The level of a name; two names have a short or an old form. -/
def ofName? (name : String) : Option LogLevel :=
  (("WARN", warning) :: ("FATAL", (50 : LogLevel)) :: names).lookup name

end LogLevel

structure LogRecord where
  level : LogLevel
  logger : String
  message : String
  /-- Fields that are attached to the record, in order. -/
  fields : Option (List (Value × Value))
  /-- The correlation id that the record is tagged with, or null. -/
  correlation : Value
  deriving Repr, Inhabited

/-- What is written for the time of a record. -/
def timeText : String := "TIME"

namespace LogRecord

/-- Tags a record with the correlation id of the work in progress, if there is one. -/
def tag (record : LogRecord) (current : Value) : LogRecord :=
  match current with
  | .null => record
  | id => { record with correlation := id }

/-- The correlation id that is written: that of the record unless it counts as false, or else that
of the work in progress. -/
def writtenCorrelation (record : LogRecord) (current : Value) : Value :=
  if record.correlation.isTruthy then record.correlation else current

/-- The entries of the JSON form. Attached fields replace entries of the same name. -/
def payload (record : LogRecord) (location : String) (current : Value)
    (exception : Option String) : List (Value × Value) :=
  let start :=
    [("timestamp", timeText), ("level", record.level.name), ("logger", record.logger),
      ("message", record.message), ("location", location)].map fun (key, text) =>
        (Value.str key, Value.str text)
  let tagged :=
    match record.writtenCorrelation current with
    | .null => start
    | id => Value.put start (.str "correlation_id") id
  let withFields := (record.fields.getD []).foldl
    (fun entries field => Value.put entries field.1 field.2) tagged
  match exception with
  | some report => Value.put withFields (.str "exception") (.str report)
  | none => withFields

def json (record : LogRecord) (location : String) (current : Value)
    (exception : Option String) : String :=
  Json.encode (.mapping (record.payload location current exception))

/-- The JSON form of a record whose message has its directives still to be carried out, with the
fields that a value stands for. A message that no text can hold is refused, unless a field takes its
place. -/
def jsonOf (record : LogRecord) (arguments : List Value) (fields : Value) (location : String)
    (current : Value) (exception : Option String) : Except FaultKind String := do
  let message ← Message.format record.message arguments
  let fields ← fields.toEntries
  if message.isNone && (Value.lookup? fields (.str "message")).isNone then .error .unencodable
  else
    let record := { record with message := message.getD "", fields := some fields }
    return record.json location current exception

/-- The form of a record as a line of text. -/
def line (record : LogRecord) : String :=
  " ".intercalate [timeText, record.level.name, record.logger] ++ ": " ++ record.message

end LogRecord

/-- The name of the module in a path: the last part without its last extension. A point at the
start of the part does not begin an extension. -/
def moduleName (path : String) : String :=
  let file := (path.toList.reverse.takeWhile (· ≠ '/')).reverse
  let dots := file.takeWhile (· = '.')
  let back := (file.dropWhile (· = '.')).reverse
  let stem :=
    if back.contains '.' then ((back.dropWhile (· ≠ '.')).drop 1).reverse else back.reverse
  String.ofList (dots ++ stem)

/-- Where in a program a record comes from. What is no path names no module. -/
def locationText (path function line : Value) : String :=
  let place :=
    match path with
    | .str path => moduleName path
    | _ => "Unknown module"
  place ++ "." ++ function.text ++ ":" ++ line.text

end SqlTemplate
