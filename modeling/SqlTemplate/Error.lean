import SqlTemplate.Text.Blank
import SqlTemplate.Value.Equality
import SqlTemplate.Value.Text

/-! Errors. The library's own errors carry a detail, further texts and the SQL they are about.
Everything else that can go wrong is a fault: it passes through the library, which may turn it into
an error of its own. -/
namespace SqlTemplate

/-- Something that went wrong outside the library. Its arguments are taken to have texts. -/
structure Fault where
  kind : FaultKind
  arguments : List Value
  deriving Repr, Inhabited

def Fault.of (kind : FaultKind) : Fault := { kind := kind, arguments := [] }

/-- What a fault of the system is told apart by: its number, a text, and the files it is about. -/
structure SystemReport where
  number : Value
  text : Value
  file : Value
  otherFile : Value

/-- The report that the arguments of a system fault are, when there are two to five of them. The
fourth has no meaning. -/
def SystemReport.ofArguments? : List Value → Option SystemReport
  | [number, text] => some ⟨number, text, .null, .null⟩
  | [number, text, file] | [number, text, file, _] => some ⟨number, text, file, .null⟩
  | [number, text, file, _, otherFile] => some ⟨number, text, file, otherFile⟩
  | _ => none

/-- The numbers of system faults that have a name of their own. -/
def systemNames : List (Int × String) :=
  [(1, "PermissionError"), (2, "FileNotFoundError"), (3, "ProcessLookupError"),
    (4, "InterruptedError"), (10, "ChildProcessError"), (11, "BlockingIOError"),
    (13, "PermissionError"), (17, "FileExistsError"), (20, "NotADirectoryError"),
    (21, "IsADirectoryError"), (32, "BrokenPipeError"), (103, "ConnectionAbortedError"),
    (104, "ConnectionResetError"), (108, "BrokenPipeError"), (110, "TimeoutError"),
    (111, "ConnectionRefusedError"), (114, "BlockingIOError"), (115, "BlockingIOError")]

/-- The number of a system fault, if it is a number at all. -/
def SystemReport.code? (report : SystemReport) : Option Int :=
  match report.number with
  | .int n => some n
  | .bool b => some (if b then 1 else 0)
  | _ => none

def SystemReport.name (report : SystemReport) : String :=
  (report.code?.bind fun code => systemNames.lookup code).getD "OSError"

/-- Whether a report names a file. A blocked transfer counts what was written in its place. -/
def SystemReport.hasFile (report : SystemReport) : Bool :=
  match report.file with
  | .null => false
  | file => report.name != "BlockingIOError" || file.magnitude?.isNone

def SystemReport.message (report : SystemReport) : String :=
  let start := "[Errno " ++ report.number.text ++ "] " ++ report.text.text
  if !report.hasFile then start
  else
    match report.otherFile with
    | .null => start ++ ": " ++ report.file.literal
    | other => start ++ ": " ++ report.file.literal ++ " -> " ++ other.literal

namespace Fault

def report? (fault : Fault) : Option SystemReport :=
  if fault.kind = .system then SystemReport.ofArguments? fault.arguments else none

/-- The name of a fault: system faults are told apart by their numbers. -/
def name (fault : Fault) : String := (fault.report?.map SystemReport.name).getD fault.kind.name

def fullName (fault : Fault) : String :=
  (fault.report?.map SystemReport.name).getD fault.kind.fullName

/-- The only argument of a fault stands for itself, except that a missing key is shown as a
literal; several arguments are shown together. -/
def argumentText (fault : Fault) : String :=
  match fault.arguments with
  | [] => ""
  | [argument] => if fault.kind = .missingKey then argument.literal else argument.text
  | arguments => (Value.tuple arguments).literal

def text (fault : Fault) : String :=
  (fault.report?.map SystemReport.message).getD fault.argumentText

/-- The literal of a fault. The files of a system fault are not shown. -/
def literal (fault : Fault) : String :=
  let shown := if fault.report?.any SystemReport.hasFile then fault.arguments.take 2
    else fault.arguments
  callText fault.name (shown.map Value.literal)

end Fault

/-- Whether a fault is an error of some database software; its warnings are not. -/
def Fault.isDatabaseError (engine : Engine) (fault : Fault) : Bool :=
  match fault.kind with
  | .database origin name => origin = engine && name != "Warning"
  | _ => false

inductive ErrorClass
  | general | missingDependency | improperConfiguration | noConnection | statement
  | parameter | malformedTemplate | missingParameter | extraParameter | styleMismatch
  /-- A class of the user's own, with the detail its errors have when they are given none. -/
  | custom (name detail : String)
  deriving DecidableEq, Repr, Inhabited

def ErrorClass.name : ErrorClass → String
  | general => "SQLMarkError"
  | missingDependency => "MissingDependencyError"
  | improperConfiguration => "ImproperConfigurationError"
  | noConnection => "DatabaseConnectionError"
  | statement => "StatementError"
  | parameter => "ParameterError"
  | malformedTemplate => "MalformedTemplateError"
  | missingParameter => "MissingParameterError"
  | extraParameter => "ExtraParameterError"
  | styleMismatch => "ParameterStyleMismatchError"
  | custom name _ => name

/-- The class and those it is a special case of, from the most special. -/
def ErrorClass.lineage : ErrorClass → List ErrorClass
  | general => [general]
  | parameter => [parameter, general]
  | malformedTemplate => [malformedTemplate, parameter, general]
  | missingParameter => [missingParameter, parameter, general]
  | extraParameter => [extraParameter, parameter, general]
  | cls => [cls, general]

/-- The names of the library's own classes that a class belongs to, in alphabetical order. -/
def ErrorClass.families (cls : ErrorClass) : List String :=
  let own := cls.lineage.filter fun
    | custom .. => false
    | _ => true
  (own.map ErrorClass.name).mergeSort fun a b => decide (a ≤ b)

/-- The detail of an error that is given none, if its class has one. -/
def ErrorClass.defaultDetail? : ErrorClass → Option String
  | custom _ detail => some detail
  | _ => none

structure LibraryError where
  cls : ErrorClass
  arguments : List String
  /-- A text, unless the error was made with something else. -/
  detail : Value
  /-- The SQL that the error is about, as it was given, or null. -/
  sql : Value
  /-- The fault that the error reports. -/
  cause : Option Fault
  deriving Repr, Inhabited

namespace LibraryError

/-- An error with arguments, of which those that count as false are dropped. If the detail counts
as false, the first argument takes its place, or else the detail of the class. -/
def ofArguments (cls : ErrorClass) (arguments : List Value) (detail : Value) : LibraryError :=
  let texts := (arguments.filter Value.isTruthy).map Value.text
  let (detail, texts) :=
    if detail.isTruthy then (detail, texts)
    else
      match texts with
      | first :: rest => (.str first, rest)
      | [] => ((cls.defaultDetail?.map Value.str).getD detail, [])
  { cls := cls, arguments := texts, detail := detail, sql := .null, cause := none }

/-- An error about some SQL. The SQL is shown below the message unless it counts as false. -/
def about (cls : ErrorClass) (message sql : Value) : LibraryError :=
  let detail := if sql.isTruthy then .str (message.text ++ "\nSQL: " ++ sql.text) else message
  { ofArguments cls [] detail with sql := sql }

/-- The message of a mismatch between arguments and template that is given no other. -/
def styleMismatchMessage : String :=
  "Parameter style mismatch: arguments provided but no placeholder tokens " ++
    "or named markers found in SQL."

/-- A value that may be left out. -/
def orElse (value : Value) (default : String) : Value :=
  match value with
  | .null => .str default
  | value => value

/-- Arguments for a template that has nothing to fill. -/
def styleMismatch (message sql : Value) : LibraryError :=
  about .styleMismatch (orElse message styleMismatchMessage) sql

/-- A database that cannot be reached. -/
def noConnection (message : Value) : LibraryError :=
  ofArguments .noConnection [orElse message "Could not connect to the database."] (.str "")

/-- A package that has to be installed; the name to install it by may differ from its own. -/
def missingDependency (package installAs : Value) : LibraryError :=
  let source := if installAs.isTruthy then installAs.text else package.text
  ofArguments .missingDependency
    [.str ("Package " ++ package.literal ++ " is not installed but required. " ++
      "You can install it by running 'pip install sqlmark[" ++ source ++ "]' to install sqlmark " ++
      "with the required extra or 'pip install " ++ source ++
      "' to install the package separately")]
    (.str "")

/-- The names of the parameters that errors of a class are made from, if it is not any number of
arguments. -/
def parameters? : ErrorClass → Option (List String)
  | .general | .improperConfiguration | .custom .. => none
  | .noConnection => some ["message"]
  | .missingDependency => some ["package", "install_package"]
  | _ => some ["message", "sql"]

/-- An error that is made of the texts of some values, if they have any. -/
def fromTexts (values : List Value) (error : LibraryError) : Except Fault LibraryError :=
  if Value.areWritable values then .ok error else .error (.of .badValue)

/-- The values whose texts stand in an error about some SQL. A message alone is kept as it is. -/
def textsAbout (message sql : Value) : List Value :=
  if sql.isTruthy then [message, sql] else []

/-- An error of a class from the values of its parameters. All but the first may be left out, and
where there is a usual message the first may be left out too. -/
def ofParameters (cls : ErrorClass) (first second : Option Value) : Except Fault LibraryError :=
  let given := first.getD .null
  let second := second.getD .null
  match cls, first with
  | .noConnection, _ => fromTexts ([given].filter Value.isTruthy) (noConnection given)
  | .styleMismatch, _ => fromTexts (textsAbout given second) (styleMismatch given second)
  | .missingDependency, some package =>
    fromTexts (package :: [second].filter Value.isTruthy) (missingDependency package second)
  | _, some message => fromTexts (textsAbout message second) (about cls message second)
  | _, none => .error (.of .wrongType)

/-- An error of a class from arguments and named arguments. -/
def make (cls : ErrorClass) (arguments : List Value) (named : List (String × Value)) :
    Except Fault LibraryError :=
  match parameters? cls with
  | none =>
    if named.all (·.1 == "detail") then
      fromTexts (arguments.filter Value.isTruthy)
        (ofArguments cls arguments ((named.lookup "detail").getD (.str "")))
    else .error (.of .wrongType)
  | some names =>
    let rest := names.drop arguments.length
    if arguments.length > names.length ∨ !named.all (rest.contains ·.1) then
      .error (.of .wrongType)
    else
      let given := names.zip arguments ++ named
      let value (name : Option String) := name.bind fun name => given.lookup name
      ofParameters cls (value names.head?) (value (names.drop 1).head?)

/-- The arguments and then the detail, without blanks around them. An error whose detail is no text
has no message. -/
def text? (error : LibraryError) : Option String :=
  match error.detail with
  | .str detail => some (Text.trim (" ".intercalate (error.arguments ++ [detail])))
  | _ => none

def literal (error : LibraryError) : Except FaultKind String :=
  if error.detail.isTruthy then
    error.detail.toText.map fun detail => error.cls.name ++ " - " ++ detail
  else .ok error.cls.name

end LibraryError

/-- What an operation can end in instead of a value. -/
inductive Error
  | library (error : LibraryError)
  | fault (fault : Fault)
  deriving Repr, Inhabited

namespace Error

def ofKind (kind : FaultKind) : Error := .fault (.of kind)

def about (cls : ErrorClass) (message : String) (sql : Option String) : Error :=
  .library (.about cls (.str message) ((sql.map Value.str).getD .null))

def name : Error → String
  | library error => error.cls.name
  | fault cause => cause.name

def text? : Error → Option String
  | library error => error.text?
  | fault cause => some cause.text

def literal : Error → Except FaultKind String
  | library error => error.literal
  | fault cause => .ok cause.literal

/-- What stands in a report for a message that cannot be had. -/
def noMessage : String := "<exception str() failed>"

/-- The line that ends the report of an error: its full name, and its message unless it is empty. -/
def report (error : Error) : String :=
  let name :=
    match error with
    | library error => "sqlmark.exceptions." ++ error.cls.name
    | fault cause => cause.fullName
  match error.text? with
  | none => name ++ ": " ++ noMessage
  | some "" => name
  | some text => name ++ ": " ++ text

/-- The message under which faults of an operation on the connection itself are reported. -/
def operationFailed : String := "An error occurred during the operation."

/-- An error of the library passes; a fault becomes one. -/
def wrapped : Error → Error
  | fault cause =>
    .library { LibraryError.ofArguments .general [] (.str operationFailed) with
      cause := some cause }
  | error => error

/-- Whether an error is of the library's class for statements that failed. -/
def isStatementError : Error → Bool
  | library error => error.cls.lineage.contains .statement
  | fault _ => false

end Error

end SqlTemplate
