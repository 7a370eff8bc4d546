import SqlTemplate.Session.Basic

/-! Databases: the settings that connections are opened with, and the opening and closing of a
connection around its use. -/
namespace SqlTemplate

/-- Where the configuration of statements comes from. -/
inductive ConfigSource
  /-- The configuration that is shared by everything that uses an engine. -/
  | shared (engine : Engine)
  | own (config : StatementConfig)

def ConfigSource.config : ConfigSource → StatementConfig
  | shared .sqlite => .sqlite
  | shared .mysql => .standard
  | own it => it

/-- A database that connections can be opened to. -/
structure Database where
  adapter : Adapter
  settings : List (Value × Value)
  source : ConfigSource

namespace Database

/-- Adds settings that are not there. -/
def withDefaults (settings defaults : List (Value × Value)) : List (Value × Value) :=
  defaults.foldl (fun settings (key, value) =>
    if (Value.lookup? settings key).isSome then settings else Value.put settings key value) settings

def defaults : Adapter → List (Value × Value)
  | .sqlite => [(.str "database", .str ":memory:"), (.str "isolation_level", .null)]
  | .mysql =>
    [(.str "host", .str "localhost"), (.str "port", .int 3306), (.str "charset", .str "utf8mb4"),
      (.str "autocommit", .bool true)]
  | .plain => []

/-- A setting, which is null if it is not there. -/
def setting (settings : List (Value × Value)) (name : String) : Value :=
  (Value.lookup? settings (.str name)).getD .null

/-- Whether the path of a SQLite database is a URI although URIs are not asked for. -/
def needsUriMode (settings : List (Value × Value)) : Bool :=
  "file:".toList.isPrefixOf (setting settings "database").text.toList &&
    !(setting settings "uri").isTruthy

/-- The statement configuration of a database that is given none. -/
def defaultSource : Adapter → ConfigSource
  | .sqlite => .shared .sqlite
  | .mysql => .shared .mysql
  | .plain => .own .standard

/-- A database, from a value that stands for its settings; those that are missing are filled in.
The path of a SQLite database that is a URI is logged and made to be read as one. -/
def new (adapter : Adapter) (settings : Value) (source : Option ConfigSource) :
    Action Journal Database := do
  let given ← .ofExcept (settings.toEntries.mapError Error.ofKind)
  let filled := withDefaults given (defaults adapter)
  let source := source.getD (defaultSource adapter)
  if adapter = .sqlite ∧ !(setting filled "database").isWritable then .fail (.ofKind .badValue)
  else if adapter = .sqlite ∧ needsUriMode filled then
    logRecord .debug "sqlmark.adapters.sqlite.config"
      ("Database URI detected (" ++ (setting filled "database").text ++
        ") but uri=True not set, enabling URI mode") none
    return { adapter := adapter, settings := Value.put filled (.str "uri") (.bool true),
             source := source }
  else return { adapter := adapter, settings := filled, source := source }

/-- Whether statements are run under the configuration that the adapter's engine shares. -/
def usesSharedConfig (database : Database) : Bool :=
  match database.adapter, database.source with
  | .sqlite, .shared .sqlite => true
  | .mysql, .shared .mysql => true
  | _, _ => false

/-- Databases are equal when they are of one kind and have equal settings. -/
def equals (a b : Database) : Except FaultKind Bool :=
  if a.adapter = b.adapter then (Value.mapping a.settings).isEqual (.mapping b.settings)
  else .ok false

/-- The literal of a database, in which the password is not shown. -/
def literal (database : Database) : Except FaultKind String := do
  let safe := database.settings.map fun (key, value) =>
    if key.equals (.str "password") then (key, Value.str "***") else (key, value)
  let settings ← (Value.mapping safe).toLiteral
  let config ← database.source.config.literal
  return callText database.adapter.databaseName
    ["connection_config=" ++ settings, "statement_config=" ++ config]

/-- The arguments that a connection is opened with: settings without a value are left out, except
for SQLite, where they mean something. Only texts can name arguments. -/
def arguments (database : Database) : Except FaultKind (List (Value × Value)) :=
  let chosen :=
    match database.adapter with
    | .sqlite => database.settings
    | _ => database.settings.filter fun (_, value) =>
        match value with
        | .null => false
        | _ => true
  let named := chosen.all fun (key, _) =>
    match key with
    | .str _ => true
    | _ => false
  if named then .ok chosen else .error .wrongType

/-- A fault of the database on opening a connection becomes an error of the library. -/
def classifyOpening (database : Database) (error : Error) : Error :=
  let noConnection (message : String) (place : Except FaultKind String) (cause : Fault) : Error :=
    match place with
    | .error kind => .ofKind kind
    | .ok place =>
      .library { LibraryError.noConnection (.str (message ++ place ++ ": " ++ cause.text)) with
        cause := some cause }
  match error with
  | .library _ => error
  | .fault cause =>
    match database.adapter with
    | .sqlite =>
      if cause.isDatabaseError .sqlite then
        noConnection "Could not open SQLite database "
          (setting database.settings "database").toLiteral cause
      else error
    | .mysql =>
      if cause.isDatabaseError .mysql then
        noConnection "Could not connect to MySQL at "
          (setting database.settings "host").toText cause
      else error
    | .plain => error

/-- Opens a connection by a function of the arguments. -/
def connect (database : Database)
    (opening : List (Value × Value) → Except Error Connection) : Action Journal Connection := do
  let outcome : Except Error Connection :=
    match database.arguments with
    | .error kind => .error (.ofKind kind)
    | .ok arguments => opening arguments
  let connection ← .ofExcept (outcome.mapError database.classifyOpening)
  if database.adapter = .mysql then
    logRecord .debug "sqlmark.adapters.pymysql.config"
      ("Opened MySQL connection to " ++ (setting database.settings "host").text) none
  return connection

/-- Closes a connection that can be closed. -/
def release (database : Database) (connection : Connection) : Action Journal Unit := do
  if connection.offers .close then connection.ask .close
  logRecord .debug "sqlmark.config"
    ("Closed " ++ database.adapter.databaseName ++ " connection") none

/-- Uses a connection and closes it in any case. -/
def during {α : Type} (database : Database) (connection : Connection) (body : Action Journal α) :
    Action Journal α :=
  body.ensuring (database.release connection)

def session (parser : Operation.Parser) (database : Database) (connection : Connection)
    (config : Option StatementConfig) (journal : Journal) : Except Error Session :=
  Session.start parser database.adapter (.connection connection)
    (some (config.getD database.source.config)) journal

end Database

end SqlTemplate
