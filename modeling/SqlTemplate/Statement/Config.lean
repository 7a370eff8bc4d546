import SqlTemplate.Binding.Coercion

/-! How the statements of a session are compiled and run. The attributes of a configuration keep the
values that they are given, and a switch is on when its value counts as true. -/
namespace SqlTemplate

structure StatementConfig where
  /-- The name of the dialect by which operations are recognized, or null. -/
  dialect : Value
  /-- Whether a statement that fails raises an error, or gives an empty result. -/
  strict : Value
  /-- Whether operations are recognized by parsing. -/
  enableParsing : Value
  /-- The conversion for each bind type. -/
  coercions : BindType → Converter
  /-- How an insertion starts that passes over rows that exist. -/
  insertIgnoreVerb : Value
  /-- Whether tables can be locked. -/
  supportsTableLocks : Value
  /-- How many templates are remembered. It must be a number once a template is cut. -/
  templateCacheSize : Value

namespace StatementConfig

/-- The conversions for all bind types: those that are given, and the usual ones for the rest. -/
def mergeCoercions (coercions : Option Coercions) (type : BindType) : Converter :=
  (coercions.bind (· type)).getD (.standard type)

/-- The configuration of a session that is given none. -/
def standard : StatementConfig :=
  { dialect := .str "mysql", strict := .bool true, enableParsing := .bool true,
    coercions := mergeCoercions none, insertIgnoreVerb := .str "INSERT IGNORE",
    supportsTableLocks := .bool true, templateCacheSize := .int 1000 }

def sqlite : StatementConfig :=
  { standard with
    dialect := .str "sqlite", coercions := mergeCoercions (some Coercions.sqlite),
    insertIgnoreVerb := .str "INSERT OR IGNORE", supportsTableLocks := .bool false }

/-- The name of the dialect. What is no text names no dialect that is known. -/
def dialectName (config : StatementConfig) : Option String :=
  match config.dialect with
  | .str name => some name
  | value => if value.isTruthy then some value.literal else none

/-- Attributes to be changed, each with its new value. -/
structure Changes where
  dialect : Option Value
  strict : Option Value
  enableParsing : Option Value
  coercions : Option (Option Coercions)
  insertIgnoreVerb : Option Value
  supportsTableLocks : Option Value
  templateCacheSize : Option Value
  /-- Names of attributes that a configuration does not have. -/
  unknown : List String

/-- The message for attributes that a configuration does not have, in alphabetical order. -/
def unknownMessage (names : List String) : String :=
  "Unknown StatementConfig attributes: " ++
    ", ".intercalate (names.mergeSort fun a b => decide (a ≤ b))

/-- A configuration with some attributes changed. Conversions that are given replace the usual
ones, not those of the configuration. Unknown attributes are refused. -/
def replace (config : StatementConfig) (changes : Changes) : Except Fault StatementConfig :=
  if changes.unknown ≠ [] then
    .error { kind := .wrongType, arguments := [.str (unknownMessage changes.unknown)] }
  else
    .ok
      { dialect := changes.dialect.getD config.dialect
        strict := changes.strict.getD config.strict
        enableParsing := changes.enableParsing.getD config.enableParsing
        coercions := (changes.coercions.map mergeCoercions).getD config.coercions
        insertIgnoreVerb := changes.insertIgnoreVerb.getD config.insertIgnoreVerb
        supportsTableLocks := changes.supportsTableLocks.getD config.supportsTableLocks
        templateCacheSize := changes.templateCacheSize.getD config.templateCacheSize }

/-- The conversions of a configuration, as they are given to a statement. -/
def statementCoercions (config : StatementConfig) : Option Coercions :=
  some fun type => some (config.coercions type)

/-- The bind types whose conversion is not the usual one, in alphabetical order. -/
def customCoercions (config : StatementConfig) : List String :=
  ([.boolean, .integer, .null, .string] : List BindType).filterMap fun type =>
    if (config.coercions type).isStandardFor type then none else some type.text

def literal (config : StatementConfig) : Except FaultKind String := do
  let shown ← [config.dialect, config.strict, config.enableParsing, config.insertIgnoreVerb,
    config.supportsTableLocks].mapM Value.toLiteral
  let names := ["dialect=", "strict=", "enable_parsing=", "insert_ignore_verb=",
    "supports_table_locks="]
  return callText "StatementConfig" (names.zipWith (· ++ ·) shown)

end StatementConfig

end SqlTemplate
