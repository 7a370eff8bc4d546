import SqlTemplate.Binding.Queue
import SqlTemplate.Error
import SqlTemplate.Template.Token
import SqlTemplate.Text.Identifier
import SqlTemplate.Text.Markup

/-! Filling of tokens. Each token turns its argument into a piece of SQL and the entries that the
placeholders of that piece stand for; only the raw token writes its argument into the SQL. -/
namespace SqlTemplate.Template

/-- Why a template cannot be compiled with its arguments. -/
inductive CompileFault
  | unknownToken (token : Token)
  /-- A column map token was given a sequence of this type. -/
  | sequenceForColumns (typeName : String)
  | tooFewArguments (tokens arguments : Nat)
  | tooManyArguments (tokens arguments : Nat)
  /-- There are arguments, but neither tokens nor named markers. -/
  | styleMismatch
  /-- The number of templates to be remembered is none. -/
  | cacheSize (kind : FaultKind)
  /-- An argument or a column has no text. -/
  | unwritable
  /-- An argument has more elements than can be listed. -/
  | unlistable
  deriving DecidableEq, Repr

def CompileFault.toError (template : String) : CompileFault → Error
  | unknownToken token =>
    .about .malformedTemplate
      ("Unknown placeholder token " ++ Text.quoted token.text ++ " at position " ++
        toString token.position) (some template)
  | sequenceForColumns typeName =>
    .about .parameter
      ("Column map placeholder expects a mapping of column names to values, got " ++ typeName)
      (some template)
  | tooFewArguments tokens arguments =>
    .about .missingParameter
      ("Template has " ++ toString tokens ++ " placeholder tokens but only " ++
        toString arguments ++ " arguments were given") (some template)
  | tooManyArguments tokens arguments =>
    .about .extraParameter
      ("Template has " ++ toString tokens ++ " placeholder tokens but " ++
        toString arguments ++ " arguments were given") (some template)
  | styleMismatch => .library (.styleMismatch .null (.str template))
  | cacheSize kind => .ofKind kind
  | unwritable => .ofKind .badValue
  | unlistable => .ofKind .overflow

def placeholder : String := "?"

/-- Placeholders for a number of values, separated by commas. -/
def placeholders (count : Nat) : String :=
  ",".intercalate (List.replicate count placeholder)

/-- A piece of SQL with the entries of its placeholders. -/
structure Piece where
  sql : String
  entries : Queue
  deriving Repr, Inhabited

def Piece.text (sql : String) : Piece := { sql := sql, entries := [] }

/-- One placeholder for a value under a bind type. -/
def Piece.bound (value : Value) (type : BindType) : Piece :=
  { sql := placeholder, entries := [.unnamed value type] }

def Piece.append (a b : Piece) : Piece :=
  { sql := a.sql ++ b.sql, entries := a.entries ++ b.entries }

/-- A piece that is made of the text of an argument, if that has one. -/
def fillText (value : Value) (piece : Piece) : Except CompileFault Piece :=
  if value.isWritable then .ok piece else .error .unwritable

/-- A placeholder for each value of a sequence, or one for a value that is none. -/
def arrayPiece (value : Value) (type : BindType) : Piece :=
  match value.sequence? with
  | none => .bound value type
  | some items =>
    { sql := placeholders items.length, entries := items.map (.unnamed · type) }

def fillArray (value : Value) (type : BindType) : Except CompileFault Piece :=
  if value.isListable then .ok (arrayPiece value type) else .error .unlistable

/-- The name of a column as it is written into SQL. -/
def columnName (key : Value) : String := Text.sanitize key.text

/-- Each column of a mapping compared with a placeholder. -/
def columnsPiece (entries : List (Value × Value)) (separator : String) : Piece :=
  { sql := separator.intercalate
      (entries.map fun (key, _) => columnName key ++ " = " ++ placeholder),
    entries := entries.map fun (_, value) => .unnamed value .string }

/-- The columns of a mapping. A value that is neither a mapping nor a sequence is bound as a text.
-/
def fillColumns (value : Value) (separator : String) : Except CompileFault Piece :=
  match value.entries? with
  | some entries =>
    if Value.areWritable (entries.map Prod.fst) then .ok (columnsPiece entries separator)
    else .error .unwritable
  | none =>
    if value.isSequence then .error (.sequenceForColumns value.typeName)
    else .ok (.bound value .string)

/-- A value as a text without markup; null stays null. -/
def stripped : Value → Value
  | .null => .null
  | value => .str (Text.stripMarkup value.text)

/-- The text that a raw token writes; null writes nothing. -/
def rawText : Value → String
  | .null => ""
  | value => value.text

/-- The piece that a token and its argument give. -/
def fillToken (token : Token) (value : Value) : Except CompileFault Piece :=
  match token.kind with
  | none => .error (.unknownToken token)
  | some .standard => .ok { sql := placeholder, entries := [.inferred value .null] }
  | some .string | some .float => .ok (.bound value .string)
  | some .integer => .ok (.bound value .integer)
  | some .boolean => .ok (.bound value .boolean)
  | some .null => .ok (.bound value .null)
  | some .raw => fillText value (.text (rawText value))
  | some .strippedString => fillText value (.bound (stripped value) .string)
  | some .intArray => fillArray value .integer
  | some .stringArray => fillArray value .string
  | some .columnsByComma => fillColumns value ", "
  | some .columnsByAnd => fillColumns value " AND "

/-- Fills the tokens among some segments with arguments, from left to right. The first token that
cannot be filled decides the fault. -/
def fill : List Segment → List Value → Except CompileFault Piece
  | [], _ => .ok (.text "")
  | .literal text :: rest, arguments =>
    (fill rest arguments).map fun more => (Piece.text text).append more
  | .token _ :: rest, [] => .error (.tooFewArguments (tokens rest).length 0)
  | .token token :: rest, value :: arguments =>
    match fillToken token value with
    | .error fault => .error fault
    | .ok piece => (fill rest arguments).map piece.append

end SqlTemplate.Template
