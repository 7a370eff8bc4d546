import SqlTemplate.Binding.Queue
import SqlTemplate.Error
import SqlTemplate.Template.Fill
import SqlTemplate.Value.Access

/-! Insertion of rows. A row is a mapping of columns to values or a sequence of values; all rows
must fit the same columns, and every value becomes a placeholder. -/
namespace SqlTemplate.Insert

inductive InsertFault
  | rowsNotSequence (typeName : String)
  | noRows
  | noColumnNames
  | noColumns
  | wrongKeys (index : Nat) (keys columns : List Value)
  | rowNotSequence (index : Nat) (typeName : String)
  | wrongLength (index : Nat) (values columns : Nat)
  /-- The columns cannot be walked through, or one of them cannot be a key. -/
  | badColumns
  /-- The table, a column or a key of a row has no text. -/
  | unwritable
  /-- The rows, a row or the columns have more elements than can be listed. -/
  | unlistable
  deriving Repr

/-- The literal of the texts of some keys in alphabetical order. -/
def keysLiteral (keys : List Value) : String :=
  let texts := (keys.map Value.text).mergeSort fun a b => decide (a ≤ b)
  (Value.list (texts.map .str)).literal

def InsertFault.toError : InsertFault → Error
  | rowsNotSequence typeName =>
    .about .parameter ("Insert rows must be a mapping or a sequence, got " ++ typeName) none
  | noRows => .about .parameter "Insert requires at least one row" none
  | noColumnNames =>
    .about .parameter "Column names are required when rows are plain sequences" none
  | noColumns => .about .parameter "Insert requires at least one column" none
  | wrongKeys index keys columns =>
    .about .parameter ("Row " ++ toString index ++ " has keys " ++ keysLiteral keys ++
      " but columns " ++ keysLiteral columns ++ " were expected") none
  | rowNotSequence index typeName =>
    .about .parameter
      ("Row " ++ toString index ++ " must be a mapping or a sequence, got " ++ typeName) none
  | wrongLength index values columns =>
    .about .parameter ("Row " ++ toString index ++ " has " ++ toString values ++
      " values but " ++ toString columns ++ " columns were given") none
  | badColumns => .ofKind .wrongType
  | unwritable => .ofKind .badValue
  | unlistable => .ofKind .overflow

/-- The rows that a value stands for. A mapping is one row; a sequence is a list of rows if its
first element is a mapping or a sequence, and one row if it is not. -/
def normalizeRows (rows : Value) : Except InsertFault (List Value) :=
  if rows.isMapping then .ok [rows]
  else if !rows.isListable then .error .unlistable
  else
    match rows.sequence? with
    | none => .error (.rowsNotSequence rows.typeName)
    | some [] => .error .noRows
    | some (first :: rest) =>
      if first.isMapping || first.isSequence then .ok (first :: rest)
      else .ok [.list (first :: rest)]

/-- The keys that columns are given by, or else the keys of the first row. -/
def givenKeys (firstRow : Value) (columns : Option Value) : Except InsertFault (List Value) :=
  match columns, firstRow.entries? with
  | some columns, _ =>
    if columns.isListable then columns.iterate?.elim (.error .badColumns) .ok
    else .error .unlistable
  | none, some entries => .ok (entries.map Prod.fst)
  | none, none => .error .noColumnNames

/-- The keys of the columns, of which there must be at least one, and all with a text. -/
def columnKeys (firstRow : Value) (columns : Option Value) : Except InsertFault (List Value) :=
  match givenKeys firstRow columns with
  | .ok [] => .error .noColumns
  | .ok keys => if Value.areWritable keys then .ok keys else .error .unwritable
  | .error fault => .error fault

/-- The values of a row in the order of the columns. -/
def rowValues (index : Nat) (row : Value) (keys : List Value) : Except InsertFault (List Value) :=
  match row.entries?, row.sequence? with
  | some entries, _ =>
    let rowKeys := entries.map Prod.fst
    if !keys.all Value.isHashable then .error .badColumns
    else if Value.sameKeys rowKeys keys then .ok (keys.filterMap (Value.lookup? entries))
    else if Value.areWritable rowKeys then .error (.wrongKeys index rowKeys keys)
    else .error .unwritable
  | none, some values =>
    if !row.isListable then .error .unlistable
    else if values.length = keys.length then .ok values
    else .error (.wrongLength index values.length keys.length)
  | none, none => .error (.rowNotSequence index row.typeName)

/-- The values of all rows, from an index on. -/
def allValues (keys : List Value) : Nat → List Value → Except InsertFault (List (List Value))
  | _, [] => .ok []
  | index, row :: rest => do
    let values ← rowValues index row keys
    let more ← allValues keys (index + 1) rest
    return values :: more

/-- The values of rows whose columns are those of the first row, which has them whatever its keys
are: even a key that does not equal itself is a column of its own row. -/
def valuesOfOwnColumns (keys : List Value) (rows : List Value) :
    Except InsertFault (List (List Value)) :=
  match rows with
  | [] => .ok []
  | first :: rest => do
    let more ← allValues keys 1 rest
    return ((first.entries?.getD []).map Prod.snd) :: more

/-- The name of a table inside its own backticks. -/
def tableName (table : Value) : String :=
  String.ofList (Text.trimBy (· == Text.backtick) (Text.sanitize table.text).toList)

/-- The text of an insertion with a group of placeholders for each row. -/
def insertSql (verb : String) (table : Value) (keys : List Value) (rows : List (List Value)) :
    String :=
  let groups := rows.map fun values => "(" ++ Template.placeholders values.length ++ ")"
  verb ++ " INTO `" ++ tableName table ++ "` (" ++
    ",".intercalate (keys.map Template.columnName) ++ ") VALUES " ++ ",".intercalate groups

/-- The text of an insertion and the entries of its placeholders, row by row. -/
def build (verb : String) (table rows : Value) (columns : Option Value) :
    Except InsertFault (String × Queue) := do
  let rowList ← normalizeRows rows
  let keys ← columnKeys (rowList.headD .null) columns
  let values ←
    if columns.isSome then allValues keys 0 rowList else valuesOfOwnColumns keys rowList
  if table.isWritable then
    return (insertSql verb table keys values, values.flatten.map (BindEntry.inferred · .null))
  else .error .unwritable

end SqlTemplate.Insert
