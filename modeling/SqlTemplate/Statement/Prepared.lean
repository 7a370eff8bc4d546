import SqlTemplate.Binding.Coercion
import SqlTemplate.Binding.Queue
import SqlTemplate.Connection.Journal
import SqlTemplate.Statement.PercentMarkers
import SqlTemplate.Value.Comparison

/-! Prepared statements. Values are bound one by one, by place or by marker but never both; the SQL
takes the form that the database wants only when the statement is executed, and the rows of the
last execution are kept. -/
namespace SqlTemplate

/-- How a database wants placeholders and markers. -/
inductive MarkerStyle
  /-- As they are, the names of markers without colons. -/
  | colon
  /-- With percent signs. -/
  | percent
  /-- As they are, the names of markers with their colons. -/
  | verbatim
  deriving DecidableEq, Repr, Inhabited

/-- A statement with the values that are bound to it and the rows of its last execution. -/
structure Prepared where
  /-- The name of the statement's type in messages. -/
  typeName : String
  style : MarkerStyle
  sql : String
  coercions : Option Coercions
  /-- Values by place, in the order in which the places were first bound. -/
  positional : List (Value × Value)
  /-- Values by marker, in the order in which the markers were first bound. -/
  named : List (String × Value)
  rows : List Value
  columnNames : List Value
  rowCount : Value
  lastRowId : Value
  deriving Inhabited

namespace Prepared

def new (typeName : String) (style : MarkerStyle) (sql : String) (coercions : Option Coercions) :
    Prepared :=
  { typeName := typeName, style := style, sql := sql, coercions := coercions, positional := [],
    named := [], rows := [], columnNames := [], rowCount := .int 0, lastRowId := .null }

/-- Puts a value under a marker: in the place of the value that the marker has, or at the end. -/
def assign (bound : List (String × Value)) (marker : String) (value : Value) :
    List (String × Value) :=
  match bound with
  | [] => [(marker, value)]
  | (k, v) :: rest =>
    if k == marker then (k, value) :: rest else (k, v) :: assign rest marker value

def isNamed (prepared : Prepared) : Bool := !prepared.named.isEmpty

def hasBindings (prepared : Prepared) : Bool :=
  prepared.isNamed || !prepared.positional.isEmpty

def mixedBindings (sql : String) : Error :=
  .about .parameter "Cannot mix named and positional bindings on one statement" (some sql)

/-- The error for a place before the first. It shows the place, and where that cannot be written it
is not made. -/
def badPosition (key : Value) (sql : String) : Error :=
  match key.toText with
  | .error kind => .ofKind kind
  | .ok shown => .about .parameter ("Parameter positions start at 1, got " ++ shown) (some sql)

/-- Binds a coerced value under a key that is no marker. Whatever is not below one passes for a
place, even if it is no whole number. -/
def bindPlace (key coerced : Value) : Action Prepared Unit := do
  let prepared ← .state
  if ← .ofExcept ((key.isBelow 1).mapError Error.ofKind) then .fail (badPosition key prepared.sql)
  else if prepared.isNamed then .fail (mixedBindings prepared.sql)
  else
    .change fun prepared =>
      { prepared with positional := Value.put prepared.positional key coerced }

/-- Binds a value by marker, if the key is a text, or by place. -/
def bindStep (key value : Value) (type : BindType) : Action Prepared Unit := do
  let prepared ← .state
  let coerced ← .ofExcept (coerce value type prepared.coercions)
  match key with
  | .str marker =>
    if prepared.positional.isEmpty then
      .change fun prepared => { prepared with named := assign prepared.named marker coerced }
    else .fail (mixedBindings prepared.sql)
  | key => bindPlace key coerced

/-- The statement with one value more. -/
def bind (prepared : Prepared) (key value : Value) (type : BindType) : Except Error Prepared :=
  let (outcome, after) := bindStep key value type prepared
  outcome.map fun _ => after

/-- The first of some keys that no other is above. -/
def highestOf (first : Value) (others : List Value) : Value :=
  others.foldl (fun highest key => if key.isAbove highest then key else highest) first

/-- The places up to the last that nothing is bound at. -/
def unboundPlaces (prepared : Prepared) (last : Nat) : List Nat :=
  (List.range' 1 last).filter fun place =>
    (Value.lookup? prepared.positional (.int place)).isNone

def neverBound (places : List Nat) (sql : String) : Error :=
  .about .missingParameter
    ("Positions [" ++ ", ".intercalate (places.map toString) ++ "] were never bound") (some sql)

/-- The value that is bound at a place. -/
def valueAt (prepared : Prepared) (place : Nat) : Except Error Value :=
  (Value.lookup? prepared.positional (.int place)).elim
    (.error (.fault { kind := .missingKey, arguments := [.int place] })) .ok

/-- The values bound by place, in order. If the highest place is not the number of places, the
places that are left out are told; they can be counted only up to a whole number. -/
def positionalParameters (prepared : Prepared) : Except Error (List Value) :=
  match prepared.positional.map Prod.fst with
  | [] => .ok []
  | first :: others =>
    let highest := highestOf first others
    let count := prepared.positional.length
    if highest.equals (.int count) then (List.range' 1 count).mapM prepared.valueAt
    else do
      let last ← highest.toIndex.mapError Error.ofKind
      .error (neverBound (prepared.unboundPlaces last.toNat) prepared.sql)

/-- A mapping of names to values; of equal names the last value counts. -/
def mappingOf (named : List (String × Value)) : Value :=
  .ofPairs (named.map fun (name, value) => (.str name, value))

def namedParameters (prepared : Prepared) : Value := mappingOf prepared.named

def withoutColons (marker : String) : String :=
  String.ofList (marker.toList.dropWhile (· = ':'))

def withoutFirst (marker : String) : String := String.ofList (marker.toList.drop 1)

/-- The SQL and the parameters of named bindings, in the style of the database. -/
def renderNamed (prepared : Prepared) : String × Value :=
  let renamed (name : String → String) :=
    mappingOf (prepared.named.map fun (marker, value) => (name marker, value))
  match prepared.style with
  | .colon => (prepared.sql, renamed withoutColons)
  | .percent =>
    (PercentMarkers.render prepared.sql (prepared.named.map Prod.fst), renamed withoutFirst)
  | .verbatim => (prepared.sql, prepared.namedParameters)

/-- The SQL with placeholders in the style of the database. -/
def renderPositional (prepared : Prepared) : String :=
  match prepared.style with
  | .percent => PercentMarkers.render prepared.sql []
  | .colon | .verbatim => prepared.sql

/-- The SQL and the parameters as they are sent. Without bindings there are no parameters and the
SQL is left as it is. -/
def render (prepared : Prepared) : Except Error (String × Option Value) :=
  if prepared.isNamed then
    let (sql, parameters) := prepared.renderNamed
    .ok (sql, some parameters)
  else if prepared.hasBindings then
    prepared.positionalParameters.map fun values =>
      (prepared.renderPositional, some (.tuple values))
  else .ok (prepared.sql, none)

/-- The number of affected rows that a database reports; whatever is no positive integer means
none. -/
def reportedCount : Value → Value
  | .int n => if n > 0 then .int n else .int 0
  | .bool true => .bool true
  | _ => .int 0

/-- A statement that is being executed, with the journal. -/
structure Running where
  prepared : Prepared
  journal : Journal

instance : Keeps Running where
  journal running := running.journal
  update change running := { running with journal := change running.journal }

def note (change : Prepared → Prepared) : Action Running Unit :=
  .change fun running => { running with prepared := change running.prepared }

/-- The names of the columns of a result; a statement without a result has none. -/
def resultColumns : Option (List Value) → List Value
  | none => []
  | some names => names

/-- Keeps the rows that a statement gives, when it has columns. -/
def keepRows (connection : Connection) (names : List Value) : Action Running Unit :=
  if names.isEmpty then note fun prepared => { prepared with columnNames := [], rows := [] }
  else do
    note fun prepared => { prepared with columnNames := names }
    let fetched ← connection.ask .fetchAll
    let rows ← .ofExcept (fetched.walk.mapError Error.ofKind)
    note fun prepared => { prepared with rows := rows }

/-- Keeps the number of affected rows. A result whose number is not known counts its rows. -/
def keepCount (connection : Connection) (names : List Value) : Action Running Unit := do
  let reported ← connection.ask .rowCount
  note fun prepared =>
    let count := reportedCount reported
    let unknown := !names.isEmpty && count.equals (.int 0)
    { prepared with rowCount := if unknown then .int prepared.rows.length else count }

/-- Executes SQL on the open cursor and keeps what it gives. -/
def executeOn (connection : Connection) (sql : String) (parameters : Option Value) :
    Action Running Unit := do
  connection.ask (.execute sql parameters)
  let description ← connection.ask .description
  let names := resultColumns description
  keepRows connection names
  keepCount connection names
  let id ← connection.ask .lastRowId
  note fun prepared => { prepared with lastRowId := id }

/-- Executes a statement on a cursor of its own, which is closed in any case. -/
def execute (connection : Connection) : Action Running Unit := do
  let running ← .state
  let (sql, parameters) ← .ofExcept running.prepared.render
  connection.ask .openCursor
  (executeOn connection sql parameters).ensuring (connection.ask .closeCursor)

def fetchOne (prepared : Prepared) : Value := prepared.rows.headD .null

/-- The item of the first row at an index; without a row there is none. -/
def fetchValue (prepared : Prepared) (index : Value) : Except FaultKind Value :=
  match prepared.fetchOne with
  | .null => .ok .null
  | row => row.item index

/-- Lets the rows go. -/
def close (prepared : Prepared) : Prepared := { prepared with rows := [], columnNames := [] }

def literal (prepared : Prepared) : Except FaultKind String :=
  prepared.rowCount.toText.map fun count =>
    callText prepared.typeName ["sql=" ++ Text.quoted prepared.sql, "row_count=" ++ count]

/-- The key that an entry of a queue is bound by: its marker, or else its place. -/
def keyOf (place : Nat) (entry : BindEntry) : Value :=
  match entry.marker with
  | .null => .int place
  | marker => marker

/-- Binds the entries of a queue from a place on. An entry leaves the queue before it is bound, so
what is left follows the entry that could not be bound. -/
def bindQueue (prepared : Prepared) : Nat → Queue → Except Error Prepared × Queue
  | _, [] => (.ok prepared, [])
  | place, entry :: rest =>
    match prepared.bind (keyOf place entry) entry.value entry.type with
    | .error error => (.error error, rest)
    | .ok prepared => bindQueue prepared (place + 1) rest

end Prepared

end SqlTemplate
