import SqlTemplate.Text.Quoted

/-! Rendering of SQL for databases that fill in values with percent signs. A placeholder becomes
`%s`, a bound marker `:name` becomes `%(name)s`, and a percent sign of the SQL itself is doubled.
Question marks and markers inside quotes and backticks are left alone. -/
namespace SqlTemplate.PercentMarkers

open Text

/-- The length of a quoted literal after its opening quote, closing quote included. Inside, a
backslash takes the next character with it and a doubled quote stands for one. If the literal would
not end, its last doubled quote is taken apart and the first half ends it. -/
def quotedLength? (quote : Char) : List Char → Option Nat
  | [] => none
  | [c] => if c = quote then some 1 else none
  | c :: next :: rest =>
    if c = backslash then (quotedLength? quote rest).map (· + 2)
    else if c = quote then
      if next = quote then
        match quotedLength? quote rest with
        | some n => some (n + 2)
        | none => some 1
      else some 1
    else (quotedLength? quote (next :: rest)).map (· + 1)

/-- The length of a name in backticks after the opening backtick, closing backtick included. -/
def backtickLength? : List Char → Option Nat
  | [] => none
  | c :: rest => if c = backtick then some 1 else (backtickLength? rest).map (· + 1)

/-- The length of what an opening character opens, after that character. -/
def literalLength? (opening : Char) (text : List Char) : Option Nat :=
  if opening = apostrophe ∨ opening = quotationMark then quotedLength? opening text
  else if opening = backtick then backtickLength? text
  else none

def isNameStart (c : Char) : Bool := c.isAlpha || c == '_'

def isNameChar (c : Char) : Bool := c.isAlphanum || c == '_'

/-- The name at the front of a text, as far as it goes. -/
def markerName : List Char → List Char
  | [] => []
  | c :: rest => if isNameStart c then c :: rest.takeWhile isNameChar else []

/-- A character with percent signs doubled. -/
def escape (c : Char) : List Char :=
  if c = '%' then ['%', '%'] else [c]

/-- Renders SQL. The first counter is the number of characters that are still inside quotes, the
second the number of characters of a marker that is already written. -/
def renderFrom (bound : List (List Char)) : Nat → Nat → List Char → List Char
  | _, _, [] => []
  | inside, skipped + 1, _ :: rest => renderFrom bound inside skipped rest
  | inside + 1, 0, c :: rest => escape c ++ renderFrom bound inside 0 rest
  | 0, 0, c :: rest =>
    match literalLength? c rest with
    | some length => c :: renderFrom bound length 0 rest
    | none =>
      if c = '?' then (if bound.isEmpty then ['%', 's'] else ['?']) ++ renderFrom bound 0 0 rest
      else
        let name := if c = ':' then markerName rest else []
        if name ≠ [] ∧ bound.contains (':' :: name) then
          '%' :: '(' :: name ++ ')' :: 's' :: renderFrom bound 0 name.length rest
        else escape c ++ renderFrom bound 0 0 rest

/-- Renders SQL for the bound markers, which are given with their colons. -/
def render (sql : String) (bound : List String) : String :=
  String.ofList (renderFrom (bound.map String.toList) 0 0 sql.toList)

end SqlTemplate.PercentMarkers
