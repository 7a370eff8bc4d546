import SqlTemplate.Value.Basic

/-! The type under which a value is bound to a statement. -/
namespace SqlTemplate

/-- Bind types. There is none for numbers with a fraction: they travel as texts. -/
inductive BindType
  | string | integer | boolean | null
  deriving DecidableEq, Repr, Inhabited

namespace BindType

def all : List BindType := [string, integer, boolean, null]

/-- The word for a bind type. -/
def text : BindType → String
  | string => "string"
  | integer => "integer"
  | boolean => "boolean"
  | null => "null"

def label : BindType → String
  | string => "STRING"
  | integer => "INTEGER"
  | boolean => "BOOLEAN"
  | null => "NULL"

/-- The bind type that a word names. -/
def ofText? (word : String) : Option BindType :=
  all.find? fun type => type.text == word

/-- The bind type of a value that comes without one. Truth values are not integers here, and
whatever has no type of its own is a text. -/
def infer : Value → BindType
  | .bool _ => boolean
  | .int _ => integer
  | .null => null
  | _ => string

end BindType

end SqlTemplate
