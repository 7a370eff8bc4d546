import SqlTemplate.Text.Blank
import SqlTemplate.Text.Capital

/-! The operation that a statement performs. It is read off the first keyword: coarsely, from the
first word between blanks, or with an eye to comments and common table expressions when the
dialect is known. -/
namespace SqlTemplate

inductive OperationType
  | select | insert | update | delete | ddl | execute | unknown
  /-- What a statement that was put together by hand is said to do. -/
  | other (word : String)
  deriving DecidableEq, Repr, Inhabited

namespace OperationType

def text : OperationType → String
  | select => "SELECT"
  | insert => "INSERT"
  | update => "UPDATE"
  | delete => "DELETE"
  | ddl => "DDL"
  | execute => "EXECUTE"
  | unknown => "UNKNOWN"
  | other word => word

/-- The operation that a word names. -/
def ofText (word : String) : OperationType :=
  ([select, insert, update, delete, ddl, execute, unknown].find? fun operation =>
    operation.text == word).getD (other word)

/-- Only a selection gives rows back. -/
def returnsRows (operation : OperationType) : Bool := operation == select

end OperationType

namespace Operation

/-- The operations of the keywords that start a statement. -/
def keywords : List (String × OperationType) :=
  [("SELECT", .select), ("WITH", .select), ("SHOW", .select), ("INSERT", .insert),
    ("REPLACE", .insert), ("UPDATE", .update), ("DELETE", .delete), ("CREATE", .ddl),
    ("DROP", .ddl), ("ALTER", .ddl), ("TRUNCATE", .ddl)]

/-- Characters that may stand before the first keyword. -/
def isLeading (c : Char) : Bool :=
  c == ' ' || c == '\t' || c == '\r' || c == '\n' || c == '('

/-- The operation of a statement by its first word: a word that is no keyword is something to
execute, and without a word the operation is unknown. -/
def ofFirstWord (sql : String) : OperationType :=
  match Text.firstWord (sql.toList.dropWhile isLeading) with
  | [] => .unknown
  | word => (keywords.lookup (Text.capitals word)).getD .execute

/-- Dialects whose comments and common table expressions are looked through. -/
inductive Dialect
  | generic | mysql | sqlite
  deriving DecidableEq, Repr

/-- The dialect of a name; no name is the generic dialect. -/
def Dialect.ofName? : Option String → Option Dialect
  | none => some .generic
  | some "mysql" => some .mysql
  | some "sqlite" => some .sqlite
  | some _ => none

/-- What follows the end of a block comment. -/
def afterBlock? : List Char → Option (List Char)
  | [] => none
  | '*' :: '/' :: rest => some rest
  | _ :: rest => afterBlock? rest

/-- Drops blanks, opening parentheses and comments. The fuel is the length of the text. -/
def skipLeading (dialect : Dialect) : Nat → List Char → List Char
  | 0, text => text
  | fuel + 1, text =>
    match text with
    | '-' :: '-' :: rest => skipLeading dialect fuel (rest.dropWhile (· ≠ '\n'))
    | '/' :: '*' :: rest =>
      match afterBlock? rest with
      | some rest => skipLeading dialect fuel rest
      | none => text
    | c :: rest =>
      if c = '#' ∧ dialect = .mysql then
        skipLeading dialect fuel (rest.dropWhile (· ≠ '\n'))
      else if Text.isBlank c ∨ c = '(' then skipLeading dialect fuel rest
      else text
    | [] => []

def isNameChar (c : Char) : Bool := c.isAlphanum || c == '_'

/-- The operations that a parsed statement is told apart by. -/
def mainOperation? (word : List Char) : Option OperationType :=
  ([.select, .insert, .update, .delete] : List OperationType).find? fun operation =>
    operation.text.toList == word.map Char.toUpper

/-- The first main operation outside parentheses and quotes. The word is the one being read,
back to front. -/
def mainOperationIn? (depth : Nat) (quotes : Bool) (word : List Char) :
    List Char → Option OperationType
  | [] => if depth = 0 then mainOperation? word.reverse else none
  | c :: rest =>
    if quotes then mainOperationIn? depth (c ≠ '\x27') [] rest
    else if isNameChar c then mainOperationIn? depth false (c :: word) rest
    else
      match (if depth = 0 then mainOperation? word.reverse else none) with
      | some operation => some operation
      | none =>
        if c = '\x27' then mainOperationIn? depth true [] rest
        else if c = '(' then mainOperationIn? (depth + 1) false [] rest
        else if c = ')' then mainOperationIn? (depth - 1) false [] rest
        else mainOperationIn? depth false [] rest

/-- The operation that the first keyword after comments decides, if it does. A common table
expression is followed by the statement that it belongs to. -/
def ofLeadingKeyword? (dialect : Dialect) (sql : List Char) : Option OperationType :=
  let text := skipLeading dialect sql.length sql
  let (word, rest) := text.span isNameChar
  if !word.all Char.isAlpha then none
  else
    match mainOperation? word with
    | some operation => some operation
    | none =>
      if word.map Char.toUpper = "WITH".toList then
        some ((mainOperationIn? 0 false [] rest).getD .select)
      else none

/-- What a parser makes of a text in a dialect: the operation of the statement that it reads, which
is unknown for a statement of another kind. It makes nothing of a text that it cannot read, nor of
any text when it does not know the dialect. -/
abbrev Parser := Option String → String → Option OperationType

/-- A parser that goes by the leading keyword and reads nothing behind it. -/
def byLeadingKeyword : Parser := fun dialect sql =>
  (Dialect.ofName? dialect).bind fun dialect => ofLeadingKeyword? dialect sql.toList

/-- The operation of a statement. Without parsing, and where the parser does not tell the operation,
the first word does. -/
def detectWith (parser : Parser) (sql : String) (dialect : Option String) (parsing : Bool) :
    OperationType :=
  if !parsing then ofFirstWord sql
  else
    match parser dialect sql with
    | none | some .unknown => ofFirstWord sql
    | some operation => operation

end Operation

end SqlTemplate
