/-! The kinds of faults: what can go wrong in a connection, in a converter or in an operation on a
value. -/
namespace SqlTemplate

/-- Database software whose faults are told apart. -/
inductive Engine
  | sqlite | mysql
  deriving DecidableEq, Repr, Inhabited

inductive FaultKind
  | wrongType | badValue | missingKey | indexOutOfRange | overflow | missingMethod | divisionByZero
  | failure | system | badJson | numberTooLarge | badEncoding | unencodable | undefinedComparison
  | tooDeep | outOfMemory
  /-- A fault that database software reports under a name of its own. -/
  | database (engine : Engine) (name : String)
  deriving DecidableEq, Repr, Inhabited

def FaultKind.name : FaultKind → String
  | wrongType => "TypeError"
  | badValue => "ValueError"
  | missingKey => "KeyError"
  | indexOutOfRange => "IndexError"
  | overflow => "OverflowError"
  | missingMethod => "AttributeError"
  | divisionByZero => "ZeroDivisionError"
  | failure => "RuntimeError"
  | system => "OSError"
  | badJson => "DecodeError"
  | numberTooLarge => "ValidationError"
  | badEncoding => "UnicodeDecodeError"
  | unencodable => "UnicodeEncodeError"
  | undefinedComparison => "InvalidOperation"
  | tooDeep => "RecursionError"
  | outOfMemory => "MemoryError"
  | database _ name => name

/-- The name of a kind of fault with that of the software it comes from. -/
def FaultKind.fullName : FaultKind → String
  | database .sqlite name => "sqlite3." ++ name
  | database .mysql name => "pymysql.err." ++ name
  | kind => kind.name

/-- Whether a fault says that an operation does not suit its operand, by type or by content. -/
def FaultKind.isUnsuitable : FaultKind → Bool
  | wrongType | badValue | badEncoding | unencodable => true
  | _ => false

end SqlTemplate
