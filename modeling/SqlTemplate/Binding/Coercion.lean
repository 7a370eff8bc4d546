import SqlTemplate.Binding.BindType
import SqlTemplate.Value.Access

/-! Coercion of a value to what its bind type asks for. The null value passes for every type. -/
namespace SqlTemplate

/-- A conversion that is applied to the values of one bind type. -/
inductive Converter
  /-- The usual conversion for a bind type. -/
  | standard (type : BindType)
  /-- Truth as one or zero. -/
  | flag
  /-- The usual conversion to text, but dates and times in ISO form. -/
  | isoText
  /-- A conversion of the user's own. -/
  | custom (convert : Value → Except Error Value)
  deriving Inhabited

namespace Converter

/-- Texts and byte strings are bound as they are, but not views of memory. -/
def bindsAsText : Value → Bool
  | .str _ | .bytes .bytes _ | .bytes .bytearray _ => true
  | _ => false

/-- The usual conversion to a bind type. -/
def convertTo (type : BindType) (value : Value) : Except Error Value :=
  match type with
  | .string =>
    if bindsAsText value then .ok value else (value.toText.map .str).mapError .ofKind
  | .integer => (value.toInteger.map .int).mapError .ofKind
  | .boolean => .ok (.bool value.isTruthy)
  | .null => .ok .null

def apply : Converter → Value → Except Error Value
  | standard type, value => convertTo type value
  | flag, value => .ok (.int (if value.isTruthy then 1 else 0))
  | isoText, value =>
    match value.isoText? with
    | some text => .ok (.str text)
    | none => convertTo .string value
  | custom convert, value => convert value

def isStandardFor (type : BindType) : Converter → Bool
  | standard type' => type = type'
  | _ => false

end Converter

/-- The conversions for some of the bind types. -/
abbrev Coercions := BindType → Option Converter

namespace Coercions

def standard : Coercions := fun type => some (.standard type)

/-- The conversions for SQLite, which has no truth values and no dates. -/
def sqlite : Coercions
  | .boolean => some .flag
  | .string => some .isoText
  | type => some (.standard type)

/-- No bind type has a conversion. -/
def isEmpty (coercions : Coercions) : Bool :=
  BindType.all.all fun type => (coercions type).isNone

/-- The conversions in force: the usual ones unless some are given. -/
def inForce : Option Coercions → Coercions
  | none => standard
  | some coercions => if coercions.isEmpty then standard else coercions

end Coercions

/-- The error for a value that does not fit its bind type. It shows the value, and where that cannot
be written it is not made. -/
def cannotBind (value : Value) (type : BindType) (cause : Fault) : Error :=
  match value.toLiteral with
  | .error kind => .ofKind kind
  | .ok shown =>
    .library { LibraryError.about .parameter
      (.str ("Cannot bind " ++ shown ++ " as " ++ type.text)) .null with
      cause := some cause }

/-- What a failed conversion ends in: values and types that do not fit are parameter errors, and
any other error leaves as it is. -/
def coercionError (value : Value) (type : BindType) (error : Error) : Error :=
  match error with
  | .fault cause => if cause.kind.isUnsuitable then cannotBind value type cause else error
  | .library _ => error

/-- The value that is bound for a value under a bind type. -/
def coerce (value : Value) (type : BindType) (coercions : Option Coercions) :
    Except Error Value :=
  match value with
  | .null => .ok .null
  | _ =>
    match Coercions.inForce coercions type with
    | none => .ok value
    | some converter => (converter.apply value).mapError (coercionError value type)

end SqlTemplate
