import SqlTemplate.Error

/-! Comparisons that may be refused. Only numbers have an order, and a decimal number that signals
cannot be compared with a number at all; it stands for a mistake that was made before. -/
namespace SqlTemplate.Value

open Number

/-- The order of a value and a whole number. A double that is not a number is in no order, and a
decimal one refuses to be. -/
def order (value : Value) (n : Int) : Except FaultKind (Option Ordering) :=
  match value.magnitude?, value with
  | none, _ => .error .wrongType
  | some (.finite x), _ => .ok (some (x.compareInt n))
  | some (.infinite negative), _ => .ok (some (if negative then .lt else .gt))
  | some .undefined, decimal _ => .error .undefinedComparison
  | some .undefined, _ => .ok none

/-- Whether a value is a number below a whole number. -/
def isBelow (value : Value) (n : Int) : Except FaultKind Bool :=
  (value.order n).map fun order => order == some .lt

/-- Whether a value is a number of at most a whole number. -/
def isAtMost (value : Value) (n : Int) : Except FaultKind Bool :=
  (value.order n).map fun order => order == some .lt || order == some .eq

/-- Whether a value is a number above another. What is not a number is above nothing and below
nothing. -/
def isAbove (a b : Value) : Bool :=
  match a.magnitude?, b.magnitude? with
  | some x, some y => x.isAbove y
  | _, _ => false

/-- A decimal number that signals when it is compared. -/
def isSignaling : Value → Bool
  | decimal (.nan _ signaling _) => signaling
  | _ => false

/-- Whether the comparison of two values is refused. -/
def refusesComparison (a b : Value) : Bool :=
  (a.isSignaling || b.isSignaling) && a.magnitude?.isSome && b.magnitude?.isSome

mutual
/-- Equality of values, where it is not refused. Elements are compared from the front up to the
first that differ; lists of different lengths and mappings of different sizes are not looked
into. -/
def isEqual : Value → Value → Except FaultKind Bool
  | collection kind xs, collection kind' ys =>
    if kind.isSet || kind != kind' || kind == .list && xs.length != ys.length then
      .ok ((collection kind xs).equals (collection kind' ys))
    else isEqualEach xs ys
  | mapping xs, mapping ys =>
    if xs.length = ys.length then areEntriesIn xs ys else .ok false
  | a, b => if refusesComparison a b then .error .undefinedComparison else .ok (a.equals b)
termination_by structural a => a

def isEqualEach : List Value → List Value → Except FaultKind Bool
  | [], [] => .ok true
  | x :: xs, y :: ys => do if ← isEqual x y then isEqualEach xs ys else return false
  | _, _ => .ok false
termination_by structural xs => xs

/-- Whether every entry of a mapping occurs, key and value, in another. -/
def areEntriesIn : List (Value × Value) → List (Value × Value) → Except FaultKind Bool
  | [], _ => .ok true
  | (key, value) :: rest, ys =>
    match lookup? ys key with
    | none => .ok false
    | some other => do if ← isEqual value other then areEntriesIn rest ys else return false
termination_by structural xs => xs
end

end SqlTemplate.Value
