import SqlTemplate.Number.Scientific
import SqlTemplate.Value.Basic

/-! Equality of values across types. Numbers of any type are equal when they stand for the same
number, byte strings when they hold the same bytes, and sets and mappings whatever the order of
their contents. A value that is not a number equals nothing, itself included. -/
namespace SqlTemplate

open Number

/-- What a numeric value stands for. -/
inductive Magnitude
  | finite (value : Scientific)
  | infinite (negative : Bool)
  | undefined
  deriving DecidableEq

/-- Whether one number is above another. An undefined one is above nothing and below nothing. -/
def Magnitude.isAbove : Magnitude → Magnitude → Bool
  | finite x, finite y => x.compareTo y == .gt
  | infinite negative, finite _ => !negative
  | finite _, infinite negative => negative
  | infinite negative, infinite negative' => !negative && negative'
  | _, _ => false

namespace Value

/-- The number that a numeric value stands for. Truth values count as one and zero. -/
def magnitude? : Value → Option Magnitude
  | bool b => some (.finite (.ofInt b.toNat))
  | int n => some (.finite (.ofInt n))
  | float .nan => some .undefined
  | float (.infinity negative) => some (.infinite negative)
  | float x => (Scientific.ofBinary64? x).map .finite
  | decimal (.nan ..) => some .undefined
  | decimal (.infinity negative) => some (.infinite negative)
  | decimal x => (Scientific.ofDecimal? x).map .finite
  | _ => none

/-- Whether two values are numbers that stand for the same number. -/
def sameNumber (a b : Value) : Bool :=
  match a.magnitude?, b.magnitude? with
  | some .undefined, _ => false
  | some x, some y => x == y
  | _, _ => false

/-- Whether two ranges have the same elements in the same order. -/
def sameRange (start stop step start' stop' step' : Int) : Bool :=
  let n := rangeLength start stop step
  n == rangeLength start' stop' step' && (n == 0 || start == start' && (n == 1 || step == step'))

mutual
def equals : Value → Value → Bool
  | null, null => true
  | str a, str b => a == b
  | bytes _ a, bytes _ b => a == b
  | collection kind xs, collection kind' ys =>
    if kind.isSet && kind'.isSet then xs.length == ys.length && containedIn xs ys
    else kind == kind' && equalsEach xs ys
  | range start stop step, range start' stop' step' =>
    sameRange start stop step start' stop' step'
  | mapping xs, mapping ys => xs.length == ys.length && entriesIn xs ys
  | date a, date b => a == b
  | datetime a clock, datetime b clock' => clock.sameInstant clock' a.dayNumber b.dayNumber
  | time clock, time clock' => clock.sameInstant clock' 0 0
  | a, b => a.sameNumber b
termination_by structural a => a

def equalsEach : List Value → List Value → Bool
  | [], [] => true
  | x :: xs, y :: ys => equals x y && equalsEach xs ys
  | _, _ => false
termination_by structural xs => xs

/-- Whether every value of a list equals one of another list. -/
def containedIn : List Value → List Value → Bool
  | [], _ => true
  | x :: xs, ys => ys.any (fun y => equals x y) && containedIn xs ys
termination_by structural xs => xs

/-- Whether every entry of a mapping occurs, key and value, in another. -/
def entriesIn : List (Value × Value) → List (Value × Value) → Bool
  | [], _ => true
  | (key, value) :: rest, ys =>
    ys.any (fun entry => equals key entry.1 && equals value entry.2) && entriesIn rest ys
termination_by structural xs => xs
end

/-- The value of the first entry whose key equals a given key. -/
def lookup? (entries : List (Value × Value)) (key : Value) : Option Value :=
  (entries.find? fun entry => equals entry.1 key).map Prod.snd

/-- Puts an entry in: the value of an equal key is replaced and that key is kept; a new key goes to
the end. -/
def put : List (Value × Value) → Value → Value → List (Value × Value)
  | [], key, value => [(key, value)]
  | (k, v) :: rest, key, value =>
    if equals k key then (k, value) :: rest else (k, v) :: put rest key value

/-- The entries of the mapping that is built from key and value pairs in order. -/
def entriesOf (pairs : List (Value × Value)) : List (Value × Value) :=
  pairs.foldl (fun entries pair => put entries pair.1 pair.2) []

/-- The mapping that is built from key and value pairs in order. -/
def ofPairs (pairs : List (Value × Value)) : Value :=
  mapping (entriesOf pairs)

/-- Whether two lists of keys have the same keys, in any order and number. -/
def sameKeys (keys keys' : List Value) : Bool :=
  keys.all (fun k => keys'.any fun k' => equals k k') &&
    keys'.all (fun k' => keys.any fun k => equals k k')

end Value

end SqlTemplate
