import SqlTemplate.Number.Shortest
import SqlTemplate.Number.Numeral

/-! Dates and times of day. A time may carry the offset of its clock from universal time; two
times with offsets name the same instant whatever their offsets are, and a time without one is
comparable only with its like. -/
namespace SqlTemplate.Number

structure Date where
  year : Nat
  month : Nat
  day : Nat
  deriving DecidableEq, Repr, Inhabited

/-- A time of day, with an offset from universal time in microseconds. -/
structure Clock where
  hour : Nat
  minute : Nat
  second : Nat
  microsecond : Nat
  offset : Option Int
  deriving DecidableEq, Repr, Inhabited

/-- Days before a date, counted so that consecutive dates have consecutive numbers. A year is taken
to begin in March, which puts the leap day at its end. -/
def Date.dayNumber (date : Date) : Int :=
  let y : Int := if date.month ≤ 2 then (date.year : Int) - 1 else date.year
  let m := (date.month + 9) % 12
  365 * y + y / 4 - y / 100 + y / 400 + ((153 * m + 2) / 5 + date.day : Nat)

def Clock.sinceMidnight (clock : Clock) : Int :=
  ((clock.hour * 60 + clock.minute) * 60 + clock.second) * 1000000 + clock.microsecond

/-- Whether two clocks, on days with these numbers, show the same instant. -/
def Clock.sameInstant (a b : Clock) (dayA dayB : Int) : Bool :=
  let instant (c : Clock) (day offset : Int) := day * 86400000000 + c.sinceMidnight - offset
  match a.offset, b.offset with
  | none, none => instant a dayA 0 == instant b dayB 0
  | some x, some y => instant a dayA x == instant b dayB y
  | _, _ => false

/-- Year, month and day with hyphens. -/
def Date.iso (date : Date) : List Char :=
  padded 4 date.year ++ '-' :: padded 2 date.month ++ '-' :: padded 2 date.day

/-- Six digits after a point, unless they are all zero. -/
def microsecondText (n : Nat) : List Char :=
  if n = 0 then [] else '.' :: padded 6 n

/-- Hours, minutes and seconds of an offset; seconds and their fraction only where they matter. -/
def offsetText (offset : Int) : List Char :=
  let size := offset.natAbs
  let seconds := size / 1000000
  let fraction := size % 1000000
  let tail :=
    if seconds % 60 = 0 ∧ fraction = 0 then []
    else ':' :: padded 2 (seconds % 60) ++ microsecondText fraction
  (if offset < 0 then '-' else '+') :: padded 2 (seconds / 3600) ++
    ':' :: padded 2 (seconds / 60 % 60) ++ tail

def Clock.localText (clock : Clock) : List Char :=
  padded 2 clock.hour ++ ':' :: padded 2 clock.minute ++ ':' :: padded 2 clock.second ++
    microsecondText clock.microsecond

/-- The clock with its offset, if it has one. -/
def Clock.iso (clock : Clock) : List Char :=
  clock.localText ++ (clock.offset.map offsetText).getD []

/-- The clock in the form of the internet date format: an offset is taken down to whole seconds;
zero is then `Z`, and any other is rounded to whole minutes, half a minute toward zero. -/
def Clock.internet (clock : Clock) : List Char :=
  clock.localText ++
    match clock.offset with
    | none => []
    | some offset =>
      let seconds := (offset / 1000000).natAbs
      if seconds = 0 then ['Z']
      else
        let minutes := seconds / 60 + (if seconds % 60 > 30 then 1 else 0)
        (if offset < 0 then '-' else '+') :: padded 2 (minutes / 60 % 24) ++
          ':' :: padded 2 (minutes % 60)

/-- Reads exactly `width` digits, then goes on with the rest. -/
def readField? (width : Nat) (text : List Char) : Option (Nat × List Char) :=
  let field := text.take width
  if field.length = width ∧ field.all Char.isDigit then
    some (Numeral.value field, text.drop width)
  else none

/-- Reads a separator and then `width` digits. -/
def readAfter? (separator : Char) (width : Nat) : List Char → Option (Nat × List Char)
  | c :: rest => if c = separator then readField? width rest else none
  | [] => none

/-- Reads the date at the front of a text. -/
def Date.readFront? (text : List Char) : Option (Date × List Char) := do
  let (year, text) ← readField? 4 text
  let (month, text) ← readAfter? '-' 2 text
  let (day, text) ← readAfter? '-' 2 text
  return ({ year := year, month := month, day := day }, text)

/-- Reads hours and minutes, then seconds and their fraction where they are given. -/
def readClockFields? (text : List Char) : Option ((Nat × Nat × Nat × Nat) × List Char) := do
  let (hour, text) ← readField? 2 text
  let (minute, text) ← readAfter? ':' 2 text
  let (second, text) := (readAfter? ':' 2 text).getD (0, text)
  let (microsecond, text) := (readAfter? '.' 6 text).getD (0, text)
  return ((hour, minute, second, microsecond), text)

/-- Reads an offset with its sign; an empty text is no offset. -/
def readOffset? (text : List Char) : Option (Option Int) :=
  match text with
  | [] => some none
  | sign :: rest =>
    match readClockFields? rest with
    | some ((hour, minute, second, microsecond), []) =>
      let size : Int := ((hour * 60 + minute) * 60 + second) * 1000000 + microsecond
      if sign = '+' then some (some size)
      else if sign = '-' then some (some (-size))
      else none
    | _ => none

/-- Reads a clock, with its offset if it has one. -/
def Clock.read? (text : List Char) : Option Clock := do
  let ((hour, minute, second, microsecond), rest) ← readClockFields? text
  let offset ← readOffset? rest
  return { hour := hour, minute := minute, second := second, microsecond := microsecond,
           offset := offset }

end SqlTemplate.Number
