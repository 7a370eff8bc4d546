import SqlTemplate.Statement.PercentMarkers

/-! SQL with percent signs as a database reads it, and what rendering makes of each character. A
reader must find the conversions again that were written, and must not take any other percent sign
for one. -/
namespace SqlTemplate.PercentFormat
open Text PercentMarkers

/-- What a format consists of: characters, and the conversions that take parameters. -/
inductive FormatItem
  | char (c : Char)
  | positional
  | named (name : List Char)
  deriving DecidableEq

/-- How far a reader has come in a conversion. -/
inductive FormatState
  | text
  | percent
  /-- Inside the parentheses of a name, after these characters. -/
  | opened (name : List Char)
  | closed (name : List Char)

/-- Reads a format from a state on. A percent sign that starts neither a doubled percent sign nor a
conversion is refused, and so is a conversion without an end. -/
def readFrom : FormatState → List Char → Option (List FormatItem)
  | .text, [] => some []
  | _, [] => none
  | .text, c :: rest =>
    if c = '%' then readFrom .percent rest else (readFrom .text rest).map (.char c :: ·)
  | .percent, c :: rest =>
    if c = '%' then (readFrom .text rest).map (.char '%' :: ·)
    else if c = 's' then (readFrom .text rest).map (.positional :: ·)
    else if c = '(' then readFrom (.opened []) rest
    else none
  | .opened name, c :: rest =>
    if c = ')' then readFrom (.closed name) rest else readFrom (.opened (name ++ [c])) rest
  | .closed name, c :: rest =>
    if c = 's' then (readFrom .text rest).map (.named name :: ·) else none

/-- Reads a whole format. -/
def readFormat (format : String) : Option (List FormatItem) := readFrom .text format.toList

/-- The characters of SQL, each with whether it stands inside a literal, where the counter is the
number of characters that are still inside. What opens a literal stands outside. -/
def regions : Nat → List Char → List (Char × Bool)
  | _, [] => []
  | inside + 1, c :: rest => (c, true) :: regions inside rest
  | 0, c :: rest => (c, false) :: regions ((literalLength? c rest).getD 0) rest

/-- The number of question marks inside the literals of SQL. -/
def quotedMarks (sql : String) : Nat := (regions 0 sql.toList).count ('?', true)

/-- What a character of SQL without markers is rendered as. -/
def itemOf : Char × Bool → FormatItem
  | (c, quoted) => if c = '?' ∧ quoted = false then .positional else .char c

theorem regions_text (inside : Nat) (text : List Char) :
    (regions inside text).map Prod.fst = text := by
  induction text generalizing inside with
  | nil => cases inside <;> rfl
  | cons c rest ih =>
    cases inside with
    | zero => simp only [regions, List.map_cons, ih]
    | succ inside => simp only [regions, List.map_cons, ih]

/-- A literal is opened neither by a percent sign nor by a question mark. -/
theorem opening_char (opens : literalLength? c rest = some length) : c ≠ '%' ∧ c ≠ '?' := by
  constructor
  · rintro rfl
    simp [literalLength?, apostrophe, quotationMark, backtick] at opens
  · rintro rfl
    simp [literalLength?, apostrophe, quotationMark, backtick] at opens

theorem read_plain (plain : c ≠ '%') (rest : List Char) :
    readFrom .text (c :: rest) = (readFrom .text rest).map (.char c :: ·) := by
  simp only [readFrom, if_neg plain]

/-- An escaped character is read as itself. -/
theorem read_escape (c : Char) (rest : List Char) :
    readFrom .text (escape c ++ rest) = (readFrom .text rest).map (.char c :: ·) := by
  by_cases percent : c = '%'
  · subst percent
    simp [escape, readFrom]
  · rw [escape, if_neg percent]
    exact read_plain percent rest

theorem read_placeholder (rest : List Char) :
    readFrom .text ('%' :: 's' :: rest) = (readFrom .text rest).map (.positional :: ·) := by
  simp [readFrom]

/-- SQL without markers is read back character by character; only a question mark outside of all
literals is a conversion. -/
theorem read_rendered_from (inside : Nat) (text : List Char) :
    readFrom .text (renderFrom [] inside 0 text) = some ((regions inside text).map itemOf) := by
  induction text generalizing inside with
  | nil => cases inside <;> rfl
  | cons c rest ih =>
    cases inside with
    | succ inside =>
      simp only [renderFrom, read_escape, ih, regions, List.map_cons, itemOf]
      simp
    | zero =>
      simp only [renderFrom, regions, List.map_cons, itemOf]
      cases opens : literalLength? c rest with
      | some length =>
        obtain ⟨plain, noMark⟩ := opening_char opens
        simp [read_plain plain, ih, noMark]
      | none =>
        by_cases mark : c = '?'
        · simp [mark, read_placeholder, ih]
        · simp [mark, read_escape, ih]

/-- Of the characters of SQL, the conversions are the question marks outside of literals. -/
theorem count_items (pairs : List (Char × Bool)) :
    (pairs.map itemOf).count .positional = pairs.count ('?', false) := by
  induction pairs with
  | nil => rfl
  | cons pair pairs ih =>
    obtain ⟨c, quoted⟩ := pair
    rw [List.map_cons, List.count_cons, List.count_cons, ih]
    congr 1
    cases quoted <;> by_cases mark : c = '?' <;> simp [itemOf, mark]

theorem count_marks (pairs : List (Char × Bool)) :
    (pairs.map Prod.fst).count '?' = pairs.count ('?', false) + pairs.count ('?', true) := by
  induction pairs with
  | nil => rfl
  | cons pair pairs ih =>
    obtain ⟨c, quoted⟩ := pair
    simp only [List.map_cons, List.count_cons, ih]
    cases quoted <;> by_cases mark : c = '?' <;> simp [mark] <;> omega

/-- Rendered SQL without markers can be read, and has a conversion for each question mark that is
not inside a literal. -/
theorem read_rendered (sql : String) :
    ∃ items, readFormat (render sql []) = some items ∧
      items.count .positional + quotedMarks sql = sql.toList.count '?' := by
  refine ⟨(regions 0 sql.toList).map itemOf, ?_, ?_⟩
  · rw [readFormat, render, String.toList_ofList]
    exact read_rendered_from 0 sql.toList
  · rw [count_items, quotedMarks, ← count_marks, regions_text]

/-- Of two question marks, the one in quotes is no conversion. -/
example : readFormat (render "'?'%?" []) =
    some [.char '\'', .char '?', .char '\'', .char '%', .positional] := by rfl

end SqlTemplate.PercentFormat
