import Mathlib
import SqlTemplate.Proofs.CompilerHistory

/-! The placeholders of filled SQL stand for the entries of its queue, one for one and in the same
order. Filled SQL is laid out as parts in which every placeholder carries its own entry, so that
neither can be lost, doubled or moved without the other. Only the text of a raw token may bring
question marks of its own. -/
namespace SqlTemplate.PlaceholderAlignment
open Template TemplateCutting Compilation CompilerHistory Outcomes

/-- A part of filled SQL. A frame is text of the template, or what a token writes around its
placeholders; a raw token writes its argument. -/
inductive Part
  | frame (text : String)
  | inlined (text : String)
  | slot (entry : BindEntry)

def Part.sql : Part → String
  | frame text | inlined text => text
  | slot _ => placeholder

def Part.entry? : Part → Option BindEntry
  | slot entry => some entry
  | frame _ | inlined _ => none

def Part.inlined? : Part → Option String
  | inlined text => some text
  | frame _ | slot _ => none

/-- The SQL that parts are written as. -/
def written (parts : List Part) : String := String.join (parts.map Part.sql)

/-- The entries of the placeholders, from left to right. -/
def entriesOf (parts : List Part) : Queue := parts.filterMap Part.entry?

/-- The texts of raw tokens, from left to right. -/
def inlinedOf (parts : List Part) : List String := parts.filterMap Part.inlined?

/-- The number of question marks in a text. -/
def marks (text : String) : Nat := text.toList.count '?'

/-- No frame has a question mark. -/
def Framed (parts : List Part) : Prop := ∀ text, Part.frame text ∈ parts → marks text = 0

@[simp] theorem written_nil : (written []).toList = [] := by simp [written]

@[simp] theorem written_cons (part : Part) (parts : List Part) :
    (written (part :: parts)).toList = part.sql.toList ++ (written parts).toList := by
  simp [written]

@[simp] theorem written_append (parts more : List Part) :
    (written (parts ++ more)).toList = (written parts).toList ++ (written more).toList := by
  simp [written]

@[simp] theorem entries_of_append (parts more : List Part) :
    entriesOf (parts ++ more) = entriesOf parts ++ entriesOf more := List.filterMap_append

@[simp] theorem inlined_of_append (parts more : List Part) :
    inlinedOf (parts ++ more) = inlinedOf parts ++ inlinedOf more := List.filterMap_append

/-- Question marks are the placeholders, and what raw tokens bring along. -/
theorem marks_written (framed : Framed parts) :
    marks (written parts) = (entriesOf parts).length + ((inlinedOf parts).map marks).sum := by
  induction parts with
  | nil => simp [marks, entriesOf, inlinedOf]
  | cons part parts ih =>
    have rest := ih fun text member => framed text (List.mem_cons_of_mem _ member)
    cases part with
    | frame text =>
      have bare : marks text = 0 := framed text List.mem_cons_self
      simp only [marks, written_cons, Part.sql, List.count_append] at bare rest ⊢
      rw [bare, Nat.zero_add]
      exact rest
    | inlined text =>
      simp only [marks, written_cons, Part.sql, List.count_append, entriesOf, inlinedOf,
        Part.entry?, Part.inlined?, List.filterMap_cons, List.map_cons, List.sum_cons] at rest ⊢
      omega
    | slot entry =>
      have one : placeholder.toList.count '?' = 1 := by decide
      simp only [marks, written_cons, Part.sql, List.count_append, entriesOf, inlinedOf,
        Part.entry?, Part.inlined?, List.filterMap_cons, List.length_cons] at rest ⊢
      omega

/-! ## The parts of a token -/

/-- Groups of parts with a text between them. -/
def separated (separator : String) (groups : List (List Part)) : List Part :=
  [Part.frame separator].intercalate groups

/-- A placeholder for each value of a sequence, or one for a value that is none. -/
def arrayParts (value : Value) (type : BindType) : List Part :=
  match value.sequence? with
  | none => [.slot (.unnamed value type)]
  | some items => separated "," (items.map fun item => [.slot (.unnamed item type)])

/-- For each column its name and then the placeholder of its own value. -/
def columnParts (value : Value) (separator : String) : List Part :=
  match value.entries? with
  | none => [.slot (.unnamed value .string)]
  | some entries => separated separator
      (entries.map fun (key, value) =>
        [.frame (columnName key ++ " = "), .slot (.unnamed value .string)])

/-- The parts that a token of a kind makes of its argument. -/
def partsOf (kind : TokenKind) (value : Value) : List Part :=
  match kind with
  | .standard => [.slot (.inferred value .null)]
  | .string | .float => [.slot (.unnamed value .string)]
  | .integer => [.slot (.unnamed value .integer)]
  | .boolean => [.slot (.unnamed value .boolean)]
  | .null => [.slot (.unnamed value .null)]
  | .raw => [.inlined (rawText value)]
  | .strippedString => [.slot (.unnamed (stripped value) .string)]
  | .intArray => arrayParts value .integer
  | .stringArray => arrayParts value .string
  | .columnsByComma => columnParts value ", "
  | .columnsByAnd => columnParts value " AND "

private theorem written_separated (separator : String) (groups : List (List Part)) :
    written (separated separator groups) = separator.intercalate (groups.map written) := by
  induction groups with
  | nil => simp [separated, written]
  | cons group groups ih =>
    cases groups with
    | nil => simp [separated]
    | cons next groups =>
      rw [List.map_cons, List.map_cons, String.intercalate_cons_cons, ← List.map_cons, ← ih]
      apply String.toList_inj.mp
      simp [separated, List.intercalate_cons_cons, Part.sql]

private theorem filter_separated {select : Part → Option α}
    (skips : ∀ text, select (.frame text) = none) (separator : String)
    (groups : List (List Part)) :
    (separated separator groups).filterMap select =
      (groups.map fun group => group.filterMap select).flatten := by
  induction groups with
  | nil => rfl
  | cons group groups ih =>
    cases groups with
    | nil => simp [separated]
    | cons next groups =>
      rw [List.map_cons, List.flatten_cons, ← ih]
      simp [separated, List.intercalate_cons_cons, skips]

private theorem mem_separated (member : part ∈ separated separator groups) :
    part = .frame separator ∨ ∃ group ∈ groups, part ∈ group := by
  induction groups with
  | nil => simp [separated] at member
  | cons group groups ih =>
    cases groups with
    | nil => exact .inr ⟨group, List.mem_cons_self, by simpa [separated] using member⟩
    | cons next groups =>
      simp only [separated, List.intercalate_cons_cons, List.mem_append, List.mem_singleton]
        at member
      rcases member with (here | between) | later
      · exact .inr ⟨group, List.mem_cons_self, here⟩
      · exact .inl between
      · rcases ih later with between | ⟨found, inside, same⟩
        · exact .inl between
        · exact .inr ⟨found, List.mem_cons_of_mem _ inside, same⟩

/-- A column name has no question mark, whatever its key was. -/
theorem column_name_bare (key : Value) : marks (columnName key) = 0 := by
  rw [marks, List.count_eq_zero, columnName, Text.sanitize, String.toList_ofList]
  intro member
  exact absurd (List.mem_filter.mp member).2 (by decide)

theorem array_parts_framed (value : Value) (type : BindType) : Framed (arrayParts value type) := by
  intro text member
  unfold arrayParts at member
  split at member
  · simp at member
  · rcases mem_separated member with comma | ⟨group, inside, here⟩
    · cases comma
      decide
    · obtain ⟨item, -, rfl⟩ := List.mem_map.mp inside
      simp at here

theorem column_parts_framed (value : Value) (bare : marks separator = 0) :
    Framed (columnParts value separator) := by
  intro text member
  unfold columnParts at member
  split at member
  · simp at member
  · rcases mem_separated member with between | ⟨group, inside, here⟩
    · cases between
      exact bare
    · obtain ⟨⟨key, item⟩, -, rfl⟩ := List.mem_map.mp inside
      simp only [List.mem_cons, Part.frame.injEq, reduceCtorEq, List.not_mem_nil, or_self,
        or_false] at here
      have name := column_name_bare key
      have equals : marks " = " = 0 := by decide
      rw [marks] at name equals
      rw [here, marks, String.toList_append, List.count_append, name, equals]

/-- What a token writes around its placeholders has no question mark. -/
theorem parts_framed (kind : TokenKind) (value : Value) : Framed (partsOf kind value) := by
  cases kind with
  | intArray => exact array_parts_framed value .integer
  | stringArray => exact array_parts_framed value .string
  | columnsByComma => exact column_parts_framed value (by decide)
  | columnsByAnd => exact column_parts_framed value (by decide)
  | _ =>
    intro text member
    simp [partsOf] at member

private theorem array_parts_bound (value : Value) (type : BindType) :
    inlinedOf (arrayParts value type) = [] := by
  unfold arrayParts
  split
  · rfl
  · rw [inlinedOf, filter_separated (fun _ => rfl)]
    simp [Part.inlined?, Function.comp_def]

private theorem column_parts_bound (value : Value) (separator : String) :
    inlinedOf (columnParts value separator) = [] := by
  unfold columnParts
  split
  · rfl
  · rw [inlinedOf, filter_separated (fun _ => rfl), List.map_map, List.flatten_eq_nil_iff]
    intro texts member
    obtain ⟨entry, -, rfl⟩ := List.mem_map.mp member
    rfl

/-- Only raw tokens write their arguments into the SQL. -/
theorem parts_bound (bound : kind ≠ .raw) (value : Value) :
    inlinedOf (partsOf kind value) = [] := by
  cases kind with
  | raw => exact absurd rfl bound
  | intArray => exact array_parts_bound value .integer
  | stringArray => exact array_parts_bound value .string
  | columnsByComma => exact column_parts_bound value ", "
  | columnsByAnd => exact column_parts_bound value " AND "
  | _ => rfl

/-- A piece is written as parts, and binds their entries. -/
structure MadeOf (piece : Piece) (parts : List Part) : Prop where
  sql : piece.sql = written parts
  entries : piece.entries = entriesOf parts

private theorem single_slot (entry : BindEntry) :
    MadeOf { sql := placeholder, entries := [entry] } [.slot entry] :=
  ⟨by simp [written, Part.sql], rfl⟩

theorem fill_array_parts (filled : fillArray value type = .ok piece) :
    MadeOf piece (arrayParts value type) := by
  obtain ⟨-, rfl⟩ := guarded_ok_iff.mp filled
  unfold arrayPiece arrayParts
  cases value.sequence? with
  | none => exact single_slot _
  | some items =>
    constructor
    · rw [written_separated, List.map_map]
      simp only [placeholders, Function.comp_def]
      congr 1
      induction items with
      | nil => rfl
      | cons item items ih =>
        simp only [List.length_cons, List.replicate_succ, List.map_cons, ih]
        simp [written, Part.sql]
    · rw [entriesOf, filter_separated (fun _ => rfl), List.map_map]
      induction items with
      | nil => rfl
      | cons item items ih => simpa [Part.entry?] using ih

theorem fill_columns_parts (filled : fillColumns value separator = .ok piece) :
    MadeOf piece (columnParts value separator) := by
  unfold fillColumns at filled
  unfold columnParts
  cases columns : value.entries? with
  | none =>
    rw [columns] at filled
    dsimp only at filled
    split at filled
    · cases filled
    · cases filled
      exact single_slot _
  | some entries =>
    rw [columns] at filled
    obtain ⟨-, rfl⟩ := guarded_ok_iff.mp filled
    constructor
    · rw [written_separated, List.map_map]
      rfl
    · rw [entriesOf, filter_separated (fun _ => rfl), List.map_map]
      clear columns filled
      induction entries with
      | nil => rfl
      | cons entry entries ih => exact congrArg (_ :: ·) ih

/-- Every token that can be filled makes the parts of its kind. -/
theorem fill_token_parts (filled : fillToken token value = .ok piece) :
    ∃ kind, token.kind = some kind ∧ MadeOf piece (partsOf kind value) := by
  unfold fillToken at filled
  cases known : token.kind with
  | none =>
    rw [known] at filled
    cases filled
  | some kind =>
    refine ⟨kind, rfl, ?_⟩
    rw [known] at filled
    cases kind with
    | intArray => exact fill_array_parts filled
    | stringArray => exact fill_array_parts filled
    | columnsByComma => exact fill_columns_parts filled
    | columnsByAnd => exact fill_columns_parts filled
    | raw =>
      obtain ⟨-, rfl⟩ := guarded_ok_iff.mp filled
      exact ⟨by simp [written, Part.sql, Piece.text, partsOf], rfl⟩
    | strippedString =>
      obtain ⟨-, rfl⟩ := guarded_ok_iff.mp filled
      exact single_slot _
    | _ => cases filled; exact single_slot _

/-! ## The layout of a template -/

/-- What a segment of a template contributes to filled SQL. A token finds its argument by its
number; unless it is raw, it has exactly as many question marks as entries, and none in what it
writes around its placeholders, column names included. -/
inductive Contributes (arguments : List Value) : Segment → List Part → Prop where
  | literal (bare : marks text = 0) : Contributes arguments (.literal text) [.frame text]
  | raw (isRaw : token.kind = some .raw) (numbered : token.ordinal = Int.ofNat n)
      (given : arguments[n]? = some value) :
      Contributes arguments (.token token) [.inlined (rawText value)]
  | bound (known : token.kind = some kind) (notRaw : kind ≠ .raw)
      (numbered : token.ordinal = Int.ofNat n) (given : arguments[n]? = some value)
      (framed : Framed (partsOf kind value))
      (even : marks (written (partsOf kind value)) = (entriesOf (partsOf kind value)).length) :
      Contributes arguments (.token token) (partsOf kind value)

/-- The texts that the raw tokens among some tokens write. -/
def inlinedBy (tokens : List Token) (arguments : List Value) : List String :=
  (tokens.zip arguments).filterMap fun (token, value) =>
    if token.kind = some .raw then some (rawText value) else none

theorem token_contributes {arguments : List Value} (filled : fillToken token value = .ok piece)
    (numbered : token.ordinal = Int.ofNat n) (given : arguments[n]? = some value) :
    ∃ parts, Contributes arguments (.token token) parts ∧ MadeOf piece parts ∧
      inlinedOf parts = inlinedBy [token] [value] := by
  obtain ⟨kind, known, made⟩ := fill_token_parts filled
  by_cases isRaw : kind = .raw
  · subst isRaw
    exact ⟨_, .raw known numbered given, made, by simp [inlinedOf, inlinedBy, known, Part.inlined?]⟩
  · have none := parts_bound isRaw value
    have even := marks_written (parts_framed kind value)
    rw [none, List.map_nil, List.sum_nil, Nat.add_zero] at even
    exact ⟨_, .bound known isRaw numbered given (parts_framed kind value) even, made,
      by simp [none, inlinedBy, known, isRaw]⟩

/-- Filling lays the parts of the segments out in their order. The arguments before those that are
still to be consumed have gone to the tokens before. -/
theorem fill_laid_out (before : List Value) (filled : Filled pieces arguments piece)
    (numbered : (tokens pieces).map Token.ordinal =
      (List.range' before.length (tokens pieces).length).map Int.ofNat)
    (bare : ∀ text, Segment.literal text ∈ pieces → marks text = 0) :
    ∃ layout, List.Forall₂ (Contributes (before ++ arguments)) pieces layout ∧
      MadeOf piece layout.flatten ∧
      inlinedOf layout.flatten = inlinedBy (tokens pieces) arguments := by
  induction filled generalizing before with
  | done => exact ⟨[], .nil, ⟨by simp [written, Piece.text], rfl⟩, rfl⟩
  | literal _ ih =>
    rename_i text _
    have bareRest := fun other member => bare other (List.mem_cons_of_mem _ member)
    obtain ⟨layout, contributed, wrote, inlined⟩ := ih before numbered bareRest
    refine ⟨[.frame text] :: layout, .cons (.literal (bare text List.mem_cons_self)) contributed,
      ⟨?_, wrote.entries⟩, inlined⟩
    apply String.toList_inj.mp
    simp [Piece.append, Piece.text, wrote.sql, Part.sql]
  | token own _ ih =>
    rename_i token value _ _ arguments _ _
    have bareRest := fun other member => bare other (List.mem_cons_of_mem _ member)
    simp only [tokens_token, List.map_cons, List.length_cons, List.range'_succ,
      List.cons.injEq] at numbered
    have here : (before ++ value :: arguments)[before.length]? = some value := by simp
    obtain ⟨parts, contributes, ownWrote, ownInlined⟩ := token_contributes own numbered.1 here
    -- For the rest, this argument is one of those that were consumed before.
    obtain ⟨layout, contributed, wrote, inlined⟩ :=
      ih (before ++ [value]) (by simpa using numbered.2) bareRest
    rw [List.append_assoc, List.singleton_append] at contributed
    refine ⟨parts :: layout, .cons contributes contributed, ⟨?_, ?_⟩, ?_⟩
    · apply String.toList_inj.mp
      simp [Piece.append, ownWrote.sql, wrote.sql]
    · simp [Piece.append, ownWrote.entries, wrote.entries]
    · rw [List.flatten_cons, inlined_of_append, ownInlined, inlined]
      exact (List.filterMap_append (l := [(token, value)])).symm

theorem layout_framed {arguments : List Value}
    (contributed : List.Forall₂ (Contributes arguments) pieces layout) : Framed layout.flatten := by
  induction contributed with
  | nil => intro text member; simp at member
  | cons contributes _ ih =>
    intro text member
    rw [List.flatten_cons, List.mem_append] at member
    rcases member with here | later
    · cases contributes with
      | literal bare =>
        cases List.mem_singleton.mp here
        exact bare
      | raw => simp at here
      | bound _ _ _ _ framed => exact framed text here
    · exact ih text later

/-- A template that was filled has a layout, one group of parts for each segment, and its question
marks are the placeholders of its entries and those that raw tokens wrote. -/
theorem filled_layout (filled : Filled (segments template) arguments piece) :
    ∃ layout, List.Forall₂ (Contributes arguments) (segments template) layout ∧
      piece.sql = written layout.flatten ∧ piece.entries = entriesOf layout.flatten ∧
      marks piece.sql = piece.entries.length +
        ((inlinedBy (tokens (segments template)) arguments).map marks).sum := by
  have numbered := tokens_numbered template
  rw [List.range_eq_range'] at numbered
  have bare (text : String) (member : Segment.literal text ∈ segments template) : marks text = 0 :=
    List.count_eq_zero.mpr (literal_clean member)
  obtain ⟨layout, contributed, made, inlined⟩ := fill_laid_out [] filled numbered bare
  refine ⟨layout, contributed, made.sql, made.entries, ?_⟩
  rw [made.sql, made.entries, ← inlined]
  exact marks_written (layout_framed contributed)

/-- Compiled SQL and its queue are aligned. A filled template has one placeholder for each entry,
segment by segment and in the same order, besides the question marks that raw tokens write; SQL with
named markers has no question mark; and SQL without arguments has nothing to bind. -/
theorem placeholders_match_entries (parser : Operation.Parser) (config : StatementConfig)
    (history : List Step)
    (template : String) (arguments : List Value) (statement : Compiled)
    (compiled : ((compilerAfter parser config history).compile template arguments).1 =
      .ok statement) :
    (statement.mode = .template →
      ∃ layout, List.Forall₂ (Contributes arguments) (segments template) layout ∧
        statement.sql = written layout.flatten ∧ statement.queue = entriesOf layout.flatten ∧
        marks statement.sql = statement.queue.length +
          ((inlinedBy (tokens (segments template)) arguments).map marks).sum) ∧
      (statement.mode = .named → marks statement.sql = 0) ∧
      (statement.mode = .static → statement.queue = []) := by
  rw [compile_after_history] at compiled
  cases compiles_of_ok compiled with
  | static => exact ⟨nofun, nofun, fun _ => rfl⟩
  | named marked bare =>
    exact ⟨nofun, fun _ => List.count_eq_zero.mpr (no_tokens_iff.mp bare), nofun⟩
  | filled given counted made => exact ⟨fun _ => filled_layout made, nofun, nofun⟩

/-- A column name and a raw text may hold question marks; only the raw one reaches the SQL. -/
theorem placeholders_match_entries_of_update :
    ((compilerAfter Operation.byLeadingKeyword .standard [.tokenize "SELECT ?"]).compile
        "UPDATE t SET ?h WHERE ?R1 AND c IN (?a)"
        [.mapping [(.str "a?", .int 1), (.str "b", .null)], .str "x > '?'",
          .list [.int 3, .str "4"]]).1 =
      .ok
        { sql := "UPDATE t SET a = ?, b = ? WHERE x > '?' AND c IN (?,?)"
          queue := [.unnamed (.int 1) .string, .unnamed .null .string,
            .unnamed (.int 3) .integer, .unnamed (.str "4") .integer]
          mode := .template, operation := .update
          template := "UPDATE t SET ?h WHERE ?R1 AND c IN (?a)" } ∧
      marks "UPDATE t SET a = ?, b = ? WHERE x > '?' AND c IN (?,?)" = 4 + 1 := by
  have compiled : ((compilerAfter Operation.byLeadingKeyword .standard
      [.tokenize "SELECT ?"]).compile
      "UPDATE t SET ?h WHERE ?R1 AND c IN (?a)"
      [.mapping [(.str "a?", .int 1), (.str "b", .null)], .str "x > '?'",
        .list [.int 3, .str "4"]]).1 =
    .ok
      { sql := "UPDATE t SET a = ?, b = ? WHERE x > '?' AND c IN (?,?)"
        queue := [.unnamed (.int 1) .string, .unnamed .null .string,
          .unnamed (.int 3) .integer, .unnamed (.str "4") .integer]
        mode := .template, operation := .update
        template := "UPDATE t SET ?h WHERE ?R1 AND c IN (?a)" } := by rfl
  have aligned := placeholders_match_entries Operation.byLeadingKeyword .standard
    [.tokenize "SELECT ?"] "UPDATE t SET ?h WHERE ?R1 AND c IN (?a)" _ _ compiled
  obtain ⟨layout, -, -, -, count⟩ := aligned.1 rfl
  exact And.intro compiled count

end SqlTemplate.PlaceholderAlignment
