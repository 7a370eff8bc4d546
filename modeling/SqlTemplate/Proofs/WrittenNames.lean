import SqlTemplate.Proofs.InsertionLayout
import SqlTemplate.Statement.Lock

/-! The names that the library writes into SQL. What it is given for a name may be any value; only
the characters that a name may have are kept of its text. Four letters beyond ASCII are kept as
well, because letters are compared without regard to case, and these are the only way in which a
name can get a character that it may not have. -/
namespace SqlTemplate.WrittenNames
open Text SqlTemplate.Insert InsertionLayout Template
open Outcomes (guarded_ok_iff)

/-- The characters that names may have: letters and digits of ASCII, underscores, hyphens, dots and
backticks. -/
def IsPermitted (c : Char) : Prop :=
  ('a' ≤ c ∧ c ≤ 'z') ∨ ('A' ≤ c ∧ c ≤ 'Z') ∨ ('0' ≤ c ∧ c ≤ '9') ∨ c ∈ ['_', '-', '.', '`']

instance : DecidablePred IsPermitted := fun _ => inferInstanceAs (Decidable (_ ∨ _ ∨ _ ∨ _))

/-- The dotted and the dotless i, the long s and the kelvin sign. -/
def foldingLetters : List Char := ['\u0130', '\u0131', '\u017f', '\u212a']

/-- An identifier whose text has none of the letters that fold to letters of ASCII. -/
def Unfolding (identifier : Value) : Prop := ∀ c ∈ identifier.text.toList, c ∉ foldingLetters

/-- What is written for an identifier: all of its sanitized text or a part of it. Its characters are
permitted exactly if the identifier has no letter that folds. -/
structure WrittenFor (identifier : Value) (name : String) : Prop where
  made : name.toList <:+: (sanitize identifier.text).toList
  permitted : (∀ c ∈ name.toList, IsPermitted c) ↔ Unfolding identifier

/-! ## Characters -/

theorem folds_iff (c : Char) : foldsToAsciiLetter c = true ↔ c ∈ foldingLetters := by
  have code (d : Char) : c = d ↔ c.toNat = d.toNat := Char.toNat_inj.symm
  simp only [foldsToAsciiLetter, foldingLetters, Bool.or_eq_true, beq_iff_eq, List.mem_cons,
    List.not_mem_nil, or_false, code, or_assoc]
  rfl

theorem folding_not_permitted (folds : c ∈ foldingLetters) : ¬ IsPermitted c := by
  fin_cases folds <;> decide

theorem identifier_char_iff (c : Char) :
    isIdentifierChar c = true ↔ IsPermitted c ∨ c ∈ foldingLetters := by
  rw [← folds_iff]
  simp only [isIdentifierChar, IsPermitted, Char.isAlphanum, Char.isAlpha, Char.isUpper,
    Char.isLower, Char.isDigit, Bool.or_eq_true, Bool.and_eq_true, decide_eq_true_eq, beq_iff_eq,
    List.mem_cons, List.not_mem_nil, or_false, Char.le_def, ge_iff_le]
  tauto

/-- Sanitizing keeps the permitted characters in their order, and nothing else exactly if there is
no letter that folds. -/
theorem sanitize_filters_iff (text : String) :
    (sanitize text).toList = text.toList.filter (IsPermitted ·) ↔
      ∀ c ∈ text.toList, c ∉ foldingLetters := by
  rw [sanitize, String.toList_ofList]
  constructor
  · intro same c member folds
    have kept : c ∈ text.toList.filter isIdentifierChar :=
      List.mem_filter.mpr ⟨member, (identifier_char_iff c).mpr (.inr folds)⟩
    rw [same] at kept
    exact folding_not_permitted folds (of_decide_eq_true (List.mem_filter.mp kept).2)
  · intro unfolding
    refine List.filter_congr fun c member => Bool.eq_iff_iff.mpr ?_
    rw [identifier_char_iff, decide_eq_true_eq, or_iff_left (unfolding c member)]

theorem sanitized_permitted_iff (text : String) :
    (∀ c ∈ (sanitize text).toList, IsPermitted c) ↔ ∀ c ∈ text.toList, c ∉ foldingLetters := by
  rw [sanitize, String.toList_ofList]
  constructor
  · intro permitted c member folds
    have kept := (identifier_char_iff c).mpr (.inr folds)
    exact folding_not_permitted folds (permitted c (List.mem_filter.mpr ⟨member, kept⟩))
  · intro unfolding c kept
    obtain ⟨member, named⟩ := List.mem_filter.mp kept
    exact ((identifier_char_iff c).mp named).resolve_right (unfolding c member)

/-! ## Names -/

theorem column_name_written (key : Value) : WrittenFor key (columnName key) :=
  ⟨List.infix_refl _, sanitized_permitted_iff key.text⟩

theorem column_names_written (keys : List Value) :
    List.Forall₂ WrittenFor keys (keys.map columnName) := by
  rw [List.forall₂_map_right_iff, List.forall₂_same]
  exact fun key _ => column_name_written key

/-- A table loses backticks at the ends of its name, which are permitted. -/
theorem table_name_written (table : Value) : WrittenFor table (tableName table) := by
  obtain ⟨before, after, whole⟩ := (table_name_unquoted table).stripped
  refine ⟨⟨_, _, whole.symm⟩, ?_⟩
  rw [Unfolding, ← sanitized_permitted_iff, whole]
  have backticks (count : Nat) : ∀ c ∈ List.replicate count backtick, IsPermitted c := by
    intro c member
    rw [List.eq_of_mem_replicate member]
    decide
  simp only [List.forall_mem_append]
  exact ⟨fun inner => ⟨⟨backticks before, inner⟩, backticks after⟩, fun outer => outer.1.2⟩

/-! ## SQL with names -/

/-- SQL that compares columns with placeholders. -/
def ComparesColumns (keys : List Value) (separator sql : String) : Prop :=
  ∃ names, List.Forall₂ WrittenFor keys names ∧
    sql = separator.intercalate (names.map (· ++ " = ?"))

/-- SQL that inserts groups of values into columns of a table. -/
def InsertsInto (verb : String) (table : Value) (keys : List Value) (sql : String) : Prop :=
  ∃ name names widths, WrittenFor table name ∧ List.Forall₂ WrittenFor keys names ∧
    sql = verb ++ " INTO `" ++ name ++ "` (" ++ ",".intercalate names ++ ") VALUES " ++
      ",".intercalate (List.map group widths)

/-- SQL that locks tables. -/
def LocksTables (tables : List Value) (sql : String) : Prop :=
  ∃ names, List.Forall₂ WrittenFor tables names ∧
    sql = "LOCK TABLES " ++ ",".intercalate (names.map (· ++ " WRITE"))

/-- The tokens that write the keys of a mapping, and what they write between them. -/
inductive SeparatesColumns : TokenKind → String → Prop
  | comma : SeparatesColumns .columnsByComma ", "
  | and : SeparatesColumns .columnsByAnd " AND "

/-- The tables that a value stands for: a text is one table, and other values are walked through. -/
inductive TablesOf : Value → List Value → Prop
  | one : TablesOf (.str name) [.str name]
  | each (several : ∀ name, tables ≠ .str name) (walked : tables.iterate? = some items) :
      TablesOf tables items

theorem columns_compare (entries : List (Value × Value)) (separator : String) :
    ComparesColumns (entries.map Prod.fst) separator (columnsPiece entries separator).sql := by
  refine ⟨_, column_names_written _, ?_⟩
  have compared (key : Value) : columnName key ++ " = " ++ placeholder = columnName key ++ " = ?" :=
    String.append_assoc ..
  simp [columnsPiece, compared, Function.comp_def]

/-- A mapping fills a column map if its keys have texts, and the columns are compared then. -/
theorem fill_token_columns (known : token.kind = some kind)
    (separates : SeparatesColumns kind separator) (entries : List (Value × Value)) :
    fillToken token (.mapping entries) =
      if Value.areWritable (entries.map Prod.fst) then .ok (columnsPiece entries separator)
      else .error .unwritable := by
  unfold fillToken
  rw [known]
  cases separates <;> rfl

theorem insert_sql_inserts (verb : String) (table : Value) (keys : List Value)
    (values : List (List Value)) : InsertsInto verb table keys (insertSql verb table keys values) :=
  ⟨tableName table, keys.map columnName, values.map List.length, table_name_written table,
    column_names_written keys, by rw [List.map_map]; rfl⟩

theorem built_inserts (built : Insert.build verb table rows columns = .ok (sql, queue)) :
    ∃ rowList keys, RowsOf rows rowList ∧ KeysOf columns rowList keys ∧
      InsertsInto verb table keys sql := by
  obtain ⟨rowList, keys, values, normal, chosen, -, -, rfl, -⟩ := steps_of_ok built
  have rowsOf := rows_of_ok normal
  obtain ⟨first, rest, rfl⟩ := rows_given rowsOf
  exact ⟨_, keys, rowsOf, (keys_of_ok chosen).1, insert_sql_inserts verb table keys values⟩

theorem tables_locked (locked : Lock.ofTables tables = .ok sql) : LocksTables tables sql := by
  unfold Lock.ofTables at locked
  split at locked
  · cases locked
  · split at locked
    · cases locked
    · cases locked
      exact ⟨_, column_names_written tables, by rw [List.map_map]; rfl⟩

theorem walked_tables_locked (walked : tables.iterate? = some items)
    (locked : Lock.buildEach tables = .ok sql) : LocksTables items sql := by
  rw [Lock.buildEach, walked] at locked
  split at locked
  · exact tables_locked locked
  · cases locked

theorem built_locks (locked : Lock.build tables = .ok sql) :
    ∃ items, TablesOf tables items ∧ LocksTables items sql := by
  by_cases single : ∃ name, tables = .str name
  · obtain ⟨name, rfl⟩ := single
    exact ⟨_, .one, tables_locked locked⟩
  · have several : ∀ name, tables ≠ .str name := fun name same => single ⟨name, same⟩
    have each : Lock.build tables = Lock.buildEach tables := by
      cases tables with
      | str name => exact absurd rfl (several name)
      | _ => rfl
    rw [each] at locked
    cases walked : tables.iterate? with
    | none =>
      rw [Lock.buildEach, walked] at locked
      split at locked <;> cases locked
    | some items => exact ⟨items, .each several walked, walked_tables_locked walked locked⟩

/-- Sanitizing keeps exactly the permitted characters of an identifier, in their order, unless it
has one of the four letters that fold to letters of ASCII; then it keeps those too. So whatever
stands for a column or a table where columns are compared, rows inserted and tables locked consists
of permitted characters, unless its identifier has such a letter. -/
theorem written_names_are_permitted (identifier : Value) :
    ((sanitize identifier.text).toList = identifier.text.toList.filter (IsPermitted ·) ↔
        Unfolding identifier) ∧
      (∀ (token : Token) kind separator entries, token.kind = some kind →
        SeparatesColumns kind separator →
          ((∃ piece, fillToken token (.mapping entries) = .ok piece) ↔
            Value.areWritable (entries.map Prod.fst) = true) ∧
          ∀ piece, fillToken token (.mapping entries) = .ok piece →
            ComparesColumns (entries.map Prod.fst) separator piece.sql) ∧
      (∀ verb table rows columns sql queue,
        Insert.build verb table rows columns = .ok (sql, queue) →
          ∃ rowList keys, RowsOf rows rowList ∧ KeysOf columns rowList keys ∧
            InsertsInto verb table keys sql) ∧
      (∀ tables sql, Lock.build tables = .ok sql →
        ∃ items, TablesOf tables items ∧ LocksTables items sql) ∧
      ∀ tables items sql, tables.iterate? = some items → Lock.buildEach tables = .ok sql →
        LocksTables items sql := by
  refine ⟨sanitize_filters_iff identifier.text, ?_, ?_, ?_, ?_⟩
  · intro token kind separator entries known separates
    rw [fill_token_columns known separates]
    refine ⟨?_, fun piece filled => ?_⟩
    · simp only [guarded_ok_iff, exists_and_left, exists_eq, and_true]
    · obtain ⟨-, rfl⟩ := guarded_ok_iff.mp filled
      exact columns_compare entries separator
  · intro verb table rows columns sql queue built
    exact built_inserts built
  · intro tables sql locked
    exact built_locks locked
  · intro tables items sql walked locked
    exact walked_tables_locked walked locked

/-- A name with a quote and a semicolon, neither of which reaches the SQL. -/
theorem hostile_name_is_filtered :
    Unfolding (.str "a`; x'") ∧ (sanitize "a`; x'").toList = ['a', '`', 'x'] ∧
      Lock.build (.str "a`; x'") = .ok "LOCK TABLES a`x WRITE" ∧
      LocksTables [.str "a`; x'"] "LOCK TABLES a`x WRITE" := by
  have unfolding : Unfolding (.str "a`; x'") := by
    have each : "a`; x'".toList.all (fun c => decide (c ∉ foldingLetters)) = true := by decide
    exact fun c member => of_decide_eq_true (List.all_eq_true.mp each c member)
  have locked : Lock.build (.str "a`; x'") = .ok "LOCK TABLES a`x WRITE" := by rfl
  obtain ⟨filters, -, -, locks, -⟩ := written_names_are_permitted (.str "a`; x'")
  obtain ⟨items, tablesOf, locks⟩ := locks _ _ locked
  refine ⟨unfolding, filters.mpr unfolding, locked, ?_⟩
  cases tablesOf with
  | one => exact locks
  | each several => exact absurd rfl (several _)

/-- The long s passes for an s and reaches the SQL, though it is no letter of ASCII. -/
theorem long_s_is_written :
    sanitize (Value.str "\u017f").text = "\u017f" ∧
      (Value.str "\u017f").text.toList.filter (IsPermitted ·) = [] ∧
      Lock.build (.str "\u017f") = .ok "LOCK TABLES \u017f WRITE" ∧ ¬ IsPermitted '\u017f' := by
  exact ⟨by rfl, by decide, by rfl, by decide⟩

end SqlTemplate.WrittenNames
