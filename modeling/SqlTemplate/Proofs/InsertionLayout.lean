import SqlTemplate.Proofs.PlaceholderAlignment
import SqlTemplate.Statement.Insert

/-! How an insertion is laid out. Its placeholders form a table with a row for each row that is
inserted and a column for each column name, and the entries fill that table row by row. Which value
goes where is decided by the column alone, never by the order in which a row lists its own keys. -/
namespace SqlTemplate.InsertionLayout
open SqlTemplate.Insert PlaceholderAlignment
open Outcomes (bind_ok_iff guarded_ok_iff)
open Template (columnName placeholder placeholders)

/-- The rows that a value stands for. A mapping is one row; a sequence is one row too, unless it
starts with something that could be a row itself. -/
inductive RowsOf : Value → List Value → Prop
  | mapping : RowsOf (.mapping entries) [.mapping entries]
  | listed (items : rows.sequence? = some (first :: rest))
      (nested : first.isMapping = true ∨ first.isSequence = true) : RowsOf rows (first :: rest)
  | single (items : rows.sequence? = some (first :: rest))
      (plain : first.isMapping = false ∧ first.isSequence = false) :
      RowsOf rows [.list (first :: rest)]

/-- The keys of the columns: those that are given, or else those of the first row. -/
inductive KeysOf : Option Value → List Value → List Value → Prop
  | given (walked : columns.iterate? = some keys) : KeysOf (some columns) rowList keys
  | first : KeysOf none (.mapping entries :: rest) (entries.map Prod.fst)

/-- What a row holds for the column at a place. The keys of a mapping differ from each other, so at
most one of them equals that of the column, wherever it stands. -/
inductive Holds (keys : List Value) (place : Nat) : Value → Value → Prop
  /-- A mapping holds its value at the key of the column. -/
  | keyed (here : keys[place]? = some column) (same : key.equals column = true)
      (others : ∀ entry ∈ before, Value.equals entry.1 column = false) :
      Holds keys place (.mapping (before ++ (key, value) :: after)) value
  /-- A mapping that gives the columns itself holds its own value there, even at a key that does
  not equal itself. -/
  | own (columns : keys = entries.map Prod.fst) (here : entries[place]? = some (key, value)) :
      Holds keys place (.mapping entries) value
  /-- A sequence holds its element at the place of the column. -/
  | element (items : row.sequence? = some values) (here : values[place]? = some value) :
      Holds keys place row value

/-- The values of a row are what it holds for each of the columns. -/
def Covers (keys : List Value) (row : Value) (values : List Value) : Prop :=
  values.length = keys.length ∧
    ∀ place value, values[place]? = some value → Holds keys place row value

/-! ## Rows and columns -/

theorem mapping_of_entries {value : Value} (mapped : value.entries? = some entries) :
    value = .mapping entries := by
  cases value with
  | mapping own => exact congrArg Value.mapping (Option.some.inj mapped)
  | _ => cases mapped

theorem rows_of_ok (normal : normalizeRows rows = .ok rowList) : RowsOf rows rowList := by
  unfold normalizeRows at normal
  split at normal
  · rename_i mapped
    cases rows with
    | mapping entries =>
      cases normal
      exact .mapping
    | _ => cases mapped
  · split at normal
    · cases normal
    · split at normal
      · cases normal
      · cases normal
      · rename_i first rest items
        split at normal
        · rename_i nested
          cases normal
          exact .listed items (Bool.or_eq_true_iff.mp nested)
        · rename_i plain
          cases normal
          exact .single items (by simpa using plain)

/-- There is at least one row. -/
theorem rows_given (rowsOf : RowsOf rows rowList) : ∃ first rest, rowList = first :: rest := by
  cases rowsOf <;> exact ⟨_, _, rfl⟩

theorem given_keys_of_ok (found : givenKeys first columns = .ok keys) :
    KeysOf columns (first :: rest) keys := by
  unfold givenKeys at found
  split at found
  · rename_i columns
    split at found
    · cases walked : columns.iterate? with
      | none =>
        rw [walked] at found
        cases found
      | some items =>
        rw [walked] at found
        cases found
        exact .given walked
    · cases found
  · rename_i mapped
    cases mapping_of_entries mapped
    cases found
    exact .first
  · cases found

theorem keys_of_ok (chosen : columnKeys first columns = .ok keys) :
    KeysOf columns (first :: rest) keys ∧ keys ≠ [] := by
  unfold columnKeys at chosen
  split at chosen
  · cases chosen
  · rename_i nonempty given
    obtain ⟨-, rfl⟩ := guarded_ok_iff.mp chosen
    refine ⟨given_keys_of_ok given, ?_⟩
    rintro rfl
    exact nonempty rfl
  · cases chosen

/-! ## Values of a row -/

/-- A column whose key is among those of a mapping is found there. -/
theorem lookup_found {entries : List (Value × Value)} {column : Value}
    (among : (entries.map Prod.fst).any (fun key => key.equals column) = true) :
    ∃ value, Value.lookup? entries column = some value := by
  obtain ⟨key, member, same⟩ := List.any_eq_true.mp among
  obtain ⟨entry, inside, rfl⟩ := List.mem_map.mp member
  have found : (entries.find? fun entry => entry.1.equals column).isSome = true :=
    List.find?_isSome.mpr ⟨entry, inside, same⟩
  obtain ⟨entry, found⟩ := Option.isSome_iff_exists.mp found
  exact ⟨entry.2, by rw [Value.lookup?, found, Option.map_some]⟩

theorem lookup_holds (here : keys[place]? = some column)
    (found : Value.lookup? entries column = some value) :
    Holds keys place (.mapping entries) value := by
  obtain ⟨entry, first, rfl⟩ := Option.map_eq_some_iff.mp found
  obtain ⟨same, before, after, rfl, others⟩ := List.find?_eq_some_iff_append.mp first
  exact .keyed here same fun entry member => by simpa using others entry member

theorem own_covers (entries : List (Value × Value)) :
    Covers (entries.map Prod.fst) (.mapping entries) (entries.map Prod.snd) := by
  refine ⟨by simp, fun place value held => ?_⟩
  rw [List.getElem?_map] at held
  obtain ⟨⟨key, value⟩, here, rfl⟩ := Option.map_eq_some_iff.mp held
  exact .own rfl here

theorem looked_up_covers {entries : List (Value × Value)} {keys : List Value}
    (among : ∀ key ∈ keys, ∃ value, Value.lookup? entries key = some value) :
    Covers keys (.mapping entries) (keys.filterMap (Value.lookup? entries)) := by
  have each : keys.map (Value.lookup? entries) =
      (keys.filterMap (Value.lookup? entries)).map some := by
    induction keys with
    | nil => rfl
    | cons key keys ih =>
      obtain ⟨value, found⟩ := among key List.mem_cons_self
      rw [List.map_cons, List.filterMap_cons_some found, List.map_cons, found,
        ih fun key member => among key (List.mem_cons_of_mem _ member)]
  refine ⟨by simpa using (congrArg List.length each).symm, fun place value held => ?_⟩
  have looked : (keys.map (Value.lookup? entries))[place]? = some (some value) := by
    rw [each, List.getElem?_map, held, Option.map_some]
  rw [List.getElem?_map] at looked
  obtain ⟨key, here, found⟩ := Option.map_eq_some_iff.mp looked
  exact lookup_holds here found

theorem row_covers (matched : rowValues index row keys = .ok values) : Covers keys row values := by
  unfold rowValues at matched
  split at matched
  · rename_i mapped
    cases mapping_of_entries mapped
    dsimp only at matched
    split at matched
    · cases matched
    · split at matched
      · rename_i same
        cases matched
        refine looked_up_covers fun key member => lookup_found ?_
        exact List.all_eq_true.mp (Bool.and_eq_true_iff.mp same).2 key member
      · split at matched <;> cases matched
  · rename_i listed
    split at matched
    · cases matched
    · split at matched
      · rename_i count
        cases matched
        exact ⟨count, fun _ _ here => .element listed here⟩
      · cases matched
  · cases matched

theorem all_cover (matched : allValues keys index rowList = .ok table) :
    List.Forall₂ (Covers keys) rowList table := by
  induction rowList generalizing index table with
  | nil =>
    cases matched
    exact .nil
  | cons row rest ih =>
    simp only [allValues, bind, Except.bind] at matched
    split at matched
    · cases matched
    · rename_i values here
      split at matched
      · cases matched
      · rename_i more later
        cases matched
        exact .cons (row_covers here) (ih later)

theorem own_table_covers
    (matched : valuesOfOwnColumns (entries.map Prod.fst) (.mapping entries :: rest) = .ok table) :
    List.Forall₂ (Covers (entries.map Prod.fst)) (.mapping entries :: rest) table := by
  simp only [valuesOfOwnColumns, bind, Except.bind] at matched
  split at matched
  · cases matched
  · rename_i more later
    cases matched
    exact .cons (own_covers entries) (all_cover later)

/-- The values of all rows, whoever gives the columns. -/
theorem table_covers (keysOf : KeysOf columns rowList keys)
    (matched : (if columns.isSome then allValues keys 0 rowList
      else valuesOfOwnColumns keys rowList) = .ok table) :
    List.Forall₂ (Covers keys) rowList table := by
  cases keysOf with
  | given walked => exact all_cover matched
  | first => exact own_table_covers matched

/-! ## Text and places -/

/-- What is left of a text without the backticks at its ends. -/
structure Unquoted (text name : List Char) : Prop where
  stripped : ∃ before after, text =
    List.replicate before Text.backtick ++ name ++ List.replicate after Text.backtick
  front : name.head? ≠ some Text.backtick
  back : name.getLast? ≠ some Text.backtick

private theorem all_backticks (text : List Char)
    (each : ∀ c ∈ text, (c == Text.backtick) = true) :
    text = List.replicate text.length Text.backtick :=
  List.eq_replicate_iff.mpr ⟨rfl, fun c member => beq_iff_eq.mp (each c member)⟩

theorem table_name_unquoted (table : Value) :
    Unquoted (Text.sanitize table.text).toList (tableName table).toList := by
  rw [tableName, String.toList_ofList]
  generalize (Text.sanitize table.text).toList = text
  let quote : Char → Bool := (· == Text.backtick)
  change Unquoted text ((text.dropWhile quote).rdropWhile quote)
  refine ⟨⟨(text.takeWhile quote).length, ((text.dropWhile quote).rtakeWhile quote).length, ?_⟩,
    ?_, ?_⟩
  · have before := all_backticks (text.takeWhile quote) fun _ => List.mem_takeWhile_imp
    have after := all_backticks ((text.dropWhile quote).rtakeWhile quote)
      fun _ => List.mem_rtakeWhile_imp
    rw [← before, ← after, List.append_assoc, List.rdropWhile_append_rtakeWhile,
      List.takeWhile_append_dropWhile]
  · intro front
    obtain ⟨rest, kept⟩ := List.head?_eq_some_iff.mp front
    obtain ⟨dropped, whole⟩ := List.rdropWhile_prefix quote (text.dropWhile quote)
    rw [kept, List.cons_append] at whole
    have first := List.head_dropWhile_not quote (l := text) (by simp [← whole])
    simp [← whole, quote] at first
  · intro back
    obtain ⟨rest, kept⟩ := List.getLast?_eq_some_iff.mp back
    have last := List.rdropWhile_last_not quote (text.dropWhile quote) (by simp [kept])
    simp [kept, quote] at last

/-- A place in a table whose rows all have the same length, counted row by row. -/
theorem flatten_at {table : List (List α)} (uniform : ∀ row ∈ table, row.length = width)
    (i j : Nat) (inside : j < width) :
    table.flatten[i * width + j]? = table[i]?.bind fun row => row[j]? := by
  induction table generalizing i with
  | nil => simp
  | cons row table ih =>
    have length : row.length = width := uniform row List.mem_cons_self
    rw [List.flatten_cons]
    cases i with
    | zero =>
      rw [List.getElem?_append_left (by omega)]
      simp
    | succ i =>
      have further : (i + 1) * width + j - row.length = i * width + j := by
        rw [Nat.succ_mul, length]
        omega
      rw [List.getElem?_append_right (by rw [Nat.succ_mul]; omega), further,
        ih (fun row member => uniform row (List.mem_cons_of_mem _ member)), List.getElem?_cons_succ]

theorem flatten_length {table : List (List α)} (uniform : ∀ row ∈ table, row.length = width) :
    table.flatten.length = table.length * width := by
  rw [List.length_flatten, List.map_congr_left uniform, List.map_const', List.sum_replicate]
  simp

theorem marks_append (a b : String) : marks (a ++ b) = marks a + marks b := by simp [marks]

theorem marks_separated (bare : marks separator = 0) (texts : List String) :
    marks (separator.intercalate texts) = (texts.map marks).sum := by
  induction texts with
  | nil => simp [marks]
  | cons text texts ih =>
    cases texts with
    | nil => simp
    | cons next texts =>
      rw [String.intercalate_cons_cons, marks_append, marks_append, bare, ih, Nat.add_zero]
      rfl

theorem marks_placeholders (count : Nat) : marks (placeholders count) = count := by
  have one : marks placeholder = 1 := by decide
  rw [placeholders, marks_separated (by decide), List.map_replicate, one, List.sum_replicate]
  simp

/-! ## The layout of an insertion -/

/-- The list of column names in the text of an insertion. -/
def columnList (keys : List Value) : String := ",".intercalate (keys.map columnName)

/-- One group of placeholders. -/
def group (width : Nat) : String := "(" ++ placeholders width ++ ")"

/-- The text and the entries of an insertion of some rows into columns with some keys. -/
structure LaidOut (verb : String) (table : Value) (rowList keys : List Value) (sql : String)
    (queue : Queue) : Prop where
  /-- The name of the table stands in backticks of its own, and every row has the same group. -/
  text : ∃ name, Unquoted (Text.sanitize table.text).toList name.toList ∧
    sql = verb ++ " INTO `" ++ name ++ "` (" ++ columnList keys ++ ") VALUES " ++
      ",".intercalate (List.replicate rowList.length (group keys.length))
  /-- No column name can be taken for two. -/
  names : ((columnList keys).split ',').toList.map (·.copy) = keys.map columnName
  placeholders : marks sql = rowList.length * keys.length
  entries : queue.length = rowList.length * keys.length
  held : ∀ (i : Nat) row, rowList[i]? = some row → ∀ j < keys.length, ∃ value,
    queue[i * keys.length + j]? = some (.inferred value .null) ∧ Holds keys j row value

theorem column_names_split (nonempty : keys ≠ []) :
    ((columnList keys).split ',').toList.map (·.copy) = keys.map columnName := by
  have whole : ∀ name ∈ keys.map columnName, ',' ∉ name.toList := by
    intro name member
    obtain ⟨key, -, rfl⟩ := List.mem_map.mp member
    rw [columnName, Text.sanitize, String.toList_ofList]
    intro comma
    exact absurd (List.mem_filter.mp comma).2 (by decide)
  have split := String.toList_split_intercalate whole
  rw [if_neg (by simpa using nonempty)] at split
  exact split

theorem marks_group (width : Nat) : marks (group width) = width := by
  have opening : marks "(" = 0 := by decide
  have closing : marks ")" = 0 := by decide
  rw [group, marks_append, marks_append, marks_placeholders, opening, closing]
  omega

theorem table_name_bare (table : Value) : marks (tableName table) = 0 := by
  obtain ⟨before, after, whole⟩ := (table_name_unquoted table).stripped
  have clean : (Text.sanitize table.text).toList.count '?' = 0 := by
    rw [List.count_eq_zero, Text.sanitize, String.toList_ofList]
    intro member
    exact absurd (List.mem_filter.mp member).2 (by decide)
  rw [whole, List.count_append, List.count_append] at clean
  rw [marks]
  omega

theorem column_list_bare (keys : List Value) : marks (columnList keys) = 0 := by
  rw [columnList, marks_separated (by decide), List.sum_eq_zero_iff_forall_eq_nat]
  intro count member
  obtain ⟨name, inside, rfl⟩ := List.mem_map.mp member
  obtain ⟨key, -, rfl⟩ := List.mem_map.mp inside
  exact column_name_bare key

/-- When all rows have the same length, their groups are the same. -/
theorem insert_text {table : List (List Value)} (uniform : ∀ row ∈ table, row.length = width) :
    table.map (fun values => "(" ++ placeholders values.length ++ ")") =
      List.replicate table.length (group width) := by
  rw [List.eq_replicate_iff]
  refine ⟨by simp, fun written member => ?_⟩
  obtain ⟨row, inside, rfl⟩ := List.mem_map.mp member
  rw [uniform row inside, group]

/-- Each row that is inserted brings the placeholders of one group. -/
theorem insertion_marks (bare : marks verb = 0) (table : Value) (keys : List Value) (count : Nat) :
    marks (verb ++ " INTO `" ++ tableName table ++ "` (" ++ columnList keys ++ ") VALUES " ++
      ",".intercalate (List.replicate count (group keys.length))) = count * keys.length := by
  have into : marks " INTO `" = 0 := by decide
  have opening : marks "` (" = 0 := by decide
  have values : marks ") VALUES " = 0 := by decide
  have groups : marks (",".intercalate (List.replicate count (group keys.length))) =
      count * keys.length := by
    rw [marks_separated (by decide), List.map_replicate, marks_group, List.sum_replicate]
    simp
  simp only [marks_append, bare, into, opening, values, groups, table_name_bare, column_list_bare,
    Nat.zero_add]

/-- The values of all rows, whether the columns are given or are those of the first row. -/
def tableOf (columns : Option Value) (keys rowList : List Value) :
    Except InsertFault (List (List Value)) :=
  if columns.isSome then allValues keys 0 rowList else valuesOfOwnColumns keys rowList

/-- The steps by which an insertion is built, each of which may refuse the rows. -/
theorem build_steps (verb : String) (table rows : Value) (columns : Option Value) :
    Insert.build verb table rows columns =
      (normalizeRows rows).bind fun rowList =>
        (columnKeys (rowList.headD .null) columns).bind fun keys =>
          (tableOf columns keys rowList).bind fun values =>
            if table.isWritable then
              .ok (insertSql verb table keys values,
                values.flatten.map (BindEntry.inferred · .null))
            else .error .unwritable := by
  simp only [Insert.build, tableOf, bind]
  cases normalizeRows rows with
  | error fault => rfl
  | ok rowList =>
    simp only [Except.bind]
    cases columnKeys (rowList.headD .null) columns with
    | error fault => rfl
    | ok keys =>
      cases columns with
      | none => cases valuesOfOwnColumns keys rowList <;> rfl
      | some columns => cases allValues keys 0 rowList <;> rfl

theorem steps_of_ok (built : Insert.build verb table rows columns = .ok (sql, queue)) :
    ∃ rowList keys values, normalizeRows rows = .ok rowList ∧
      columnKeys (rowList.headD .null) columns = .ok keys ∧
      tableOf columns keys rowList = .ok values ∧
      table.isWritable = true ∧ sql = insertSql verb table keys values ∧
      queue = values.flatten.map (BindEntry.inferred · .null) := by
  rw [build_steps] at built
  obtain ⟨rowList, normal, built⟩ := bind_ok_iff.mp built
  obtain ⟨keys, chosen, built⟩ := bind_ok_iff.mp built
  obtain ⟨values, matched, built⟩ := bind_ok_iff.mp built
  obtain ⟨written, made⟩ := guarded_ok_iff.mp built
  obtain ⟨rfl, rfl⟩ := Prod.mk.inj made
  exact ⟨rowList, keys, values, normal, chosen, matched, written, rfl, rfl⟩

theorem covered_uniform (covered : List.Forall₂ (Covers keys) rowList table) :
    ∀ values ∈ table, values.length = keys.length := by
  induction covered with
  | nil => exact fun _ member => absurd member List.not_mem_nil
  | cons own _ ih => exact List.forall_mem_cons.mpr ⟨own.1, ih⟩

theorem covered_at {i : Nat} (covered : List.Forall₂ (Covers keys) rowList table)
    (there : rowList[i]? = some row) :
    ∃ values, table[i]? = some values ∧ Covers keys row values := by
  induction covered generalizing i with
  | nil => cases there
  | cons own _ ih =>
    cases i with
    | zero =>
      cases there
      exact ⟨_, rfl, own⟩
    | succ i => exact ih there

/-- The entries are found again row by row, and each has the value that its row holds for its
column. -/
theorem entries_held {i j : Nat} (covered : List.Forall₂ (Covers keys) rowList table)
    (there : rowList[i]? = some row) (inside : j < keys.length) :
    ∃ value, (table.flatten.map (BindEntry.inferred · .null))[i * keys.length + j]? =
      some (.inferred value .null) ∧ Holds keys j row value := by
  obtain ⟨values, here, length, held⟩ := covered_at covered there
  have value : values[j]? = some values[j] := List.getElem?_eq_getElem (length ▸ inside)
  refine ⟨values[j], ?_, held j _ value⟩
  rw [List.getElem?_map, flatten_at (covered_uniform covered) i j inside, here, Option.bind_some,
    value, Option.map_some]

/-- An insertion that is built has a group of placeholders for each row, a column name for each
key, and an entry for each placeholder: what the row of the group holds for the column, with the
bind type of its value and without a marker. -/
theorem insertion_is_laid_out (verb : String) (bare : marks verb = 0) (table rows : Value)
    (columns : Option Value) (sql : String) (queue : Queue)
    (built : Insert.build verb table rows columns = .ok (sql, queue)) :
    ∃ rowList keys, RowsOf rows rowList ∧ KeysOf columns rowList keys ∧
      LaidOut verb table rowList keys sql queue := by
  obtain ⟨rowList, keys, values, normal, chosen, matched, -, rfl, rfl⟩ := steps_of_ok built
  have rowsOf := rows_of_ok normal
  obtain ⟨first, rest, rfl⟩ := rows_given rowsOf
  obtain ⟨keysOf, nonempty⟩ : KeysOf columns (first :: rest) keys ∧ keys ≠ [] := keys_of_ok chosen
  have covered := table_covers keysOf matched
  have count := covered.length_eq
  have uniform := covered_uniform covered
  refine ⟨_, keys, rowsOf, keysOf, ?_⟩
  have written : insertSql verb table keys values = verb ++ " INTO `" ++ tableName table ++ "` (" ++
      columnList keys ++ ") VALUES " ++
        ",".intercalate (List.replicate (first :: rest).length (group keys.length)) := by
    rw [count, ← insert_text uniform]
    rfl
  rw [written]
  exact
    { text := ⟨_, table_name_unquoted table, rfl⟩
      names := column_names_split nonempty
      placeholders := insertion_marks bare table keys _
      entries := by rw [List.length_map, flatten_length uniform, count]
      held := fun i row here j inside => entries_held covered here inside }

/-- A mapping gives the columns, a second one lists the same keys the other way round, and a third
row is a tuple. The comma and the space of a key do not reach its column name. -/
theorem mixed_rows_laid_out :
    LaidOut "INSERT IGNORE" (.str "`a;b")
      [.mapping [(.str "x", .int 1), (.str "y, z", .str "p")],
        .mapping [(.str "y, z", .bool true), (.str "x", .null)], .tuple [.int 5, .str "q"]]
      [.str "x", .str "y, z"] "INSERT IGNORE INTO `ab` (x,yz) VALUES (?,?),(?,?),(?,?)"
      [.inferred (.int 1) .null, .inferred (.str "p") .null, .inferred .null .null,
        .inferred (.bool true) .null, .inferred (.int 5) .null, .inferred (.str "q") .null] := by
  have built : Insert.build "INSERT IGNORE" (.str "`a;b")
      (.list [.mapping [(.str "x", .int 1), (.str "y, z", .str "p")],
        .mapping [(.str "y, z", .bool true), (.str "x", .null)], .tuple [.int 5, .str "q"]]) none =
      .ok ("INSERT IGNORE INTO `ab` (x,yz) VALUES (?,?),(?,?),(?,?)",
        [.inferred (.int 1) .null, .inferred (.str "p") .null, .inferred .null .null,
          .inferred (.bool true) .null, .inferred (.int 5) .null, .inferred (.str "q") .null]) := by
    rfl
  obtain ⟨rowList, keys, rowsOf, keysOf, laidOut⟩ :=
    insertion_is_laid_out "INSERT IGNORE" (by decide) _ _ _ _ _ built
  cases rowsOf with
  | listed items _ =>
    cases items
    cases keysOf
    exact laidOut
  | single items plain =>
    cases items
    cases plain.1

end SqlTemplate.InsertionLayout
