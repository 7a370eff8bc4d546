import SqlTemplate.Proofs.InsertionLayout
import SqlTemplate.Proofs.OnePassLexing

/-! Insertions as they are rendered for percent signs. The names in an insertion may have backticks
of their own, and these may open literals that end anywhere among the names. All names stand before
the first placeholder, though, so no literal can reach a placeholder. -/
namespace SqlTemplate.InsertionRendering
open Text PercentMarkers SqlTemplate.Insert InsertionLayout
open OnePassLexing (isQuote literal_unopened)
open PlaceholderAlignment (marks)
open Template (columnName placeholder placeholders)

/-- What a character is rendered as where no literal and no percent sign is in the way. -/
def converted (c : Char) : List Char := if c = '?' then ['%', 's'] else [c]

/-- How often a text occurs in another. -/
def occurrences (part text : List Char) : Nat := text.tails.countP (part.isPrefixOf ·)

/-! ## Literals -/

theorem quoted_end (found : quotedLength? quote text = some length) :
    ∃ before after, text = before ++ quote :: after ∧ length = before.length + 1 := by
  fun_induction quotedLength? quote text generalizing length with
  | case1 => cases found
  | case2 =>
    cases found
    exact ⟨[], [], rfl, rfl⟩
  | case3 => cases found
  | case4 next rest ih =>
    obtain ⟨inner, opens, rfl⟩ := Option.map_eq_some_iff.mp found
    obtain ⟨before, after, rfl, rfl⟩ := ih opens
    exact ⟨backslash :: next :: before, after, rfl, rfl⟩
  | case5 rest inner opens _ ih =>
    cases found
    obtain ⟨before, after, rfl, rfl⟩ := ih opens
    exact ⟨quote :: quote :: before, after, rfl, rfl⟩
  | case6 rest =>
    cases found
    exact ⟨[], quote :: rest, rfl, rfl⟩
  | case7 next rest =>
    cases found
    exact ⟨[], next :: rest, rfl, rfl⟩
  | case8 c next rest _ _ ih =>
    obtain ⟨inner, opens, rfl⟩ := Option.map_eq_some_iff.mp found
    obtain ⟨before, after, same, rfl⟩ := ih opens
    exact ⟨c :: before, after, congrArg (c :: ·) same, rfl⟩

theorem backtick_end (found : backtickLength? text = some length) :
    ∃ before after, text = before ++ backtick :: after ∧ length = before.length + 1 := by
  induction text generalizing length with
  | nil => cases found
  | cons c rest ih =>
    by_cases last : c = backtick
    · subst last
      rw [backtickLength?, if_pos rfl] at found
      cases found
      exact ⟨[], rest, rfl, rfl⟩
    · rw [backtickLength?, if_neg last] at found
      obtain ⟨inner, opens, rfl⟩ := Option.map_eq_some_iff.mp found
      obtain ⟨before, after, rfl, rfl⟩ := ih opens
      exact ⟨c :: before, after, rfl, rfl⟩

/-- A literal ends with the quote that opened it. -/
theorem literal_end (opens : literalLength? c rest = some length) :
    ∃ before after, rest = before ++ c :: after ∧ length = before.length + 1 := by
  unfold literalLength? at opens
  split at opens
  · exact quoted_end opens
  · split at opens
    · rename_i spelt
      subst spelt
      exact backtick_end opens
    · cases opens

/-- A literal that is opened before a text without quotes is closed before it. -/
theorem literal_within (opens : literalLength? c (front ++ back) = some length)
    (unquoted : ∀ d ∈ back, isQuote d = false) : length ≤ front.length := by
  obtain ⟨before, after, whole, rfl⟩ := literal_end opens
  by_contra behind
  have quote : isQuote c = true := by
    by_contra plain
    rw [literal_unopened (by simpa using plain)] at opens
    cases opens
  have there : c ∈ back := by
    have place : (front ++ back)[before.length]? = some c := by simp [whole]
    rw [List.getElem?_append_right (by omega)] at place
    exact List.mem_of_getElem? place
  rw [unquoted c there] at quote
  cases quote

/-! ## Rendering without markers -/

theorem render_unopened (closed : literalLength? c rest = none) (percent : c ≠ '%') :
    renderFrom [] 0 0 (c :: rest) = converted c ++ renderFrom [] 0 0 rest := by
  simp only [renderFrom, closed]
  by_cases mark : c = '?'
  · simp [converted, mark]
  · simp [converted, escape, mark, percent]

theorem render_unquoted (unquoted : ∀ c ∈ text, isQuote c = false) (plain : '%' ∉ text) :
    renderFrom [] 0 0 text = text.flatMap converted := by
  induction text with
  | nil => rfl
  | cons c rest ih =>
    obtain ⟨here, later⟩ := List.forall_mem_cons.mp unquoted
    obtain ⟨percent, others⟩ := List.ne_and_not_mem_of_not_mem_cons plain
    rw [render_unopened (literal_unopened here rest) (Ne.symm percent), ih later others,
      List.flatMap_cons]

/-- If no quote comes after a placeholder, every placeholder is rendered and nothing else changes.
The number of characters that are still inside a literal never exceeds those before the last
quote. -/
theorem render_behind_quotes (unmarked : '?' ∉ front) (unquoted : ∀ c ∈ back, isQuote c = false)
    (plain : '%' ∉ front ++ back) (short : inside ≤ front.length) :
    renderFrom [] inside 0 (front ++ back) = (front ++ back).flatMap converted := by
  induction front generalizing inside with
  | nil =>
    obtain rfl : inside = 0 := Nat.le_zero.mp short
    exact render_unquoted unquoted plain
  | cons c front ih =>
    obtain ⟨noMark, unmarked⟩ := List.ne_and_not_mem_of_not_mem_cons unmarked
    obtain ⟨percent, plain⟩ := List.ne_and_not_mem_of_not_mem_cons plain
    have copied : converted c = [c] := if_neg (Ne.symm noMark)
    have single : escape c = [c] := if_neg (Ne.symm percent)
    rw [List.cons_append, List.flatMap_cons, copied]
    cases inside with
    | succ inside =>
      have short : inside ≤ front.length := by simpa using short
      rw [renderFrom, single, ih unmarked plain short]
    | zero =>
      cases opens : literalLength? c (front ++ back) with
      | some length =>
        simp only [renderFrom, opens]
        rw [ih unmarked plain (literal_within opens unquoted)]
        rfl
      | none =>
        rw [render_unopened opens (Ne.symm percent), copied, ih unmarked plain (Nat.zero_le _)]

/-- Every conversion comes from a placeholder. -/
theorem occurrences_converted {text : List Char} (plain : '%' ∉ text) :
    occurrences ['%', 's'] (text.flatMap converted) = text.count '?' := by
  induction text with
  | nil => rfl
  | cons c rest ih =>
    obtain ⟨percent, others⟩ := List.ne_and_not_mem_of_not_mem_cons plain
    have later := ih others
    unfold occurrences at later ⊢
    by_cases mark : c = '?'
    · subst mark
      simp [converted, later, List.tails]
    · simp [converted, mark, later, percent]

/-! ## The text of an insertion -/

/-- An insertion up to its last name. -/
def namesText (verb : String) (table : Value) (keys : List Value) : String :=
  verb ++ " INTO `" ++ tableName table ++ "` (" ++ columnList keys

/-- An insertion behind its last name: the groups of placeholders. -/
def groupsText (values : List (List Value)) : String :=
  ") VALUES " ++ ",".intercalate (values.map fun row => group row.length)

theorem insert_sql_eq (verb : String) (table : Value) (keys : List Value)
    (values : List (List Value)) :
    insertSql verb table keys values = namesText verb table keys ++ groupsText values := by
  simp only [insertSql, namesText, groupsText, columnList, group, String.append_assoc]

/-- What holds of the characters of a fixed text can be computed. -/
theorem fixed_chars {holds : Char → Prop} [DecidablePred holds] {text : String}
    (checked : text.toList.all (holds ·) = true) : ∀ c ∈ text.toList, holds c := by
  simpa using checked

theorem intercalated_chars {holds : Char → Prop} (between : ∀ c ∈ separator.toList, holds c)
    (each : ∀ text ∈ texts, ∀ c ∈ text.toList, holds c) :
    ∀ c ∈ (String.intercalate separator texts).toList, holds c := by
  induction texts with
  | nil => simp
  | cons text texts ih =>
    obtain ⟨here, later⟩ := List.forall_mem_cons.mp each
    cases texts with
    | nil => simpa using here
    | cons next texts =>
      intro c member
      rw [String.intercalate_cons_cons, String.toList_append, String.toList_append] at member
      rcases List.mem_append.mp member with front | member
      · rcases List.mem_append.mp front with inside | separating
        · exact here c inside
        · exact between c separating
      · exact ih later c member

theorem sanitized_chars (text : String) :
    ∀ c ∈ (sanitize text).toList, isIdentifierChar c = true := by
  intro c member
  rw [sanitize, String.toList_ofList] at member
  exact (List.mem_filter.mp member).2

theorem table_name_chars (table : Value) :
    ∀ c ∈ (tableName table).toList, isIdentifierChar c = true := by
  intro c member
  obtain ⟨before, after, whole⟩ := (table_name_unquoted table).stripped
  apply sanitized_chars table.text
  rw [whole]
  simp [member]

/-- No name has a character that rendering would change. -/
theorem name_char_kept (named : isIdentifierChar c = true) : c ≠ '?' ∧ c ≠ '%' := by
  constructor
  · rintro rfl
    exact absurd named (by decide)
  · rintro rfl
    exact absurd named (by decide)

theorem names_text_chars (verb : String) (table : Value) (keys : List Value)
    (unmarked : '?' ∉ verb.toList) (plain : '%' ∉ verb.toList) :
    ∀ c ∈ (namesText verb table keys).toList, c ≠ '?' ∧ c ≠ '%' := by
  have verbChars : ∀ c ∈ verb.toList, c ≠ '?' ∧ c ≠ '%' := fun c member =>
    ⟨fun same => unmarked (same ▸ member), fun same => plain (same ▸ member)⟩
  have tableChars : ∀ c ∈ (tableName table).toList, c ≠ '?' ∧ c ≠ '%' := fun c member =>
    name_char_kept (table_name_chars table c member)
  have columnChars : ∀ c ∈ (columnList keys).toList, c ≠ '?' ∧ c ≠ '%' := by
    refine intercalated_chars (fixed_chars (by decide)) fun name member => ?_
    obtain ⟨key, -, rfl⟩ := List.mem_map.mp member
    exact fun c inside => name_char_kept (sanitized_chars key.text c inside)
  have into : ∀ c ∈ " INTO `".toList, c ≠ '?' ∧ c ≠ '%' := fixed_chars (by decide)
  have opening : ∀ c ∈ "` (".toList, c ≠ '?' ∧ c ≠ '%' := fixed_chars (by decide)
  simp only [namesText, String.toList_append, List.forall_mem_append]
  exact ⟨⟨⟨⟨verbChars, into⟩, tableChars⟩, opening⟩, columnChars⟩

theorem groups_text_chars (values : List (List Value)) :
    ∀ c ∈ (groupsText values).toList, isQuote c = false ∧ c ≠ '%' := by
  have groups : ∀ text ∈ values.map (fun row => group row.length), ∀ c ∈ text.toList,
      isQuote c = false ∧ c ≠ '%' := by
    intro text member
    obtain ⟨row, -, rfl⟩ := List.mem_map.mp member
    have marks : ∀ c ∈ (placeholders row.length).toList, isQuote c = false ∧ c ≠ '%' := by
      refine intercalated_chars (fixed_chars (by decide)) fun mark member => ?_
      rw [List.eq_of_mem_replicate member]
      exact fixed_chars (by decide)
    simp only [group, String.toList_append, List.forall_mem_append]
    exact ⟨⟨fixed_chars (by decide), marks⟩, fixed_chars (by decide)⟩
  simp only [groupsText, String.toList_append, List.forall_mem_append]
  exact ⟨fixed_chars (by decide), intercalated_chars (fixed_chars (by decide)) groups⟩

/-- An insertion has a question mark for each of its values. -/
theorem marks_of_insertion (bare : marks verb = 0) (table : Value) (keys : List Value)
    (values : List (List Value)) :
    marks (insertSql verb table keys values) = values.flatten.length := by
  have into : marks " INTO `" = 0 := by decide
  have opening : marks "` (" = 0 := by decide
  have closing : marks ") VALUES " = 0 := by decide
  have groups : marks (",".intercalate (values.map fun row => group row.length)) =
      values.flatten.length := by
    rw [marks_separated (by decide), List.map_map, List.length_flatten]
    simp [Function.comp_def, marks_group]
  simp only [insert_sql_eq, namesText, groupsText, marks_append, bare, into, opening, closing,
    groups, table_name_bare, column_list_bare, Nat.zero_add]

/-- Every insertion survives rendering for percent signs, whatever backticks its names have. Each
placeholder becomes a conversion and nothing else changes, so there are as many conversions as there
are entries. Of the verb it is only asked that it has no placeholder and no percent sign of its
own; quotes, backticks and colons in it do no harm. -/
theorem insertions_survive_rendering (verb : String) (unmarked : '?' ∉ verb.toList)
    (plain : '%' ∉ verb.toList) (table rows : Value) (columns : Option Value) (sql : String)
    (queue : Queue) (built : Insert.build verb table rows columns = .ok (sql, queue)) :
    (render sql []).toList = sql.toList.flatMap converted ∧
      occurrences ['%', 's'] (render sql []).toList = queue.length := by
  obtain ⟨rowList, keys, values, -, -, -, -, rfl, rfl⟩ := steps_of_ok built
  have names := names_text_chars verb table keys unmarked plain
  have groups := groups_text_chars values
  have whole : (insertSql verb table keys values).toList =
      (namesText verb table keys).toList ++ (groupsText values).toList := by
    rw [insert_sql_eq, String.toList_append]
  have noPercent : '%' ∉ (insertSql verb table keys values).toList := by
    rw [whole, List.mem_append]
    rintro (front | back)
    · exact (names _ front).2 rfl
    · exact (groups _ back).2 rfl
  have rendered : (render (insertSql verb table keys values) []).toList =
      (insertSql verb table keys values).toList.flatMap converted := by
    rw [render, String.toList_ofList, List.map_nil, whole]
    exact render_behind_quotes (fun member => (names _ member).1 rfl)
      (fun c member => (groups c member).1) (whole ▸ noPercent) (Nat.zero_le _)
  refine ⟨rendered, ?_⟩
  have bare : marks verb = 0 := List.count_eq_zero.mpr unmarked
  have counted := marks_of_insertion bare table keys values
  rw [rendered, occurrences_converted noPercent, List.length_map]
  exact counted

/-- The backtick behind the name of the table opens a literal that ends in the first column, and
that of the second column opens none, having no other behind it. -/
theorem unbalanced_names_survive_rendering :
    Insert.build "INSERT" (.str "a`b") (.list [.int 1, .int 2])
        (some (.list [.str "x`", .str "y`z"])) =
      .ok ("INSERT INTO `a`b` (x`,y`z) VALUES (?,?)",
        [.inferred (.int 1) .null, .inferred (.int 2) .null]) ∧
      render "INSERT INTO `a`b` (x`,y`z) VALUES (?,?)" [] =
        "INSERT INTO `a`b` (x`,y`z) VALUES (%s,%s)" := by
  have built : Insert.build "INSERT" (.str "a`b") (.list [.int 1, .int 2])
      (some (.list [.str "x`", .str "y`z"])) =
    .ok ("INSERT INTO `a`b` (x`,y`z) VALUES (?,?)",
      [.inferred (.int 1) .null, .inferred (.int 2) .null]) := by rfl
  obtain ⟨rendered, -⟩ := insertions_survive_rendering "INSERT" (by decide) (by decide) _ _ _ _ _
    built
  exact ⟨built, String.toList_inj.mp (rendered.trans (by rfl))⟩

end SqlTemplate.InsertionRendering
