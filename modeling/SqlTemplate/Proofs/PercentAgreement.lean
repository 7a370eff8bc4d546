import SqlTemplate.Proofs.PercentFormat
import SqlTemplate.Proofs.PlaceholderAlignment
import SqlTemplate.Proofs.QueueBinding

/-! Conversions and parameters of what is sent to MySQL. A template is cut at every question mark,
but a renderer leaves those inside literals alone; an entry whose placeholder got into a literal is
sent without a conversion to take it. -/
namespace SqlTemplate.PercentAgreement
open Template Compilation CompilerHistory PlaceholderAlignment QueueBinding PercentFormat

/-- Without question marks in raw texts, the entries are counted by the question marks. -/
theorem entries_counted (made : Filled (segments template) arguments piece)
    (bare : ∀ text ∈ inlinedBy (tokens (segments template)) arguments, marks text = 0) :
    marks piece.sql = piece.entries.length := by
  obtain ⟨-, -, -, -, count⟩ := filled_layout made
  have none : ((inlinedBy (tokens (segments template)) arguments).map marks).sum = 0 := by
    apply List.sum_eq_zero_iff_forall_eq_nat.mpr
    intro n member
    obtain ⟨text, inlined, rfl⟩ := List.mem_map.mp member
    exact bare text inlined
  rw [count, none, Nat.add_zero]

/-- A template that compiles to something to bind is rendered for MySQL with one conversion for
each parameter, less the placeholders that stand inside literals: both counts agree exactly when
no placeholder of the compiled SQL does. -/
theorem conversions_match_unless_quoted (parser : Operation.Parser) (config : StatementConfig)
    (history : List Step)
    (template : String) (arguments : List Value) (statement : Compiled)
    (compiled : ((compilerAfter parser config history).compile template arguments).1 =
      .ok statement)
    (cut : statement.mode = .template) (given : statement.queue ≠ [])
    (bare : ∀ text ∈ inlinedBy (tokens (segments template)) arguments, marks text = 0)
    (coercions : Option Coercions)
    (coercible : ∀ entry ∈ statement.queue,
      ∃ value, coerce entry.value entry.type coercions = .ok value) :
    ∃ values bound sql items,
      (Prepared.new Adapter.mysql.statementName Adapter.mysql.markerStyle statement.sql
        coercions).bindQueue 1 statement.queue = (.ok bound, []) ∧
      bound.render = .ok (sql, some (.tuple values)) ∧ readFormat sql = some items ∧
      items.count .positional + quotedMarks statement.sql = values.length ∧
      (items.count .positional = values.length ↔ quotedMarks statement.sql = 0) := by
  rw [compile_after_history] at compiled
  cases compiles_of_ok compiled with
  | static => cases cut
  | named => cases cut
  | filled _ _ made =>
    rename_i piece _ _
    obtain ⟨values, coerced⟩ := coerced_of_each coercible
    obtain ⟨bound, binds, renders, style, same⟩ := bind_new_places Adapter.mysql.statementName
      piece.sql Adapter.mysql.markerStyle (fill_unmarked made) coerced
    obtain ⟨items, read, counted⟩ := read_rendered piece.sql
    have some : values.isEmpty = false := by
      apply List.isEmpty_eq_false_iff.mpr
      rintro rfl
      exact given (List.length_eq_zero_iff.mp coerced.length_eq)
    have rendered : bound.renderPositional = PercentMarkers.render piece.sql [] := by
      simp only [Prepared.renderPositional, style, same, Adapter.markerStyle]
    have count : piece.sql.toList.count '?' = values.length :=
      (entries_counted made bare).trans coerced.length_eq
    rw [some, rendered] at renders
    have less : items.count .positional + quotedMarks piece.sql = values.length :=
      counted.trans count
    have exactly : items.count .positional = values.length ↔ quotedMarks piece.sql = 0 := by
      omega
    exact ⟨values, bound, _, items, binds, renders, read, less, exactly⟩

/-- A percent sign in a literal is doubled and no conversion; the placeholder next to it is one. -/
theorem conversions_match_beside_literal :
    ∃ values bound sql items,
      (Prepared.new Adapter.mysql.statementName Adapter.mysql.markerStyle "SELECT '%s', ?"
        none).bindQueue 1 [.unnamed (.int 7) .string] = (.ok bound, []) ∧
      bound.render = .ok (sql, some (.tuple values)) ∧ readFormat sql = some items ∧
      items.count .positional = values.length := by
  have compiled : ((compilerAfter Operation.byLeadingKeyword .standard []).compile "SELECT '%s', ?s"
      [.int 7]).1 = .ok
      { sql := "SELECT '%s', ?", queue := [.unnamed (.int 7) .string]
        mode := .template, operation := .select, template := "SELECT '%s', ?s" } := by rfl
  have bare : inlinedBy (tokens (segments "SELECT '%s', ?s")) [.int 7] = [] := by rfl
  have coercible : ∀ entry ∈ [BindEntry.unnamed (.int 7) .string],
      ∃ value, coerce entry.value entry.type none = .ok value :=
    List.forall_mem_singleton.mpr ⟨.str "7", by rfl⟩
  obtain ⟨values, bound, sql, items, binds, renders, read, -, exactly⟩ :=
    conversions_match_unless_quoted Operation.byLeadingKeyword .standard [] "SELECT '%s', ?s"
      [.int 7]
      _ compiled rfl (List.cons_ne_nil _ _) (by simp [bare]) none coercible
  exact ⟨values, bound, sql, items, binds, renders, read, exactly.mpr (by rfl)⟩

/-- A question mark inside quotes takes an argument but no parameter: its value is sent along with
SQL that has no conversion at all. -/
theorem quoted_placeholder_has_no_conversion :
    ((compilerAfter Operation.byLeadingKeyword .standard []).compile "SELECT '?'"
      [.str "x"]).1 = .ok
        { sql := "SELECT '?'", queue := [.inferred (.str "x") .null]
          mode := .template, operation := .select, template := "SELECT '?'" } ∧
      inlinedBy (tokens (segments "SELECT '?'")) [.str "x"] = [] ∧
      ∃ bound items,
        (Prepared.new Adapter.mysql.statementName Adapter.mysql.markerStyle "SELECT '?'"
          none).bindQueue 1 [.inferred (.str "x") .null] = (.ok bound, []) ∧
        bound.render = .ok ("SELECT '?'", some (.tuple [.str "x"])) ∧
        readFormat "SELECT '?'" = some items ∧ items.count .positional = 0 := by
  refine ⟨by rfl, by rfl, _, _, by rfl, by rfl, by rfl, by rfl⟩

end SqlTemplate.PercentAgreement
