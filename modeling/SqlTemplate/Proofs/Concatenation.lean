import SqlTemplate.Proofs.SegmentOutlines

/-! Templates can be compiled piece by piece. Where the last token of one cannot be read on into the
other, both are cut in the text of the two as they are cut alone, so the text compiles to the SQL
and the entries of the one followed by those of the other. -/
namespace SqlTemplate.Concatenation
open Template Compilation CompilerHistory TemplateCutting ShapeIndependence UniqueCutting
open SegmentOutlines

/-- If a template ends with a token, the text behind it starts with nothing that would belong to
that token: with no digit and, if the token is a question mark alone, with no kind character. -/
def Apart (first second : String) : Prop :=
  ∀ before token, segments first = before ++ [.token token, .literal ""] →
    ∀ next ∈ second.toList.head?,
      next.isDigit = false ∧ (token.text = "?" → next ∉ kindChars)

/-- A cutting, given by its first literal and the rest, with another behind it. The literal that
ends the one and the literal that starts the other become one. -/
def joinCut (first : List Char) : List (Mark × List Char) → Cut → Cut
  | [], second => { second with first := first ++ second.first }
  | (mark, literal) :: rest, second =>
    let later := joinCut literal rest second
    { first := first, rest := (mark, later.first) :: later.rest }

/-! ## The cutting of two texts -/

theorem join_cut_text (first : List Char) (rest : List (Mark × List Char)) (second : Cut) :
    wholeText (joinCut first rest second) =
      wholeText { first := first, rest := rest } ++ wholeText second := by
  induction rest generalizing first with
  | nil => simp [joinCut, wholeText]
  | cons piece rest ih =>
    have later := ih piece.2
    simp only [wholeText] at later
    simp [joinCut, wholeText, later]

/-- Joined cuttings fit together if the last token of the one ends before the other. -/
theorem join_cut_fits (clean : '?' ∉ first) (fit : ∀ piece ∈ rest, Fits piece)
    (ends : ∀ mark, rest.getLast? = some (mark, []) → EndsBefore mark second.first)
    (bare : '?' ∉ second.first) (others : ∀ piece ∈ second.rest, Fits piece) :
    '?' ∉ (joinCut first rest second).first ∧
      ∀ piece ∈ (joinCut first rest second).rest, Fits piece := by
  induction rest generalizing first with
  | nil =>
    refine ⟨?_, others⟩
    intro member
    rcases List.mem_append.mp member with own | other
    · exact clean own
    · exact bare other
  | cons piece rest ih =>
    obtain ⟨mark, literal⟩ := piece
    obtain ⟨own, more⟩ := List.forall_mem_cons.mp fit
    have later := ih own.clean more fun last found =>
      ends last (by rw [List.getLast?_cons, found]; rfl)
    have stops : EndsBefore mark (joinCut literal rest second).first := by
      cases rest with
      | cons next rest => exact own.ends
      | nil =>
        cases literal with
        | nil => exact ends mark rfl
        | cons c literal => exact ⟨own.ends.digit, own.ends.letter⟩
    exact ⟨clean, List.forall_mem_cons.mpr ⟨⟨own.written, stops, later.1⟩, later.2⟩⟩

private theorem place_append (front back : List (Mark × List Char)) (position ordinal : Nat) :
    ∃ later number, place position ordinal (front ++ back) =
      place position ordinal front ++ place later number back := by
  induction front generalizing position ordinal with
  | nil => exact ⟨position, ordinal, rfl⟩
  | cons piece front ih =>
    obtain ⟨later, number, placed⟩ :=
      ih (position + piece.1.chars.length + piece.2.length) (ordinal + 1)
    exact ⟨later, number, by simp [place, placed]⟩

variable {first second : String}

/-- A token at the very end of a template is the last of its segments but an empty literal. -/
theorem last_segments (ending : (cut first.toList).rest.getLast? = some (mark, [])) :
    ∃ before token, segments first = before ++ [.token token, .literal ""] ∧
      token.text = String.ofList mark.chars := by
  obtain ⟨front, whole⟩ := List.getLast?_eq_some_iff.mp ending
  obtain ⟨later, number, placed⟩ :=
    place_append front [(mark, [])] (cut first.toList).first.length 0
  refine ⟨.literal (String.ofList (cut first.toList).first) ::
    place (cut first.toList).first.length 0 front,
    ⟨mark.kind, String.ofList mark.chars, later, number⟩, ?_, rfl⟩
  simp only [segments, whole, placed, place, List.cons_append]

/-- A text starts with its first literal, if that is not empty. -/
private theorem first_literal_front (starts : next ∈ (cut text).first.head?) :
    next ∈ text.head? := by
  have whole := cut_text text
  cases literal : (cut text).first with
  | nil => simp [literal] at starts
  | cons c rest =>
    rw [literal] at starts
    rw [wholeText, literal] at whole
    rw [← whole]
    exact starts

/-- Texts that are apart are so for the token that ends the first of them. -/
theorem apart_ends (apart : Apart first second)
    (ending : (cut first.toList).rest.getLast? = some (mark, [])) :
    EndsBefore mark (cut second.toList).first := by
  obtain ⟨before, token, last, text⟩ := last_segments ending
  constructor
  · intro next starts
    exact (apart before token last next (first_literal_front starts)).1
  · intro letter digits next starts
    have alone : token.text = "?" := by
      rw [text, Mark.chars, letter, digits]
      rfl
    exact (apart before token last next (first_literal_front starts)).2 alone

/-- Two texts that are apart are cut in one as they are cut alone. -/
theorem cut_concatenation (apart : Apart first second) :
    cut (first ++ second).toList =
      joinCut (cut first.toList).first (cut first.toList).rest (cut second.toList) := by
  have clean := cut_clean first.toList
  obtain ⟨bare, fit⟩ := join_cut_fits clean.1 (cut_fits first.toList)
    (fun _ ending => apart_ends apart ending) (cut_clean second.toList).1 (cut_fits second.toList)
  have found := cut_whole_text bare fit
  have whole := join_cut_text (cut first.toList).first (cut first.toList).rest (cut second.toList)
  rw [cut_text, cut_text, ← String.toList_append] at whole
  rwa [← whole]

/-! ## Segments -/

theorem join_cut_outline (first : List Char) (rest : List (Mark × List Char)) (second : Cut)
    (position ordinal place number later next : Nat) :
    SameOutline
      (.literal (String.ofList (joinCut first rest second).first) ::
        Template.place position ordinal (joinCut first rest second).rest)
      (.literal (String.ofList first) :: Template.place place number rest ++
        .literal (String.ofList second.first) :: Template.place later next second.rest) := by
  induction rest generalizing first position ordinal place number with
  | nil =>
    rw [joinCut, String.ofList_append]
    exact .split (place_outline _ _ _ _ _)
  | cons piece rest ih => exact .literal (.token rfl (ih _ _ _ _ _))

theorem segments_concatenation (apart : Apart first second) :
    SameOutline (segments (first ++ second)) (segments first ++ segments second) := by
  rw [segments, cut_concatenation apart]
  exact join_cut_outline _ _ _ _ _ _ _ _ _

/-- A text without question marks is one literal. -/
theorem segments_bare (bare : hasTokens second = false) : segments second = [.literal second] := by
  have clean : '?' ∉ second.toList := by simpa [hasTokens] using bare
  have whole := cut_behind clean []
  rw [List.append_nil] at whole
  rw [segments, whole]
  simp [cut, place]

/-! ## Compilation -/

/-- What is compiled with something that can be filled behind it. -/
theorem compile_behind (tokenized : hasTokens first = true) (apart : Apart first second)
    (given : arguments ≠ []) (compiled : compileAfresh parser config first arguments = .ok statement)
    (counted : more.length = (tokens (segments second)).length)
    (filled : fill (segments second) more = .ok piece) :
    compileAfresh parser config (first ++ second) (arguments ++ more) =
      .ok (Compiler.finish parser config (first ++ second) (statement.sql ++ piece.sql)
        (statement.queue ++ piece.entries) .template) := by
  obtain ⟨sized, count, own, made, rfl⟩ := (compile_tokens_iff given tokenized).mp compiled
  have both : hasTokens (first ++ second) = true := by
    have mark : '?' ∈ first.toList := by simpa [hasTokens] using tokenized
    simp [hasTokens, mark]
  have outline := segments_concatenation apart
  have tokenCount := outline_count outline
  rw [tokens_append, List.length_append] at tokenCount
  have joined := fill_append count made filled
  have alike := fill_outline "" outline (arguments ++ more)
  rw [joined] at alike
  apply (compile_tokens_iff (by simp [given]) both).mpr
  refine ⟨sized, by rw [List.length_append]; omega, own.append piece, ?_, rfl⟩
  generalize fill (segments (first ++ second)) (arguments ++ more) = outcome at alike
  cases alike with
  | succeeded same => rw [same]

/-- Templates that compile alone compile one behind the other, with the arguments of both, to the
SQL and the entries of both; a text without tokens is written as it is. Only a token at the end of
the first must not be continued by the second. -/
theorem compile_concatenates (parser : Operation.Parser) (config : StatementConfig)
    (history : List Step)
    (first second : String) (arguments : List Value) (statement : Compiled)
    (tokenized : hasTokens first = true) (apart : Apart first second) (given : arguments ≠ [])
    (compiled : ((compilerAfter parser config history).compile first arguments).1 = .ok statement) :
    (∀ (others : List Step) (more : List Value) (other : Compiled), hasTokens second = true →
        more ≠ [] → ((compilerAfter parser config others).compile second more).1 = .ok other →
        ∀ later, ∃ whole, ((compilerAfter parser config later).compile (first ++ second)
            (arguments ++ more)).1 = .ok whole ∧ whole.mode = .template ∧
          whole.sql = statement.sql ++ other.sql ∧ whole.queue = statement.queue ++ other.queue) ∧
      (hasTokens second = false →
        ∀ later, ∃ whole,
          ((compilerAfter parser config later).compile (first ++ second) arguments).1 =
            .ok whole ∧ whole.mode = .template ∧
          whole.sql = statement.sql ++ second ∧ whole.queue = statement.queue) := by
  rw [compile_after_history] at compiled
  constructor
  · intro others more other also some compiles later
    rw [compile_after_history] at compiles ⊢
    obtain ⟨-, counted, piece, filled, rfl⟩ := (compile_tokens_iff some also).mp compiles
    exact ⟨_, compile_behind tokenized apart given compiled counted filled, rfl, rfl, rfl⟩
  · intro bare later
    have single := segments_bare bare
    have filled : fill (segments second) [] = .ok ((Piece.text second).append (.text "")) := by
      rw [single]
      rfl
    have whole := compile_behind tokenized apart given compiled (by rw [single]; rfl) filled
    rw [List.append_nil] at whole
    rw [compile_after_history]
    exact ⟨_, whole, rfl, by simp [Compiler.finish, Piece.append, Piece.text],
      by simp [Compiler.finish, Piece.append, Piece.text]⟩

/-- A token that has its kind character may be followed by another such character at once. -/
theorem compile_concatenates_at_letter :
    hasTokens "SELECT ?i" = true ∧ Apart "SELECT ?i" "b, ?a" ∧
      ((compilerAfter Operation.byLeadingKeyword .standard []).compile "SELECT ?i" [.int 1]).1 = .ok
        { sql := "SELECT ?", queue := [.unnamed (.int 1) .integer], mode := .template
          operation := .select, template := "SELECT ?i" } ∧
      ((compilerAfter Operation.byLeadingKeyword .standard []).compile "b, ?a"
        [.list [.int 2, .null]]).1 = .ok
        { sql := "b, ?,?", queue := [.unnamed (.int 2) .integer, .unnamed .null .integer]
          mode := .template, operation := .execute, template := "b, ?a" } ∧
      ∃ whole, ((compilerAfter Operation.byLeadingKeyword .standard []).compile "SELECT ?ib, ?a"
          [.int 1, .list [.int 2, .null]]).1 = .ok whole ∧ whole.mode = .template ∧
        whole.sql = "SELECT ?b, ?,?" ∧ whole.queue =
          [.unnamed (.int 1) .integer, .unnamed (.int 2) .integer, .unnamed .null .integer] := by
  have cut : segments "SELECT ?i" =
    [.literal "SELECT ", .token ⟨some .integer, "?i", 7, 0⟩, .literal ""] := by rfl
  have apart : Apart "SELECT ?i" "b, ?a" := by
    intro before token split next starts
    have last : token = ⟨some .integer, "?i", 7, 0⟩ := by
      rw [cut] at split
      have ends := congrArg (fun pieces => pieces.reverse.drop 1 |>.head?) split
      simpa using ends.symm
    subst last
    cases starts
    exact ⟨by decide, by decide⟩
  have first : ((compilerAfter Operation.byLeadingKeyword .standard []).compile "SELECT ?i"
      [.int 1]).1 = .ok
      { sql := "SELECT ?", queue := [.unnamed (.int 1) .integer], mode := .template
        operation := .select, template := "SELECT ?i" } := by rfl
  have second : ((compilerAfter Operation.byLeadingKeyword .standard []).compile "b, ?a"
      [.list [.int 2, .null]]).1 = .ok
      { sql := "b, ?,?", queue := [.unnamed (.int 2) .integer, .unnamed .null .integer]
        mode := .template, operation := .execute, template := "b, ?a" } := by rfl
  have whole := (compile_concatenates Operation.byLeadingKeyword .standard [] "SELECT ?i" "b, ?a"
    [.int 1] _ (by rfl) apart (List.cons_ne_nil _ _) first).1 [] _ _ (by rfl)
    (List.cons_ne_nil _ _) second []
  exact And.intro (by rfl) ⟨apart, first, second, whole⟩

end SqlTemplate.Concatenation
