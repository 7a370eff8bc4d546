import SqlTemplate.Proofs.SegmentOutlines

/-! Tokens can be written in several ways: the letter of a kind in either case, and any digits
behind it. A template whose tokens are written in another way is cut at the same places and compiles
to the same statement, or is refused for the same kind of reason. -/
namespace SqlTemplate.Respelling
open Template Compilation CompilerHistory TemplateCutting ShapeIndependence UniqueCutting
open SegmentOutlines

/-- Another way to write a token. The kind character may change its case, which only letters of
ASCII have, and the digits may be any, but they cannot all be dropped where nothing else parts the
question mark from a letter behind the token. -/
structure Respelt (mark other : Mark) : Prop where
  letter : other.letter.map Char.toLower = mark.letter.map Char.toLower
  digits : ∀ c ∈ other.digits, c.isDigit = true
  parted : mark.letter = none → mark.digits ≠ [] → other.digits ≠ []

/-- Tokens with the literals behind them, with some of the tokens written in another way. -/
inductive RespeltPieces : List (Mark × List Char) → List (Mark × List Char) → Prop where
  | done : RespeltPieces [] []
  | next (respelt : Respelt mark other) (rest : RespeltPieces pieces others) :
      RespeltPieces ((mark, literal) :: pieces) ((other, literal) :: others)

/-- The text of a template in which some tokens are written in another way. -/
def RespeltText (template other : String) : Prop :=
  ∃ pieces, RespeltPieces (cut template.toList).rest pieces ∧
    other.toList = wholeText { first := (cut template.toList).first, rest := pieces }

/-! ## Tokens -/

/-- A character stays a kind character, or none, when its case changes. -/
theorem kind_char_case {c d : Char} (same : c.toLower = d.toLower) :
    isKindChar c = isKindChar d := by
  have first := to_lower_code c
  have second := to_lower_code d
  have code : c.toLower.toNat = d.toLower.toNat := congrArg Char.toNat same
  have bar (e : Char) : e = '|' ↔ e.toNat = 124 := Char.toNat_inj.symm
  have alike : (c = '|' ∨ c.toNat = 0x130 ∨ c.toNat = 0x131 ∨ c.toNat = 0x17F) ↔
      (d = '|' ∨ d.toNat = 0x130 ∨ d.toNat = 0x131 ∨ d.toNat = 0x17F) := by
    rw [bar, bar]
    split at first <;> split at second <;> omega
  rw [Bool.eq_iff_iff]
  simp only [isKindChar, same, Bool.or_eq_true, beq_iff_eq, or_assoc]
  exact or_congr_right alike

/-- Tokens that are written in different ways are of one kind. -/
theorem Respelt.kind (respelt : Respelt mark other) : other.kind = mark.kind := by
  have letters := congrArg Option.toList respelt.letter
  simp only [Option.toList_map] at letters
  simp only [Mark.kind, TokenKind.ofLetters?, letters]

theorem Respelt.written (respelt : Respelt mark other) (written : WellWritten mark) :
    WellWritten other := by
  refine ⟨?_, respelt.digits⟩
  intro c own
  have letter := respelt.letter
  rw [Option.mem_def.mp own, Option.map_some] at letter
  obtain ⟨d, former, same⟩ := Option.map_eq_some_iff.mp letter.symm
  have member := (kind_char_iff d).mpr (written.letter d former)
  exact (kind_char_iff c).mp ((kind_char_case same).symm.trans member)

/-- What the token did not take before, it does not take now. -/
theorem Respelt.ends (respelt : Respelt mark other) (ends : EndsBefore mark text) :
    EndsBefore other text := by
  refine ⟨ends.digit, ?_⟩
  intro bare undigited
  have letter : mark.letter = none := by
    have same := respelt.letter
    rw [bare] at same
    exact Option.map_eq_none_iff.mp same.symm
  by_cases digits : mark.digits = []
  · exact ends.letter letter digits
  · exact absurd undigited (respelt.parted letter digits)

/-! ## Templates -/

theorem respelt_fits (respelt : RespeltPieces pieces others) (fit : ∀ piece ∈ pieces, Fits piece) :
    ∀ piece ∈ others, Fits piece := by
  induction respelt with
  | done => exact fit
  | next respelt _ ih =>
    obtain ⟨own, rest⟩ := List.forall_mem_cons.mp fit
    refine List.forall_mem_cons.mpr ⟨?_, ih rest⟩
    exact ⟨respelt.written own.written, respelt.ends own.ends, own.clean⟩

theorem respelt_outline (respelt : RespeltPieces pieces others)
    (position ordinal place number : Nat) :
    SameOutline (Template.place position ordinal others) (Template.place place number pieces) := by
  induction respelt generalizing position ordinal place number with
  | done => exact .done
  | next respelt _ ih => exact .token respelt.kind (.literal (ih _ _ _ _))

variable {template other : String}

/-- A template with its tokens written in another way is cut at the same places. -/
theorem respelt_segments (respelt : RespeltText template other) :
    SameOutline (segments other) (segments template) := by
  obtain ⟨pieces, respelt, whole⟩ := respelt
  have clean := cut_clean template.toList
  have found := cut_whole_text clean.1 (respelt_fits respelt (cut_fits template.toList))
  rw [segments, whole, found]
  exact .literal (respelt_outline respelt _ _ _ _)

/-- A template without tokens cannot be written in another way. -/
theorem respelt_bare (respelt : RespeltText template other)
    (bare : tokens (segments template) = []) : other = template := by
  obtain ⟨pieces, respelt, whole⟩ := respelt
  have former := cut_text template.toList
  cases rest : (cut template.toList).rest with
  | cons piece more => simp [segments, rest, place] at bare
  | nil =>
    rw [rest] at respelt
    cases respelt
    rw [wholeText, rest] at former
    exact String.toList_inj.mp (whole.trans former)

/-- Which template a fault is about does not change the class of the error. -/
theorem error_class_of_any (template other : String) (fault : CompileFault) :
    errorClass template fault = errorClass other fault := by
  cases fault with
  | styleMismatch =>
    simp only [errorClass, CompileFault.toError, Error.name, LibraryError.styleMismatch,
      LibraryError.about, LibraryError.ofArguments]
  | cacheSize _ | unwritable | unlistable => rfl
  | _ => exact (about_name _ _ _).trans (about_name _ _ _).symm

/-- Statements of the same text and mode with the same entries. -/
def SameCompiled (a b : Compiled) : Prop := a.sql = b.sql ∧ a.queue = b.queue ∧ a.mode = b.mode

theorem compile_respelt (parser : Operation.Parser) (config : StatementConfig)
    (given : arguments ≠ []) (respelt : RespeltText template other) :
    Alike (errorClass template) SameCompiled (compileAfresh parser config other arguments)
      (compileAfresh parser config template arguments) := by
  have outline := respelt_segments respelt
  have filled := fill_outline template outline arguments
  have taken : arguments.isEmpty = false := by simpa using given
  simp only [compileAfresh, taken, Bool.false_eq_true, ↓reduceIte, Compiler.compileSegments,
    outline_count outline]
  cases config.templateCacheSize.isAtMost 0 with
  | error kind => exact .refused rfl
  | ok small =>
    dsimp only
    split
    · rename_i none
      rw [respelt_bare respelt (List.length_eq_zero_iff.mp none)]
      cases Compiler.namedQueue arguments with
      | error fault => exact .refused rfl
      | ok queue => exact .succeeded ⟨rfl, rfl, rfl⟩
    · split
      · exact .refused rfl
      · split
        · exact .refused rfl
        · refine alike_map filled ?_
          rintro piece _ rfl
          exact ⟨rfl, rfl, rfl⟩

/-- The case of kind letters and the digits of tokens are ignored. However the tokens of a template
are written, it compiles to the same SQL and the same entries, or it is refused with an error of the
same class. -/
theorem respelling_is_ignored (parser : Operation.Parser) (config : StatementConfig)
    (history others : List Step)
    (template other : String) (arguments : List Value) (given : arguments ≠ [])
    (respelt : RespeltText template other) :
    (∃ statement again,
        ((compilerAfter parser config history).compile template arguments).1 = .ok statement ∧
        ((compilerAfter parser config others).compile other arguments).1 = .ok again ∧
        again.sql = statement.sql ∧ again.queue = statement.queue ∧
        again.mode = statement.mode) ∨
      ∃ fault again,
        ((compilerAfter parser config history).compile template arguments).1 = .error fault ∧
        ((compilerAfter parser config others).compile other arguments).1 = .error again ∧
        errorClass other again = errorClass template fault := by
  have alike := compile_respelt parser config given respelt
  rw [compile_after_history, compile_after_history]
  generalize compileAfresh parser config other arguments = new at alike
  generalize compileAfresh parser config template arguments = former at alike
  cases alike with
  | refused same => exact .inr ⟨_, _, rfl, rfl, (error_class_of_any other template _).trans same⟩
  | succeeded same => exact .inl ⟨_, _, rfl, rfl, same.1, same.2.1, same.2.2⟩

/-- The digits of a question mark alone may change but not go, because they part it from the letter
behind; those of a token with a letter may go. -/
theorem respelling_keeps_parting_digit :
    [Value.int 1, .str "<b>x"] ≠ [] ∧ RespeltText "a = ?7s AND b = ?q2" "a = ?90s AND b = ?Q" ∧
      ∃ again, ((compilerAfter Operation.byLeadingKeyword .standard []).compile
        "a = ?90s AND b = ?Q" [.int 1, .str "<b>x"]).1 = .ok again ∧
        again.sql = "a = ?s AND b = ?" ∧
        again.queue = [.inferred (.int 1) .null, .unnamed (.str "x") .string] ∧
        again.mode = .template := by
  have pieces : (cut "a = ?7s AND b = ?q2".toList).rest =
    [(⟨none, ['7']⟩, "s AND b = ".toList), (⟨some 'q', ['2']⟩, [])] := by rfl
  have respelt : RespeltText "a = ?7s AND b = ?q2" "a = ?90s AND b = ?Q" := by
    refine ⟨[(⟨none, ['9', '0']⟩, "s AND b = ".toList), (⟨some 'Q', []⟩, [])], ?_, by rfl⟩
    rw [pieces]
    have first : Respelt ⟨none, ['7']⟩ ⟨none, ['9', '0']⟩ :=
      ⟨rfl, List.all_eq_true.mp rfl, fun _ _ => List.cons_ne_nil _ _⟩
    have second : Respelt ⟨some 'q', ['2']⟩ ⟨some 'Q', []⟩ := ⟨rfl, nofun, nofun⟩
    exact .next first (.next second .done)
  have compiled : ((compilerAfter Operation.byLeadingKeyword .standard []).compile
      "a = ?7s AND b = ?q2" [.int 1, .str "<b>x"]).1 = .ok
    { sql := "a = ?s AND b = ?"
      queue := [.inferred (.int 1) .null, .unnamed (.str "x") .string]
      mode := .template, operation := .execute, template := "a = ?7s AND b = ?q2" } := by rfl
  have given : [Value.int 1, .str "<b>x"] ≠ [] := List.cons_ne_nil _ _
  refine ⟨given, respelt, ?_⟩
  rcases respelling_is_ignored Operation.byLeadingKeyword .standard [] [] "a = ?7s AND b = ?q2"
      "a = ?90s AND b = ?Q" [.int 1, .str "<b>x"] given respelt with
    ⟨statement, again, former, new, sql, queue, mode⟩ | ⟨fault, again, refused, -⟩
  · rw [compiled] at former
    cases former
    exact ⟨again, new, sql, queue, mode⟩
  · rw [compiled] at refused
    cases refused

end SqlTemplate.Respelling
