import SqlTemplate.Proofs.Outcomes
import SqlTemplate.Proofs.TemplateCutting
import SqlTemplate.Template.Compiler

/-! One compilation by itself, and the forms that its result can have. Whatever holds of the forms
holds of every statement that was compiled. -/
namespace SqlTemplate.Compilation
open Template Outcomes

/-- What a template compiles to, without a compiler that remembers anything. -/
def compileAfresh (parser : Operation.Parser) (config : StatementConfig) (template : String)
    (arguments : List Value) : Except CompileFault Compiled :=
  if arguments.isEmpty then .ok (Compiler.finish parser config template template [] .static)
  else
    match config.templateCacheSize.isAtMost 0 with
    | .error kind => .error (.cacheSize kind)
    | .ok _ => Compiler.compileSegments parser config template (segments template) arguments

/-- How segments are filled: a literal is written as it is, and a token takes the next argument. -/
inductive Filled : List Segment → List Value → Piece → Prop where
  | done : Filled [] arguments (.text "")
  | literal (rest : Filled pieces arguments more) :
      Filled (.literal text :: pieces) arguments ((Piece.text text).append more)
  | token (own : fillToken token value = .ok piece) (rest : Filled pieces arguments more) :
      Filled (.token token :: pieces) (value :: arguments) (piece.append more)

theorem filled_of_ok (made : fill pieces arguments = .ok piece) :
    Filled pieces arguments piece := by
  induction pieces generalizing arguments piece with
  | nil =>
    cases made
    exact .done
  | cons head pieces ih =>
    cases head with
    | literal text =>
      obtain ⟨more, rest, rfl⟩ := map_ok_iff.mp made
      exact .literal (ih rest)
    | token token =>
      cases arguments with
      | nil => cases made
      | cons value arguments =>
        simp only [fill] at made
        split at made
        · cases made
        · rename_i own
          obtain ⟨more, rest, rfl⟩ := map_ok_iff.mp made
          exact .token own (ih rest)

/-- Everything that a template can compile to: SQL without arguments, SQL with named markers, and
SQL whose tokens were filled, one argument for each. -/
inductive Compiles (parser : Operation.Parser) (config : StatementConfig) (template : String) :
    List Value → Compiled → Prop where
  | static :
      Compiles parser config template []
        (Compiler.finish parser config template template [] .static)
  | named (marked : (Value.mapping entries).isNamedMapping = true)
      (bare : tokens (segments template) = []) :
      Compiles parser config template [.mapping entries]
        (Compiler.finish parser config template template (Queue.enqueueNamed [] entries) .named)
  | filled (given : arguments ≠ [])
      (counted : arguments.length = (tokens (segments template)).length)
      (made : Filled (segments template) arguments piece) :
      Compiles parser config template arguments
        (Compiler.finish parser config template piece.sql piece.entries .template)

private theorem named_queue_cases (named : Compiler.namedQueue arguments = .ok queue) :
    ∃ entries, arguments = [.mapping entries] ∧ (Value.mapping entries).isNamedMapping = true ∧
      queue = Queue.enqueueNamed [] entries := by
  unfold Compiler.namedQueue at named
  split at named
  · split at named
    · rename_i argument marked
      cases argument with
      | mapping entries =>
        cases named
        exact ⟨entries, rfl, marked, rfl⟩
      | _ => simp [Value.isNamedMapping] at marked
    · cases named
  · cases named

/-- A compilation that succeeds is one of the three. -/
theorem compiles_of_ok (compiled : compileAfresh parser config template arguments = .ok statement) :
    Compiles parser config template arguments statement := by
  unfold compileAfresh at compiled
  split at compiled
  · rename_i empty
    cases List.isEmpty_iff.mp empty
    cases compiled
    exact .static
  · rename_i given
    split at compiled
    · cases compiled
    · unfold Compiler.compileSegments at compiled
      dsimp only at compiled
      split at compiled
      · rename_i bare
        obtain ⟨queue, named, rfl⟩ := map_ok_iff.mp compiled
        obtain ⟨entries, rfl, marked, rfl⟩ := named_queue_cases named
        exact .named marked (List.length_eq_zero_iff.mp bare)
      · split at compiled
        · cases compiled
        · split at compiled
          · cases compiled
          · obtain ⟨piece, made, rfl⟩ := map_ok_iff.mp compiled
            refine .filled ?_ (by omega) (filled_of_ok made)
            intro none
            exact given (List.isEmpty_iff.mpr none)

/-- With arguments and tokens, compiling is filling: it succeeds when there are as many of the one
as of the other and the tokens can be filled. -/
theorem compile_tokens_iff (given : arguments ≠ []) (tokenized : hasTokens template = true) :
    compileAfresh parser config template arguments = .ok statement ↔
      (∃ small, config.templateCacheSize.isAtMost 0 = .ok small) ∧
        arguments.length = (tokens (segments template)).length ∧
        ∃ piece, fill (segments template) arguments = .ok piece ∧
          statement = Compiler.finish parser config template piece.sql piece.entries .template := by
  have some : (tokens (segments template)).length ≠ 0 := by
    intro none
    have bare := TemplateCutting.no_tokens_iff.mp (List.length_eq_zero_iff.mp none)
    simp [hasTokens, bare] at tokenized
  have taken : arguments.isEmpty = false := by simpa using given
  rw [compileAfresh, taken, if_neg Bool.false_ne_true]
  cases config.templateCacheSize.isAtMost 0 with
  | error kind => simp
  | ok small =>
    simp only [Compiler.compileSegments, if_neg some, Except.ok.injEq, exists_eq', true_and]
    split
    · simp only [reduceCtorEq, false_iff, not_and]
      omega
    · split
      · simp only [reduceCtorEq, false_iff, not_and]
        omega
      · rw [map_ok_iff, and_iff_right (by omega)]

end SqlTemplate.Compilation
