import SqlTemplate.Proofs.Compilation

/-! What a compiler remembers never shows in what it answers. Calls may come in any order, and some
of them may fail; each remembered template keeps the segments it was cut into, so every later call
is answered as a new compiler would answer it. -/
namespace SqlTemplate.CompilerHistory
open Template Compilation

/-- A call on one compiler. -/
inductive Step
  | compile (template : String) (arguments : List Value)
  | tokenize (template : String)
  | fromQueue (sql : String) (queue : Queue)
  | clear

/-- The compiler after a call. A call that is refused leaves behind what it had remembered until
then. -/
def Step.apply (compiler : Compiler) : Step → Compiler
  | compile template arguments => (compiler.compile template arguments).2
  | tokenize template =>
    match compiler.tokenize template with
    | .ok (_, after) => after
    | .error _ => compiler
  | fromQueue _ _ => compiler
  | clear => compiler.clear

/-- The compiler of a parser and a configuration after some calls. -/
def compilerAfter (parser : Operation.Parser) (config : StatementConfig) (history : List Step) :
    Compiler :=
  history.foldl Step.apply (.new parser config)

/-- A compiler of a parser and a configuration that remembers templates with their own segments. -/
structure Faithful (parser : Operation.Parser) (config : StatementConfig) (compiler : Compiler) :
    Prop where
  parser_kept : compiler.parser = parser
  same_config : compiler.config = config
  remembered : ∀ entry ∈ compiler.cache, entry.2 = segments entry.1

variable {parser : Operation.Parser} {config : StatementConfig} {compiler : Compiler}

theorem new_faithful : Faithful parser config (.new parser config) :=
  ⟨rfl, rfl, fun _ member => absurd member List.not_mem_nil⟩

private theorem remembered_kept (faithful : Faithful parser config compiler) (template : String)
    (kept : List (String × List Segment)) (subset : kept ⊆ compiler.cache) :
    ∀ entry ∈ kept ++ [(template, segments template)], entry.2 = segments entry.1 := by
  intro entry member
  rcases List.mem_append.mp member with old | new
  · exact faithful.remembered entry (subset old)
  · cases List.mem_singleton.mp new
    rfl

/-- Fetching gives the template's own segments, whether they were remembered or not, and whatever
has to make room for them. -/
theorem fetch_faithful (faithful : Faithful parser config compiler) (template : String) :
    (compiler.fetch template).1 = segments template ∧
      Faithful parser config (compiler.fetch template).2 := by
  unfold Compiler.fetch
  cases found : compiler.cache.lookup template with
  | some pieces =>
    obtain ⟨before, after, split, -⟩ := List.lookup_eq_some_iff.mp found
    have own : pieces = segments template :=
      faithful.remembered (template, pieces) (by rw [split]; simp)
    subst own
    exact ⟨rfl, faithful.parser_kept, faithful.same_config,
      remembered_kept faithful template _ List.filter_sublist.subset⟩
  | none =>
    refine ⟨rfl, faithful.parser_kept, faithful.same_config, remembered_kept faithful template _ ?_⟩
    unfold Compiler.makeRoom
    split
    · exact List.drop_subset 1 compiler.cache
    · exact List.Subset.refl _

/-- Cutting is refused only for a cache size that is no number; otherwise it gives the template's
own segments. -/
theorem tokenize_faithful (faithful : Faithful parser config compiler) (template : String) :
    (∃ kind, config.templateCacheSize.isAtMost 0 = .error kind ∧
        compiler.tokenize template = .error kind) ∨
      ∃ small after, config.templateCacheSize.isAtMost 0 = .ok small ∧
        compiler.tokenize template = .ok (segments template, after) ∧
          Faithful parser config after := by
  have fetched := fetch_faithful faithful template
  simp only [Compiler.tokenize, faithful.same_config]
  cases config.templateCacheSize.isAtMost 0 with
  | error kind => exact .inl ⟨kind, rfl, rfl⟩
  | ok small =>
    cases small with
    | true => exact .inr ⟨true, compiler, rfl, rfl, faithful⟩
    | false => exact .inr ⟨false, (compiler.fetch template).2, rfl,
        congrArg Except.ok (Prod.ext fetched.1 rfl), fetched.2⟩

theorem compile_faithful (faithful : Faithful parser config compiler) (template : String)
    (arguments : List Value) :
    (compiler.compile template arguments).1 = compileAfresh parser config template arguments ∧
      Faithful parser config (compiler.compile template arguments).2 := by
  simp only [Compiler.compile, compileAfresh, faithful.parser_kept, faithful.same_config]
  split
  · exact ⟨rfl, faithful⟩
  · obtain ⟨kind, size, refused⟩ | ⟨small, after, size, cut, kept⟩ :=
      tokenize_faithful faithful template
    · rw [size, refused]
      exact ⟨rfl, faithful⟩
    · rw [size, cut]
      exact ⟨rfl, kept⟩

theorem step_faithful (faithful : Faithful parser config compiler) (step : Step) :
    Faithful parser config (step.apply compiler) := by
  cases step with
  | compile template arguments => exact (compile_faithful faithful template arguments).2
  | tokenize template =>
    simp only [Step.apply]
    obtain ⟨kind, -, refused⟩ | ⟨small, after, -, cut, kept⟩ :=
      tokenize_faithful faithful template
    · rw [refused]
      exact faithful
    · rw [cut]
      exact kept
  | fromQueue sql queue => exact faithful
  | clear =>
    rw [Step.apply, Compiler.clear, faithful.parser_kept, faithful.same_config]
    exact new_faithful

theorem history_faithful (history : List Step) :
    Faithful parser config (compilerAfter parser config history) := by
  have kept (steps : List Step) (compiler : Compiler) (faithful : Faithful parser config compiler) :
      Faithful parser config (steps.foldl Step.apply compiler) := by
    induction steps generalizing compiler with
    | nil => exact faithful
    | cons step steps ih => exact ih _ (step_faithful faithful step)
  exact kept history _ new_faithful

/-- Whatever was asked of a compiler before, a template compiles as if it were the first. -/
theorem compile_after_history (history : List Step) (template : String) (arguments : List Value) :
    ((compilerAfter parser config history).compile template arguments).1 =
      compileAfresh parser config template arguments :=
  (compile_faithful (history_faithful history) template arguments).1

/-! ## Answers -/

/-- What a call answers. -/
inductive Answer
  | compiled (outcome : Except CompileFault Compiled)
  | cut (outcome : Except FaultKind (List Segment))
  | cleared

/-- What a compiler answers to a call. -/
def Step.answer (compiler : Compiler) : Step → Answer
  | compile template arguments => .compiled (compiler.compile template arguments).1
  | tokenize template => .cut ((compiler.tokenize template).map Prod.fst)
  | fromQueue sql queue => .compiled (.ok (compiler.fromQueue sql queue))
  | clear => .cleared

/-- What a compiler answers to some calls. Each call finds what the calls before it left. -/
def answers (compiler : Compiler) : List Step → List Answer
  | [] => []
  | step :: rest => step.answer compiler :: answers (step.apply compiler) rest

/-- What a template is cut into, or why it is refused, is settled by the configuration. -/
theorem tokenize_pieces (faithful : Faithful parser config compiler) (template : String) :
    (compiler.tokenize template).map Prod.fst =
      (config.templateCacheSize.isAtMost 0).map fun _ => segments template := by
  obtain ⟨kind, size, refused⟩ | ⟨small, after, size, cut, -⟩ :=
    tokenize_faithful faithful template
  · rw [size, refused]
    rfl
  · rw [size, cut]
    rfl

theorem answer_faithful (faithful : Faithful parser config compiler) (step : Step) :
    step.answer compiler = step.answer (.new parser config) := by
  cases step with
  | compile template arguments =>
    rw [Step.answer, Step.answer, (compile_faithful faithful template arguments).1,
      (compile_faithful new_faithful template arguments).1]
  | tokenize template =>
    rw [Step.answer, Step.answer, tokenize_pieces faithful, tokenize_pieces new_faithful]
  | fromQueue sql queue =>
    rw [Step.answer, Step.answer, Compiler.fromQueue, faithful.parser_kept, faithful.same_config]
    rfl
  | clear => rfl

/-- Remembering is invisible. In any series of calls, each is answered, or refused, as the same call
on a new compiler of the configuration. -/
theorem answers_ignore_history (parser : Operation.Parser) (config : StatementConfig)
    (history : List Step) :
    answers (.new parser config) history = history.map (Step.answer (.new parser config)) := by
  have alike (steps : List Step) (compiler : Compiler)
      (faithful : Faithful parser config compiler) :
      answers compiler steps = steps.map (Step.answer (.new parser config)) := by
    induction steps generalizing compiler with
    | nil => rfl
    | cons step steps ih =>
      rw [answers, List.map_cons, answer_faithful faithful step,
        ih _ (step_faithful faithful step)]
  exact alike history _ new_faithful

end SqlTemplate.CompilerHistory
