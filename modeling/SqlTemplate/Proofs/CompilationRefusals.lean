import SqlTemplate.Proofs.CompilerHistory
import SqlTemplate.Proofs.WholeNumbers

/-! When a template is refused, and how that is reported. The number of arguments is looked at
before any token, and of the tokens that cannot take their arguments the leftmost decides. Nothing
else is refused. Every error of the library tells of the template; the faults of texts and lists
that cannot be had leave as they are. -/
namespace SqlTemplate.CompilationRefusals
open Template TemplateCutting Compilation CompilerHistory Outcomes

/-- The arguments of a template with markers: one mapping, whose first key is a text that starts
with a colon. -/
def Marked (arguments : List Value) : Prop :=
  ∃ name value entries, arguments = [.mapping ((.str name, value) :: entries)] ∧
    name.toList.head? = some ':'

/-- What a refusal is reported as: an error of the library, or the fault of an operation. -/
inductive Report
  | error (cls : ErrorClass)
  | fault (kind : FaultKind)

/-- A token that cannot be filled with its argument, and the report of it: a token of no kind
whatever its argument is, and a column map for a sequence. Where the text of an argument or a column
is written, it must have one, and what becomes a list must be short enough for that. -/
inductive Unfillable (token : Token) (value : Value) : Report → Prop where
  | unknown (kindless : token.kind = none) : Unfillable token value (.error .malformedTemplate)
  | sequence (columns : token.kind = some .columnsByComma ∨ token.kind = some .columnsByAnd)
      (several : value.isSequence = true) (unkeyed : value.isMapping = false) :
      Unfillable token value (.error .parameter)
  | unwritable (reads : token.kind = some .raw ∨ token.kind = some .strippedString)
      (unwritable : value.isWritable = false) : Unfillable token value (.fault .badValue)
  | column (columns : token.kind = some .columnsByComma ∨ token.kind = some .columnsByAnd)
      (keyed : value.entries? = some entries)
      (unwritable : Value.areWritable (entries.map Prod.fst) = false) :
      Unfillable token value (.fault .badValue)
  | unlistable (array : token.kind = some .intArray ∨ token.kind = some .stringArray)
      (long : value.isListable = false) : Unfillable token value (.fault .overflow)

/-- The report of the leftmost token that cannot be filled. -/
inductive FirstUnfillable : List (Token × Value) → Report → Prop where
  | here (unfillable : Unfillable token value report) :
      FirstUnfillable ((token, value) :: rest) report
  | later (fillable : ∀ other, ¬ Unfillable token value other)
      (unfillable : FirstUnfillable rest report) : FirstUnfillable ((token, value) :: rest) report

/-- The report of the refusal of a template with its arguments. Without arguments there is none. -/
inductive Refused (template : String) (arguments : List Value) : Report → Prop where
  | unmarked (given : arguments ≠ []) (bare : tokens (segments template) = [])
      (unmarked : ¬ Marked arguments) : Refused template arguments (.error .styleMismatch)
  | tooFew (given : arguments ≠ []) (few : arguments.length < (tokens (segments template)).length) :
      Refused template arguments (.error .missingParameter)
  | tooMany (tokenized : tokens (segments template) ≠ [])
      (many : (tokens (segments template)).length < arguments.length) :
      Refused template arguments (.error .extraParameter)
  | token (counted : arguments.length = (tokens (segments template)).length)
      (unfillable : FirstUnfillable ((tokens (segments template)).zip arguments) report) :
      Refused template arguments report

/-- What a fault is reported as. An error of the library tells of the template. -/
inductive Reports (template : String) (fault : CompileFault) : Report → Prop where
  | told (reported : fault.toError template = .library error) (sql : error.sql = .str template) :
      Reports template fault (.error error.cls)
  | raised (reported : fault.toError template = .fault ⟨kind, []⟩) :
      Reports template fault (.fault kind)

/-! ## Reports -/

/-- A template is reported with the error as it is, even if it is empty. -/
theorem about_template
    (reported : fault.toError template = .about cls message (some template)) :
    Reports template fault (.error cls) := by
  have sql : (LibraryError.about cls (.str message) (.str template)).sql = .str template := rfl
  exact .told reported sql

theorem Reports.unique (first : Reports template fault report)
    (second : Reports template fault other) : report = other := by
  cases first with
  | told reported =>
    cases second with
    | told again => cases reported.symm.trans again; rfl
    | raised again => cases reported.symm.trans again
  | raised reported =>
    cases second with
    | told again => cases reported.symm.trans again
    | raised again => cases reported.symm.trans again; rfl

/-! ## One token -/

theorem columns_mapping (keyed : value.entries? = some entries) (separator : String) :
    value.isMapping = true ∧ fillColumns value separator =
      if Value.areWritable (entries.map Prod.fst) then .ok (columnsPiece entries separator)
      else .error .unwritable := by
  cases value with
  | mapping _ => cases keyed; exact ⟨rfl, rfl⟩
  | _ => cases keyed

theorem columns_unmapped (unkeyed : value.isMapping = false) (separator : String) :
    fillColumns value separator =
      if value.isSequence then .error (.sequenceForColumns value.typeName)
      else .ok (.bound value .string) := by
  cases value with
  | mapping _ => cases unkeyed
  | _ => rfl

section Token
variable {token : Token} {value : Value} {report : Report} {fault : CompileFault}

/-- A token that fills columns is refused for a sequence and for a column without a text. -/
theorem columns_refused (template : String)
    (columns : token.kind = some .columnsByComma ∨ token.kind = some .columnsByAnd)
    (refused : fillColumns value separator = .error fault) :
    ∃ report, Unfillable token value report ∧ Reports template fault report := by
  cases keyed : value.entries? with
  | some entries =>
    rw [(columns_mapping keyed separator).2, guarded_error_iff] at refused
    obtain ⟨unwritable, rfl⟩ := refused
    exact ⟨_, .column columns keyed unwritable, .raised rfl⟩
  | none =>
    have unkeyed : value.isMapping = false := by
      cases value with
      | mapping _ => cases keyed
      | _ => rfl
    rw [columns_unmapped unkeyed] at refused
    split at refused
    · rename_i several
      cases refused
      exact ⟨_, .sequence columns several unkeyed, about_template rfl⟩
    · cases refused

/-- A token that is refused cannot be filled, and the fault is reported for the reason. -/
theorem refused_unfillable (template : String) (refused : fillToken token value = .error fault) :
    ∃ report, Unfillable token value report ∧ Reports template fault report := by
  unfold fillToken at refused
  cases known : token.kind with
  | none =>
    rw [known] at refused
    cases refused
    exact ⟨_, .unknown known, about_template rfl⟩
  | some kind =>
    rw [known] at refused
    cases kind with
    | raw =>
      obtain ⟨unwritable, rfl⟩ := guarded_error_iff.mp refused
      exact ⟨_, .unwritable (.inl known) unwritable, .raised rfl⟩
    | strippedString =>
      obtain ⟨unwritable, rfl⟩ := guarded_error_iff.mp refused
      exact ⟨_, .unwritable (.inr known) unwritable, .raised rfl⟩
    | intArray =>
      obtain ⟨long, rfl⟩ := guarded_error_iff.mp refused
      exact ⟨_, .unlistable (.inl known) long, .raised rfl⟩
    | stringArray =>
      obtain ⟨long, rfl⟩ := guarded_error_iff.mp refused
      exact ⟨_, .unlistable (.inr known) long, .raised rfl⟩
    | columnsByComma => exact columns_refused template (.inl known) refused
    | columnsByAnd => exact columns_refused template (.inr known) refused
    | _ => cases refused

/-- A token that cannot be filled is refused, and the fault is reported for the reason. -/
theorem unfillable_refused (template : String) (unfillable : Unfillable token value report) :
    ∃ fault, fillToken token value = .error fault ∧ Reports template fault report := by
  unfold fillToken
  cases unfillable with
  | unknown kindless =>
    rw [kindless]
    exact ⟨_, rfl, about_template rfl⟩
  | sequence columns several unkeyed =>
    have refused (separator : String) : fillColumns value separator =
        .error (.sequenceForColumns value.typeName) := by
      rw [columns_unmapped unkeyed, if_pos several]
    refine ⟨.sequenceForColumns value.typeName, ?_, about_template rfl⟩
    rcases columns with known | known <;> rw [known] <;> exact refused _
  | unwritable reads unwritable =>
    refine ⟨.unwritable, ?_, .raised rfl⟩
    rcases reads with known | known <;> rw [known] <;>
      exact guarded_error_iff.mpr ⟨unwritable, rfl⟩
  | column columns keyed unwritable =>
    have refused (separator : String) : fillColumns value separator = .error .unwritable := by
      rw [(columns_mapping keyed separator).2, guarded_error_iff]
      exact ⟨unwritable, rfl⟩
    refine ⟨.unwritable, ?_, .raised rfl⟩
    rcases columns with known | known <;> rw [known] <;> exact refused _
  | unlistable array long =>
    refine ⟨.unlistable, ?_, .raised rfl⟩
    rcases array with known | known <;> rw [known] <;> exact guarded_error_iff.mpr ⟨long, rfl⟩

end Token

/-! ## All tokens, from the left -/

/-- Filling is refused for the leftmost token that cannot be filled. -/
theorem unfillable_fails (template : String)
    (unfillable : FirstUnfillable ((tokens pieces).zip arguments) report) :
    ∃ fault, fill pieces arguments = .error fault ∧ Reports template fault report := by
  induction pieces generalizing arguments with
  | nil => cases unfillable
  | cons head pieces ih =>
    cases head with
    | literal text =>
      obtain ⟨fault, failed, reports⟩ := ih unfillable
      exact ⟨fault, map_error_iff.mpr failed, reports⟩
    | token token =>
      cases arguments with
      | nil => cases unfillable
      | cons value arguments =>
        simp only [fill]
        cases own : fillToken token value with
        | error fault =>
          cases unfillable with
          | here unfillable =>
            obtain ⟨_, same, reports⟩ := unfillable_refused template unfillable
            cases own.symm.trans same
            exact ⟨fault, rfl, reports⟩
          | later fillable =>
            obtain ⟨other, unfillable, -⟩ := refused_unfillable template own
            exact absurd unfillable (fillable other)
        | ok piece =>
          cases unfillable with
          | here unfillable =>
            obtain ⟨_, refused, -⟩ := unfillable_refused template unfillable
            cases own.symm.trans refused
          | later _ rest =>
            obtain ⟨fault, failed, reports⟩ := ih rest
            exact ⟨fault, map_error_iff.mpr failed, reports⟩

/-- The library's own test for markers is what was said of the first key. -/
theorem named_mapping_iff (argument : Value) :
    argument.isNamedMapping = true ↔ Marked [argument] := by
  constructor
  · intro named
    unfold Value.isNamedMapping at named
    split at named
    · rename_i name value entries
      exact ⟨name, value, entries, rfl, beq_iff_eq.mp named⟩
    · cases named
  · rintro ⟨name, value, entries, same, colon⟩
    cases same
    simp [Value.isNamedMapping, colon]

private theorem named_queue_error (refused : Compiler.namedQueue arguments = .error fault) :
    ¬ Marked arguments ∧ fault = .styleMismatch := by
  unfold Compiler.namedQueue at refused
  split at refused
  · split at refused
    · cases refused
    · rename_i argument unnamed
      cases refused
      exact ⟨fun marked => unnamed ((named_mapping_iff argument).mpr marked), rfl⟩
  · rename_i several
    cases refused
    refine ⟨?_, rfl⟩
    rintro ⟨name, value, entries, rfl, -⟩
    exact several _ rfl

private theorem unmarked_queue (unmarked : ¬ Marked arguments) :
    Compiler.namedQueue arguments = .error .styleMismatch := by
  cases queued : Compiler.namedQueue arguments with
  | error fault => rw [(named_queue_error queued).2]
  | ok queue =>
    unfold Compiler.namedQueue at queued
    split at queued
    · split at queued
      · rename_i argument named
        exact absurd ((named_mapping_iff argument).mp named) unmarked
      · cases queued
    · cases queued

section Template
variable {parser : Operation.Parser} {config : StatementConfig} {template : String}
  {arguments : List Value} {report : Report} {fault : CompileFault}
  (sized : config.templateCacheSize.isAtMost 0 = .ok small)
include sized

/-- If the number of templates to be remembered is a number, a template with arguments is cut. -/
theorem compile_given (given : arguments ≠ []) :
    compileAfresh parser config template arguments =
      Compiler.compileSegments parser config template (segments template) arguments := by
  rw [compileAfresh, if_neg (by simpa using given), sized]

/-- What meets a condition for a refusal is refused and reported so. -/
theorem refused_fails (parser : Operation.Parser) (refused : Refused template arguments report) :
    ∃ fault, compileAfresh parser config template arguments = .error fault ∧
      Reports template fault report := by
  have given : arguments ≠ [] := by
    rintro rfl
    cases refused with
    | unmarked given => exact given rfl
    | tooFew given => exact given rfl
    | tooMany _ many => simp at many
    | token _ unfillable =>
      rw [List.zip_nil_right] at unfillable
      cases unfillable
  rw [compile_given sized given]
  unfold Compiler.compileSegments
  dsimp only
  have some : 0 < arguments.length := List.length_pos_iff.mpr given
  cases refused with
  | unmarked given bare unmarked =>
    rw [bare, unmarked_queue unmarked]
    refine ⟨.styleMismatch, rfl, ?_⟩
    exact about_template rfl
  | tooFew given few =>
    rw [if_neg (by omega), if_pos few]
    exact ⟨_, rfl, about_template rfl⟩
  | tooMany tokenized many =>
    rw [if_neg (by simpa using tokenized), if_neg (by omega), if_pos many]
    exact ⟨_, rfl, about_template rfl⟩
  | token counted unfillable =>
    rw [if_neg (by omega), if_neg (by omega), if_neg (by omega)]
    obtain ⟨fault, failed, reports⟩ := unfillable_fails template unfillable
    exact ⟨fault, map_error_iff.mpr failed, reports⟩

end Template

end SqlTemplate.CompilationRefusals
