import SqlTemplate.Proofs.CompilationRefusals

/-! Bound values never reach the SQL text. A token looks at the shape of its argument and at nothing
else: two lists of arguments that agree in shape compile to the same SQL, or are refused for the
same kind of reason, whatever their values are. One thing shows besides the shape: a stripped text
is made when the template is filled, and an integer of too many digits has no text. -/
namespace SqlTemplate.ShapeIndependence
open Template TemplateCutting Compilation CompilerHistory CompilationRefusals

/-- Two arguments that a token of some kind cannot tell apart in the SQL that it writes. Only a raw
token reads the text of its argument, and only a column map the keys; where there are no texts,
nothing is written. -/
def SameShape (kind : Option TokenKind) (a b : Value) : Prop :=
  match kind with
  | some .raw => a.isWritable = b.isWritable ∧ (a.isWritable = true → rawText a = rawText b)
  | some .intArray | some .stringArray =>
    (a.isSequence = false ∧ b.isSequence = false) ∨
      ∃ items others, a.sequence? = some items ∧ b.sequence? = some others ∧
        items.length = others.length
  | some .columnsByComma | some .columnsByAnd =>
    (∃ entries others, a.entries? = some entries ∧ b.entries? = some others ∧
        Value.areWritable (entries.map Prod.fst) = Value.areWritable (others.map Prod.fst) ∧
        (Value.areWritable (entries.map Prod.fst) = true →
          (entries.map fun entry => columnName entry.1) =
            others.map fun entry => columnName entry.1)) ∨
      (a.isMapping = false ∧ a.isSequence = true ∧ b.isMapping = false ∧ b.isSequence = true) ∨
      (a.isMapping = false ∧ a.isSequence = false ∧ b.isMapping = false ∧ b.isSequence = false)
  | _ => True

/-- Where a text is stripped, both arguments have one or neither has. -/
def SameTexts (kind : Option TokenKind) (a b : Value) : Prop :=
  kind = some .strippedString → a.isWritable = b.isWritable

/-- Two lists of arguments that are related token by token. -/
def AgreeIn (related : Option TokenKind → Value → Value → Prop) :
    List Token → List Value → List Value → Prop
  | token :: tokens, a :: first, b :: second =>
    related token.kind a b ∧ AgreeIn related tokens first second
  | _, _, _ => True

/-- Two outcomes are alike when both are refused for faults of one class, or both succeed with
related results. -/
inductive Alike (classOf : ε → γ) (related : α → α → Prop) : Except ε α → Except ε α → Prop where
  | refused (same : classOf fault = classOf other) :
      Alike classOf related (.error fault) (.error other)
  | succeeded (same : related a b) : Alike classOf related (.ok a) (.ok b)

/-- The class of the error that a fault is reported as. -/
def errorClass (template : String) (fault : CompileFault) : String := (fault.toError template).name

/-- Pieces of the same text with as many entries. -/
def SamePiece (a b : Piece) : Prop := a.sql = b.sql ∧ a.entries.length = b.entries.length

/-- Statements of the same text, mode and operation with as many entries. -/
def SameStatement (a b : Compiled) : Prop :=
  a.sql = b.sql ∧ a.mode = b.mode ∧ a.operation = b.operation ∧ a.queue.length = b.queue.length

theorem alike_map {classOf : ε → γ} {related : α → α → Prop} {others : β → β → Prop} {f g : α → β}
    (alike : Alike classOf related first second)
    (kept : ∀ a b, related a b → others (f a) (g b)) :
    Alike classOf others (first.map f) (second.map g) := by
  cases alike with
  | refused same => exact .refused same
  | succeeded same => exact .succeeded (kept _ _ same)

/-- Outcomes that succeed under the same condition are alike if they fail alike. -/
theorem guarded_alike {classOf : ε → γ} {related : α → α → Prop} {a b : α}
    {guard other : Bool}
    (same : guard = other) (kept : guard = true → related a b) :
    Alike classOf related (if guard then .ok a else .error fault)
      (if other then .ok b else .error fault) := by
  subst same
  cases guard with
  | false => exact .refused rfl
  | true => exact .succeeded (kept rfl)

variable {a b : Value}

theorem append_same {a b : Piece} (front : SamePiece a b) (rest : SamePiece more others) :
    SamePiece (a.append more) (b.append others) := by
  constructor
  · simp only [Piece.append, front.1, rest.1]
  · simp only [Piece.append, List.length_append, front.2, rest.2]

private theorem no_sequence (single : a.isSequence = false) : a.sequence? = none := by
  cases a <;> simp_all [Value.isSequence, Value.sequence?]

private theorem no_entries (single : a.isMapping = false) : a.entries? = none := by
  cases a <;> simp_all [Value.isMapping, Value.entries?]

private theorem listable_iff (sequence : a.sequence? = some items) :
    a.isListable = true ↔ items.length ≤ Value.maxLength := by
  cases a <;> cases sequence <;> simp [Value.isListable, Value.rangeItems]

private theorem single_listable (single : a.isSequence = false) : a.isListable = true := by
  cases a with
  | collection | range => cases single
  | _ => rfl

theorem fill_array_alike (template : String) (type : BindType)
    (same : (a.isSequence = false ∧ b.isSequence = false) ∨
      ∃ items others, a.sequence? = some items ∧ b.sequence? = some others ∧
        items.length = others.length) :
    Alike (errorClass template) SamePiece (fillArray a type) (fillArray b type) := by
  rcases same with ⟨single, alone⟩ | ⟨items, others, first, second, count⟩
  · refine guarded_alike ((single_listable single).trans (single_listable alone).symm) fun _ => ?_
    simp only [arrayPiece, no_sequence single, no_sequence alone]
    exact ⟨rfl, rfl⟩
  · refine guarded_alike ?_ fun _ => ?_
    · rw [Bool.eq_iff_iff, listable_iff first, listable_iff second, count]
    · simp only [arrayPiece, first, second]
      exact ⟨congrArg placeholders count, by simpa using count⟩

/-- An error about some SQL has the name of its class, whatever its message says. -/
theorem about_name (cls : ErrorClass) (message : String) (sql : Option String) :
    (Error.about cls message sql).name = cls.name := by
  simp only [Error.about, Error.name, LibraryError.about, LibraryError.ofArguments]

private theorem sequences_refused (template typeName : String) :
    errorClass template (.sequenceForColumns typeName) = ErrorClass.parameter.name :=
  about_name _ _ _

theorem fill_columns_alike (template separator : String)
    (same : SameShape (some .columnsByComma) a b) :
    Alike (errorClass template) SamePiece (fillColumns a separator) (fillColumns b separator) := by
  rcases same with ⟨entries, others, first, second, written, same⟩ |
    ⟨noMapping, sequence, notMapping, also⟩ | ⟨noMapping, single, notMapping, alone⟩
  · simp only [fillColumns, first, second]
    refine guarded_alike written fun writable => ?_
    have names := same writable
    have count := congrArg List.length names
    simp only [List.length_map] at count
    have columns := congrArg (List.map fun name => name ++ " = " ++ placeholder) names
    simp only [List.map_map, Function.comp_def] at columns
    exact ⟨congrArg separator.intercalate columns, by simpa [columnsPiece] using count⟩
  · simp only [fillColumns, no_entries noMapping, no_entries notMapping, sequence, also, ↓reduceIte]
    exact .refused ((sequences_refused _ _).trans (sequences_refused _ _).symm)
  · simp only [fillColumns, no_entries noMapping, no_entries notMapping, single, alone]
    exact .succeeded ⟨rfl, rfl⟩

/-- One token at a time, arguments of the same shape are filled in alike. -/
theorem fill_token_alike (template : String) (token : Token)
    (same : SameShape token.kind a b) (texts : SameTexts token.kind a b) :
    Alike (errorClass template) SamePiece (fillToken token a) (fillToken token b) := by
  unfold fillToken
  cases known : token.kind with
  | none => exact .refused rfl
  | some kind =>
    rw [known] at same texts
    cases kind with
    | raw => exact guarded_alike same.1 fun writable => ⟨same.2 writable, rfl⟩
    | strippedString => exact guarded_alike (texts rfl) fun _ => ⟨rfl, rfl⟩
    | intArray => exact fill_array_alike template .integer same
    | stringArray => exact fill_array_alike template .string same
    | columnsByComma => exact fill_columns_alike template ", " same
    | columnsByAnd => exact fill_columns_alike template " AND " same
    | _ => exact .succeeded ⟨rfl, rfl⟩

/-- Filling goes the same way for both lists: the first token that one of them fails at is the first
that the other fails at. -/
theorem fill_alike (template : String) (pieces : List Segment) (first second : List Value)
    (count : first.length = second.length)
    (shapes : AgreeIn SameShape (tokens pieces) first second)
    (texts : AgreeIn SameTexts (tokens pieces) first second) :
    Alike (errorClass template) SamePiece (fill pieces first) (fill pieces second) := by
  induction pieces generalizing first second with
  | nil => exact .succeeded ⟨rfl, rfl⟩
  | cons head pieces ih =>
    cases head with
    | literal text =>
      exact alike_map (ih first second count shapes texts)
        fun _ _ rest => append_same ⟨rfl, rfl⟩ rest
    | token token =>
      cases first with
      | nil =>
        cases List.length_eq_zero_iff.mp count.symm
        exact .refused rfl
      | cons a first =>
        cases second with
        | nil => simp at count
        | cons b second =>
          have here := fill_token_alike template token shapes.1 texts.1
          have later := ih first second (Nat.succ.inj count) shapes.2 texts.2
          simp only [fill]
          generalize fillToken token a = left at here
          generalize fillToken token b = right at here
          cases here with
          | refused same => exact .refused same
          | succeeded same => exact alike_map later fun _ _ rest => append_same same rest

/-- Two lists of as many arguments that agree in shape, and in having texts where these are
stripped, compile to the same SQL with the same operation and as many entries, or are refused with
errors of the same class. -/
theorem compile_ignores_values (parser : Operation.Parser) (config : StatementConfig)
    (history others : List Step) (template : String) (first second : List Value)
    (tokenized : hasTokens template = true) (count : first.length = second.length)
    (shapes : AgreeIn SameShape (tokens (segments template)) first second)
    (texts : AgreeIn SameTexts (tokens (segments template)) first second) :
    Alike (errorClass template) SameStatement
      ((compilerAfter parser config history).compile template first).1
      ((compilerAfter parser config others).compile template second).1 := by
  have some : (tokens (segments template)).length ≠ 0 := by
    intro none
    have bare := no_tokens_iff.mp (List.length_eq_zero_iff.mp none)
    simp [hasTokens, bare] at tokenized
  have filled := fill_alike template (segments template) first second count shapes texts
  rw [compile_after_history, compile_after_history, compileAfresh, compileAfresh]
  -- Every check before the tokens are filled looks at the number of arguments alone.
  simp only [← List.length_eq_zero_iff, List.isEmpty_iff, count]
  split
  · exact .succeeded ⟨rfl, rfl, rfl, rfl⟩
  · split
    · exact .refused rfl
    · simp only [Compiler.compileSegments, if_neg some, count]
      split
      · exact .refused rfl
      · split
        · exact .refused rfl
        · refine alike_map filled fun a b same => ?_
          exact ⟨same.1, rfl,
            congrArg (fun sql => Operation.detectWith parser sql _ _) same.1, same.2⟩

/-- Texts that try to break out of their places are bound like any others. -/
theorem compile_ignores_hostile_values :
    (AgreeIn SameShape (tokens (segments "UPDATE t SET ?h WHERE id IN (?a) AND n = ?q"))
        [.mapping [(.str "a", .int 1)], .list [.int 1, .int 2], .str "x"]
        [.mapping [(.str "a;", .str "0; DROP TABLE t")], .tuple [.str "?", .null],
          .str "x' OR 'x' = 'x"] ∧
      AgreeIn SameTexts (tokens (segments "UPDATE t SET ?h WHERE id IN (?a) AND n = ?q"))
        [.mapping [(.str "a", .int 1)], .list [.int 1, .int 2], .str "x"]
        [.mapping [(.str "a;", .str "0; DROP TABLE t")], .tuple [.str "?", .null],
          .str "x' OR 'x' = 'x"]) ∧
      Alike (errorClass "UPDATE t SET ?h WHERE id IN (?a) AND n = ?q") SameStatement
        ((compilerAfter Operation.byLeadingKeyword .standard []).compile
          "UPDATE t SET ?h WHERE id IN (?a) AND n = ?q"
          [.mapping [(.str "a", .int 1)], .list [.int 1, .int 2], .str "x"]).1
        ((compilerAfter Operation.byLeadingKeyword .standard [.clear]).compile
          "UPDATE t SET ?h WHERE id IN (?a) AND n = ?q"
          [.mapping [(.str "a;", .str "0; DROP TABLE t")], .tuple [.str "?", .null],
            .str "x' OR 'x' = 'x"]).1 := by
  have cut : tokens (segments "UPDATE t SET ?h WHERE id IN (?a) AND n = ?q") =
    [⟨some .columnsByComma, "?h", 13, 0⟩, ⟨some .intArray, "?a", 29, 1⟩,
      ⟨some .strippedString, "?q", 41, 2⟩] := by rfl
  have shapes : AgreeIn SameShape (tokens (segments "UPDATE t SET ?h WHERE id IN (?a) AND n = ?q"))
      [.mapping [(.str "a", .int 1)], .list [.int 1, .int 2], .str "x"]
      [.mapping [(.str "a;", .str "0; DROP TABLE t")], .tuple [.str "?", .null],
        .str "x' OR 'x' = 'x"] := by
    rw [cut]
    refine And.intro (.inl ⟨_, _, rfl, rfl, rfl, fun _ => ?_⟩)
      ⟨.inr ⟨_, _, rfl, rfl, rfl⟩, trivial, trivial⟩
    rfl
  have texts : AgreeIn SameTexts (tokens (segments "UPDATE t SET ?h WHERE id IN (?a) AND n = ?q"))
      [.mapping [(.str "a", .int 1)], .list [.int 1, .int 2], .str "x"]
      [.mapping [(.str "a;", .str "0; DROP TABLE t")], .tuple [.str "?", .null],
        .str "x' OR 'x' = 'x"] := by
    rw [cut]
    exact And.intro (fun _ => rfl) ⟨fun _ => rfl, fun _ => rfl, trivial⟩
  exact And.intro ⟨shapes, texts⟩ (compile_ignores_values Operation.byLeadingKeyword .standard []
    [.clear] "UPDATE t SET ?h WHERE id IN (?a) AND n = ?q" _ _ (by rfl) (by rfl) shapes texts)

/-- A stripped text tells an integer of too many digits from another value, although the shapes of
both agree. -/
theorem stripping_tells_long_integers_apart :
    AgreeIn SameShape (tokens (segments "SELECT ?q")) [.int 1]
        [.int WholeNumbers.leastUnwritable] ∧
      ¬ Alike (errorClass "SELECT ?q") SameStatement
        ((compilerAfter Operation.byLeadingKeyword .standard []).compile "SELECT ?q" [.int 1]).1
        ((compilerAfter Operation.byLeadingKeyword .standard []).compile "SELECT ?q"
          [.int WholeNumbers.leastUnwritable]).1 := by
  have cut : tokens (segments "SELECT ?q") = [⟨some .strippedString, "?q", 7, 0⟩] := by rfl
  have sized : StatementConfig.standard.templateCacheSize.isAtMost 0 = .ok false := by rfl
  obtain ⟨statement, written⟩ : ∃ statement, compileAfresh Operation.byLeadingKeyword .standard
      "SELECT ?q" [.int 1] = .ok statement := ⟨_, rfl⟩
  have unwritable : Refused "SELECT ?q" [.int WholeNumbers.leastUnwritable] (.fault .badValue) := by
    apply Refused.token
    · rw [cut]
      rfl
    · rw [cut]
      exact .here (.unwritable (.inr rfl) WholeNumbers.least_unwritable)
  obtain ⟨fault, refused, -⟩ := refused_fails sized Operation.byLeadingKeyword unwritable
  refine ⟨by rw [cut]; exact ⟨trivial, trivial⟩, fun alike => ?_⟩
  rw [compile_after_history, compile_after_history, written, refused] at alike
  cases alike

end SqlTemplate.ShapeIndependence
