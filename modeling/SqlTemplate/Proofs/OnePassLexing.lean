import SqlTemplate.Proofs.PercentDecoding

/-! Rendering looks ahead for the end of each literal; a lexer that reads the SQL once, character by
character, does not. Where such a lexer does not end inside a literal, both take the same characters
for literals, placeholders and markers. -/
namespace SqlTemplate.OnePassLexing
open Text PercentMarkers PercentFormat
open PercentDecoding (IsIdentifier marker_name_front marker_name_identifier)

/-- What SQL consists of. The quotes of a literal are characters of the literal. -/
inductive Lexeme
  | quoted (c : Char)
  | placeholder
  | marker (name : List Char)
  | plain (c : Char)
  deriving DecidableEq

/-- Where a lexer stands between two characters. -/
inductive LexState
  | outside
  /-- Behind a colon and these characters of a name. -/
  | named (name : List Char)
  | inside (quote : Char)
  | escaped (quote : Char)
  /-- Behind a quote that ends the literal, unless the next character doubles it. -/
  | closing (quote : Char)

/-- The characters that open literals, each of which is closed by itself. -/
def isQuote (c : Char) : Bool := c == apostrophe || c == quotationMark || c == backtick

/-- Whether a character goes on with a name: letters and underscores of ASCII, and digits in all
places but the first. -/
def goesOn (name : List Char) (c : Char) : Bool :=
  c.isAlpha || c == '_' || (!name.isEmpty && c.isDigit)

/-- What has been read when a name is over. A colon without a name is a character. -/
def marked (name : List Char) : List Lexeme :=
  if name.isEmpty then [.plain ':'] else [.marker name]

/-- Reads a character outside of literals and names. -/
def enter (c : Char) : LexState × List Lexeme :=
  if isQuote c then (.inside c, [.quoted c])
  else if c = '?' then (.outside, [.placeholder])
  else if c = ':' then (.named [], [])
  else (.outside, [.plain c])

/-- Reads one character. Names in backticks know neither backslashes nor doubled backticks. -/
def step : LexState → Char → LexState × List Lexeme
  | .outside, c => enter c
  | .named name, c =>
    if goesOn name c then (.named (name ++ [c]), [])
    else ((enter c).1, marked name ++ (enter c).2)
  | .inside quote, c =>
    if c = quote then (if quote = backtick then .outside else .closing quote, [.quoted c])
    else if c = backslash ∧ quote ≠ backtick then (.escaped quote, [.quoted c])
    else (.inside quote, [.quoted c])
  | .escaped quote, c => (.inside quote, [.quoted c])
  | .closing quote, c => if c = quote then (.inside quote, [.quoted c]) else enter c

/-- Reads to the end, which must not be inside a literal. -/
def lexFrom : LexState → List Char → Option (List Lexeme)
  | .outside, [] | .closing _, [] => some []
  | .named name, [] => some (marked name)
  | .inside _, [] | .escaped _, [] => none
  | state, c :: rest => (lexFrom (step state c).1 rest).map ((step state c).2 ++ ·)

/-- The lexemes of SQL, if it does not end inside a literal. -/
def lex (sql : String) : Option (List Lexeme) := lexFrom .outside sql.toList

/-- The characters of SQL that a lexeme stands for. -/
def source : Lexeme → List Char
  | .quoted c | .plain c => [c]
  | .placeholder => ['?']
  | .marker name => ':' :: name

/-- What a lexeme is rendered as for some bound markers. Literals are copied but for percent signs,
and so is everything outside that is no placeholder and no bound marker. -/
def rendered (bound : List String) : Lexeme → List Char
  | .quoted c | .plain c => if c = '%' then ['%', '%'] else [c]
  | .placeholder => if bound = [] then ['%', 's'] else ['?']
  | .marker name =>
    if String.ofList (':' :: name) ∈ bound then '%' :: '(' :: name ++ [')', 's'] else ':' :: name

theorem lex_cons (state : LexState) (c : Char) (rest : List Char) :
    lexFrom state (c :: rest) =
      (lexFrom (step state c).1 rest).map ((step state c).2 ++ ·) := by
  cases state <;> rfl

/-! ## A lexer loses nothing -/

/-- What a lexer has read and not yet given out. -/
def pending : LexState → List Char
  | .named name => ':' :: name
  | _ => []

theorem marked_source (name : List Char) : (marked name).flatMap source = ':' :: name := by
  cases name with
  | nil => rfl
  | cons c name => simp [marked, source]

theorem enter_source (c : Char) : (enter c).2.flatMap source ++ pending (enter c).1 = [c] := by
  unfold enter
  split
  · rfl
  · split
    · rename_i mark
      subst mark
      rfl
    · split
      · rename_i colon
        subst colon
        rfl
      · rfl

theorem step_source (state : LexState) (c : Char) :
    (step state c).2.flatMap source ++ pending (step state c).1 = pending state ++ [c] := by
  cases state with
  | outside => exact enter_source c
  | named name =>
    simp only [step]
    split
    · rfl
    · rw [List.flatMap_append, marked_source, List.append_assoc, enter_source]
      rfl
  | inside quote =>
    simp only [step]
    split
    · split <;> rfl
    · split <;> rfl
  | escaped quote => rfl
  | closing quote =>
    simp only [step]
    split
    · rfl
    · exact enter_source c

/-- The lexemes spell what was read. -/
theorem lex_source (lexed : lexFrom state text = some lexemes) :
    lexemes.flatMap source = pending state ++ text := by
  induction text generalizing state lexemes with
  | nil =>
    rw [List.append_nil]
    cases state with
    | outside => cases lexed; rfl
    | named name => cases lexed; exact marked_source name
    | inside quote => cases lexed
    | escaped quote => cases lexed
    | closing quote => cases lexed; rfl
  | cons c rest ih =>
    rw [lex_cons] at lexed
    obtain ⟨later, read, rfl⟩ := Option.map_eq_some_iff.mp lexed
    rw [List.flatMap_append, ih read, ← List.append_assoc, step_source, List.append_assoc]
    rfl

/-! ## Literals -/

/-- A literal is over when its quote is not doubled. -/
theorem lex_closed (ended : quote ∉ text.head?) :
    lexFrom (.closing quote) text = lexFrom .outside text := by
  cases text with
  | nil => rfl
  | cons c rest =>
    have other : c ≠ quote := fun same => ended (by rw [same]; rfl)
    have entered : step (.closing quote) c = step .outside c := by simp only [step, if_neg other]
    rw [lex_cons, lex_cons, entered]

theorem step_other (other : c ≠ quote) (plain : c ≠ backslash ∨ quote = backtick) :
    step (.inside quote) c = (.inside quote, [.quoted c]) := by
  have unescaped : ¬ (c = backslash ∧ quote ≠ backtick) := by
    rintro ⟨escape, spelt⟩
    rcases plain with plain | named
    · exact plain escape
    · exact spelt named
  simp only [step, if_neg other, if_neg unescaped]

/-- What a lexer reads of a literal that was opened: so many characters of it, and then the rest. -/
def ReadsLiteral (length : Nat) (text : List Char) (lexemes : List Lexeme) : Prop :=
  ∃ later, lexFrom .outside (text.drop length) = some later ∧
    lexemes = (text.take length).map .quoted ++ later

theorem ReadsLiteral.more (reads : ReadsLiteral length text lexemes) (c : Char) :
    ReadsLiteral (length + 1) (c :: text) (.quoted c :: lexemes) := by
  obtain ⟨later, read, rfl⟩ := reads
  exact ⟨later, read, rfl⟩

/-- A step that gives out a character of a literal gives out nothing else. -/
theorem lex_quoted (stepped : step state c = (next, [.quoted c]))
    (lexed : lexFrom state (c :: rest) = some lexemes) :
    ∃ later, lexFrom next rest = some later ∧ lexemes = .quoted c :: later := by
  rw [lex_cons, stepped] at lexed
  obtain ⟨later, read, rfl⟩ := Option.map_eq_some_iff.mp lexed
  exact ⟨later, read, rfl⟩

/-- Looking ahead finds the end of a literal where a lexer leaves it. -/
theorem quoted_ends (strict : quote ≠ backslash) (spelt : quote ≠ backtick)
    (lexed : lexFrom (.inside quote) text = some lexemes) :
    ∃ length, quotedLength? quote text = some length ∧ ReadsLiteral length text lexemes := by
  have close : step (.inside quote) quote = (.closing quote, [.quoted quote]) := by
    simp [step, spelt]
  have escape : step (.inside quote) backslash = (.escaped quote, [.quoted backslash]) := by
    simp [step, Ne.symm strict, spelt]
  have double : step (.closing quote) quote = (.inside quote, [.quoted quote]) := by
    simp [step]
  fun_induction quotedLength? quote text generalizing lexemes with
  | case1 => cases lexed
  | case2 =>
    obtain ⟨later, read, rfl⟩ := lex_quoted close lexed
    exact ⟨1, rfl, later, read, rfl⟩
  | case3 c other =>
    by_cases slash : c = backslash
    · subst slash
      obtain ⟨later, read, -⟩ := lex_quoted escape lexed
      cases read
    · obtain ⟨later, read, -⟩ := lex_quoted (step_other other (.inl slash)) lexed
      cases read
  | case4 next rest ih =>
    obtain ⟨later, read, rfl⟩ := lex_quoted escape lexed
    obtain ⟨after, inner, rfl⟩ := lex_quoted rfl read
    obtain ⟨length, found, reads⟩ := ih inner
    rw [found]
    exact ⟨length + 2, rfl, (reads.more next).more backslash⟩
  | case5 rest length found _ ih =>
    obtain ⟨later, read, rfl⟩ := lex_quoted close lexed
    obtain ⟨after, inner, rfl⟩ := lex_quoted double read
    obtain ⟨same, again, reads⟩ := ih inner
    rw [found] at again
    cases again
    exact ⟨length + 2, rfl, (reads.more quote).more quote⟩
  | case6 rest missing _ ih =>
    -- Without an end behind it, a doubled quote would leave the lexer inside.
    obtain ⟨later, read, rfl⟩ := lex_quoted close lexed
    obtain ⟨after, inner, rfl⟩ := lex_quoted double read
    obtain ⟨length, found, -⟩ := ih inner
    rw [missing] at found
    cases found
  | case7 next rest other =>
    obtain ⟨later, read, rfl⟩ := lex_quoted close lexed
    have ended : quote ∉ (next :: rest).head? := fun same => other (Option.some.inj same)
    rw [lex_closed ended] at read
    exact ⟨1, rfl, later, read, rfl⟩
  | case8 c next rest plain other ih =>
    obtain ⟨later, read, rfl⟩ := lex_quoted (step_other other (.inl plain)) lexed
    obtain ⟨length, found, reads⟩ := ih read
    rw [found]
    exact ⟨length + 1, rfl, reads.more c⟩

/-- A name in backticks ends at the next backtick. -/
theorem backtick_ends (lexed : lexFrom (.inside backtick) text = some lexemes) :
    ∃ length, backtickLength? text = some length ∧ ReadsLiteral length text lexemes := by
  have close : step (.inside backtick) backtick = (.outside, [.quoted backtick]) := by
    simp [step]
  induction text generalizing lexemes with
  | nil => cases lexed
  | cons c rest ih =>
    by_cases last : c = backtick
    · subst last
      obtain ⟨later, read, rfl⟩ := lex_quoted close lexed
      exact ⟨1, by simp [backtickLength?], later, read, rfl⟩
    · obtain ⟨later, read, rfl⟩ := lex_quoted (step_other last (.inr rfl)) lexed
      obtain ⟨length, found, reads⟩ := ih read
      exact ⟨length + 1, by simp [backtickLength?, last, found], reads.more c⟩

/-- What a quote opens ends where a lexer leaves it. -/
theorem literal_ends (opens : isQuote c = true)
    (lexed : lexFrom (.inside c) rest = some lexemes) :
    ∃ length, literalLength? c rest = some length ∧ ReadsLiteral length rest lexemes := by
  unfold literalLength?
  by_cases strict : c = apostrophe ∨ c = quotationMark
  · rw [if_pos strict]
    rcases strict with rfl | rfl
    · exact quoted_ends (by decide) (by decide) lexed
    · exact quoted_ends (by decide) (by decide) lexed
  · have spelt : c = backtick := by
      simpa [isQuote, or_assoc, not_or.mp strict] using opens
    subst spelt
    rw [if_neg strict, if_pos rfl]
    exact backtick_ends lexed

/-- Nothing but a quote opens a literal. -/
theorem literal_unopened (plain : isQuote c = false) (rest : List Char) :
    literalLength? c rest = none := by
  have others : ¬ (c = apostrophe ∨ c = quotationMark) ∧ c ≠ backtick := by
    simpa [isQuote, or_assoc, not_or, and_assoc] using plain
  rw [literalLength?, if_neg others.1, if_neg others.2]

/-! ## Markers -/

/-- Behind the last character of a name a lexer goes on as if there had been none. -/
theorem lex_named (ended : ∀ c ∈ text.head?, goesOn name c = false) :
    lexFrom (.named name) text = (lexFrom .outside text).map (marked name ++ ·) := by
  cases text with
  | nil => simp [lexFrom]
  | cons c rest =>
    have ends : goesOn name c = false := ended c rfl
    have stepped : step (.named name) c = ((enter c).1, marked name ++ (enter c).2) := by
      simp [step, ends]
    rw [lex_cons, lex_cons, stepped, step, Option.map_map]
    simp [Function.comp_def, List.append_assoc]

private theorem goes_on_started (started : name ≠ []) (c : Char) : goesOn name c = isNameChar c := by
  cases name with
  | nil => exact absurd rfl started
  | cons first name =>
    simp only [goesOn, isNameChar, Char.isAlphanum, List.isEmpty_cons, Bool.not_false,
      Bool.true_and]
    cases c.isAlpha <;> cases c.isDigit <;> simp

/-- A lexer that has begun a name takes all characters that go on with it. -/
theorem lex_name (started : name ≠ []) (text : List Char) :
    lexFrom (.named name) text =
      (lexFrom .outside (text.dropWhile isNameChar)).map
        (marked (name ++ text.takeWhile isNameChar) ++ ·) := by
  induction text generalizing name with
  | nil => simp [lexFrom]
  | cons c rest ih =>
    cases kept : isNameChar c with
    | true =>
      have stepped : step (.named name) c = (.named (name ++ [c]), []) := by
        simp [step, goes_on_started started, kept]
      rw [lex_cons, stepped, ih (by simp), Option.map_map]
      simp [kept, Function.comp_def]
    | false =>
      have ended : ∀ d ∈ (c :: rest).head?, goesOn name d = false := by
        intro d front
        cases front
        rw [goes_on_started started, kept]
      rw [lex_named ended]
      simp [kept]

/-- Behind a colon, a lexer reads the name that is found by looking ahead. -/
theorem lex_marker (text : List Char) :
    lexFrom (.named []) text =
      (lexFrom .outside (text.drop (markerName text).length)).map
        (marked (markerName text) ++ ·) := by
  cases text with
  | nil => rfl
  | cons c rest =>
    have first : goesOn [] c = isNameStart c := by simp [goesOn, isNameStart]
    cases starts : isNameStart c with
    | true =>
      have stepped : step (.named []) c = (.named [c], []) := by simp [step, first, starts]
      have dropped : rest.drop (rest.takeWhile isNameChar).length = rest.dropWhile isNameChar := by
        have whole := List.takeWhile_append_dropWhile (p := isNameChar) (l := rest)
        calc rest.drop (rest.takeWhile isNameChar).length
            = (rest.takeWhile isNameChar ++ rest.dropWhile isNameChar).drop
                (rest.takeWhile isNameChar).length := by rw [whole]
          _ = rest.dropWhile isNameChar := List.drop_left
      rw [lex_cons, stepped, lex_name (List.cons_ne_nil _ _)]
      simp [markerName, starts, dropped, Function.comp_def]
    | false =>
      have ended : ∀ d ∈ (c :: rest).head?, goesOn [] d = false := by
        intro d front
        cases front
        rw [first, starts]
      rw [lex_named ended]
      simp [markerName, starts]

/-! ## Rendering -/

/-- What is still inside a literal is escaped, and rendering goes on behind it. -/
theorem render_inside (bound : List (List Char)) (inside : Nat) (text : List Char) :
    renderFrom bound inside 0 text =
      (text.take inside).flatMap escape ++ renderFrom bound 0 0 (text.drop inside) := by
  induction text generalizing inside with
  | nil => cases inside <;> simp [renderFrom]
  | cons c rest ih =>
    cases inside with
    | zero => simp
    | succ inside => simp [renderFrom, ih inside]

/-- Rendering passes over what is already written. -/
theorem render_skipped (bound : List (List Char)) (skipped : Nat) (text : List Char) :
    renderFrom bound 0 skipped text = renderFrom bound 0 0 (text.drop skipped) := by
  induction text generalizing skipped with
  | nil => cases skipped <;> simp [renderFrom]
  | cons c rest ih =>
    cases skipped with
    | zero => rfl
    | succ skipped => simp [renderFrom, ih skipped]

/-- A character that means nothing is copied. -/
theorem render_plain (bound : List (List Char)) (unquoted : isQuote c = false) (noMark : c ≠ '?')
    (noColon : c ≠ ':') (rest : List Char) :
    renderFrom bound 0 0 (c :: rest) = escape c ++ renderFrom bound 0 0 rest := by
  simp [renderFrom, literal_unopened unquoted, noMark, noColon]

private theorem name_char_plain (named : isNameChar c = true) :
    isQuote c = false ∧ c ≠ '?' ∧ c ≠ ':' ∧ c ≠ '%' := by
  have apart (d : Char) (special : isNameChar d = false) : c ≠ d := by
    rintro rfl
    rw [named] at special
    cases special
  refine ⟨?_, apart '?' (by decide), apart ':' (by decide), apart '%' (by decide)⟩
  simp [isQuote, apart apostrophe (by decide), apart quotationMark (by decide),
    apart backtick (by decide)]

/-- The characters of a name are copied. -/
theorem render_name (bound : List (List Char)) (named : ∀ c ∈ name, isNameChar c = true)
    (rest : List Char) :
    renderFrom bound 0 0 (name ++ rest) = name ++ renderFrom bound 0 0 rest := by
  induction name with
  | nil => rfl
  | cons c name ih =>
    obtain ⟨here, later⟩ := List.forall_mem_cons.mp named
    obtain ⟨unquoted, noMark, noColon, noPercent⟩ := name_char_plain here
    rw [List.cons_append, render_plain bound unquoted noMark noColon, ih later, escape,
      if_neg noPercent]
    rfl

private theorem marker_name_chars (text : List Char) :
    ∀ c ∈ markerName text, isNameChar c = true := by
  cases name : markerName text with
  | nil => exact nofun
  | cons first rest =>
    have identifier : IsIdentifier (first :: rest) :=
      name ▸ marker_name_identifier (name ▸ List.cons_ne_nil first rest)
    obtain ⟨starts, later⟩ := identifier
    intro c member
    rcases List.mem_cons.mp member with rfl | inside
    · rcases starts with letter | underscore
      · simp [isNameChar, Char.isAlphanum, letter]
      · simp [isNameChar, underscore]
    · simpa [isNameChar] using later c inside

private theorem bound_marker_iff (bound : List String) (name : List Char) :
    ':' :: name ∈ bound.map String.toList ↔ String.ofList (':' :: name) ∈ bound := by
  simp only [List.mem_map]
  constructor
  · rintro ⟨marker, member, same⟩
    rwa [← same, String.ofList_toList]
  · intro member
    exact ⟨_, member, String.toList_ofList⟩

/-- A colon is rendered together with the name behind it, if it has one. -/
theorem render_marker (bound : List String) (rest : List Char) :
    renderFrom (bound.map String.toList) 0 0 (':' :: rest) =
      (marked (markerName rest)).flatMap (rendered bound) ++
        renderFrom (bound.map String.toList) 0 0 (rest.drop (markerName rest).length) := by
  have colon : literalLength? ':' rest = none := literal_unopened (by decide) rest
  have copied := render_name (bound.map String.toList) (marker_name_chars rest)
    (rest.drop (markerName rest).length)
  rw [marker_name_front] at copied
  by_cases unnamed : markerName rest = []
  · simp [renderFrom, colon, unnamed, marked, rendered, escape]
  · have given : (marked (markerName rest)) = [.marker (markerName rest)] := by
      simp [marked, unnamed]
    by_cases known : String.ofList (':' :: markerName rest) ∈ bound
    · have found := (bound_marker_iff bound (markerName rest)).mpr known
      have conversion : rendered bound (.marker (markerName rest)) =
          '%' :: '(' :: markerName rest ++ [')', 's'] := if_pos known
      simp [renderFrom, colon, unnamed, found, given, conversion,
        render_skipped _ (markerName rest).length]
    · have missing := mt (bound_marker_iff bound (markerName rest)).mp known
      have copy : rendered bound (.marker (markerName rest)) = ':' :: markerName rest :=
        if_neg known
      simp [renderFrom, colon, unnamed, missing, given, copy, escape, copied]

theorem render_mark (bound : List String) (rest : List Char) :
    renderFrom (bound.map String.toList) 0 0 ('?' :: rest) =
      rendered bound .placeholder ++ renderFrom (bound.map String.toList) 0 0 rest := by
  have unopened : literalLength? '?' rest = none := literal_unopened (by decide) rest
  by_cases unbound : bound = []
  · subst unbound
    simp [renderFrom, unopened, rendered]
  · simp [renderFrom, unopened, rendered, unbound]

/-- A literal is rendered as its characters. -/
theorem render_literal (bound : List String) (opens : literalLength? c rest = some length) :
    renderFrom (bound.map String.toList) 0 0 (c :: rest) =
      ((c :: rest.take length).map Lexeme.quoted).flatMap (rendered bound) ++
        renderFrom (bound.map String.toList) 0 0 (rest.drop length) := by
  have plain : escape c = [c] := if_neg (opening_char opens).1
  have inside := render_inside (bound.map String.toList) length rest
  have escaped (text : List Char) :
      (text.map Lexeme.quoted).flatMap (rendered bound) = text.flatMap escape := by
    rw [List.flatMap_map]
    rfl
  rw [escaped, List.flatMap_cons, plain]
  simp [renderFrom, opens, inside]

/-- From outside of literals, what is rendered are the lexemes. -/
theorem render_lexed (bound : List String) (lexed : lexFrom .outside text = some lexemes) :
    renderFrom (bound.map String.toList) 0 0 text = lexemes.flatMap (rendered bound) := by
  -- A literal or a marker is passed as a whole, so the induction is on the length.
  induction size : text.length using Nat.strongRecOn generalizing text lexemes with
  | ind size ih =>
    subst size
    cases text with
    | nil =>
      cases lexed
      rfl
    | cons c rest =>
      have later {text : List Char} {lexemes : List Lexeme}
          (shorter : text.length ≤ rest.length) (read : lexFrom .outside text = some lexemes) :=
        ih text.length (Nat.lt_succ_of_le shorter) read rfl
      rw [lex_cons, step] at lexed
      obtain ⟨others, read, rfl⟩ := Option.map_eq_some_iff.mp lexed
      by_cases quote : isQuote c = true
      · simp only [enter, if_pos quote] at read ⊢
        obtain ⟨length, opens, after, behind, rfl⟩ := literal_ends quote read
        rw [render_literal bound opens, later (by simp) behind]
        simp
      · by_cases mark : c = '?'
        · simp only [enter, if_neg quote, if_pos mark] at read ⊢
          subst mark
          rw [render_mark, later (Nat.le_refl _) read]
          rfl
        · by_cases colon : c = ':'
          · simp only [enter, if_neg quote, if_neg mark, if_pos colon] at read ⊢
            subst colon
            rw [lex_marker] at read
            obtain ⟨after, behind, rfl⟩ := Option.map_eq_some_iff.mp read
            rw [render_marker, later (by simp) behind]
            simp
          · simp only [enter, if_neg quote, if_neg mark, if_neg colon] at read ⊢
            have unquoted : isQuote c = false := by simpa using quote
            rw [render_plain _ unquoted mark colon, later (Nat.le_refl _) read]
            simp [rendered, escape]

/-- Rendering follows a lexer that reads the SQL once. If it does not end inside a literal, the SQL
is rendered lexeme by lexeme: literals are copied, a placeholder becomes a conversion if no marker
is bound, a bound marker becomes a conversion with its name, everything else is copied, and percent
signs are doubled throughout. The lexemes spell all of the SQL. -/
theorem rendering_follows_lexer (sql : String) (bound : List String) (lexemes : List Lexeme)
    (lexed : lex sql = some lexemes) :
    lexemes.flatMap source = sql.toList ∧
      render sql bound = String.ofList (lexemes.flatMap (rendered bound)) := by
  constructor
  · exact lex_source lexed
  · rw [render, render_lexed bound lexed]

/-- Neither a doubled quote nor an escaped one ends a literal; the marker and the percent sign
behind the literal are outside of it. -/
theorem rendering_follows_lexer_past_quotes :
    lex "'a''?\\'' = :a%" = some ("'a''?\\''".toList.map .quoted ++
        [.plain ' ', .plain '=', .plain ' ', .marker ['a'], .plain '%']) ∧
      render "'a''?\\'' = :a%" [":a"] = "'a''?\\'' = %(a)s%%" := by
  have lexed : lex "'a''?\\'' = :a%" = some ("'a''?\\''".toList.map .quoted ++
      [.plain ' ', .plain '=', .plain ' ', .marker ['a'], .plain '%']) := by rfl
  have follows := (rendering_follows_lexer "'a''?\\'' = :a%" [":a"] _ lexed).2
  exact ⟨lexed, follows.trans (by rfl)⟩

end SqlTemplate.OnePassLexing
