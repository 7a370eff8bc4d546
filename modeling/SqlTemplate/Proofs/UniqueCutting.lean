import SqlTemplate.Proofs.TemplateCutting

/-! A template has one cutting. What a list of literals and tokens must be like to be the cutting of
a template is said without cutting anything: how tokens are written, that they end where nothing
more belongs to them, and where they stand. The segments of the template are the only such list. -/
namespace SqlTemplate.UniqueCutting
open Template TemplateCutting

/-- The characters that can follow the question mark of a token. -/
def kindChars : List Char := "asifhjwrqbnASIFHJWRQBN|".toList ++ ['\u0130', '\u0131', '\u017F']

/-- Those of them that are of no kind. -/
def kindless : List Char := ['|', '\u0130', '\u0131', '\u017F']

/-- Literals and tokens in turn, with a literal at both ends. -/
inductive Alternating : List Segment → Prop where
  | last : Alternating [.literal text]
  | token (rest : Alternating pieces) : Alternating (.literal text :: .token token :: pieces)

/-- The characters of a piece. -/
def chars : Segment → List Char
  | .literal text => text.toList
  | .token token => token.text.toList

/-- The text that pieces make one after the other. -/
def joined (pieces : List Segment) : List Char := pieces.flatMap chars

/-- At most one kind character follows the question mark, and then digits. -/
structure WellWritten (mark : Mark) : Prop where
  letter : ∀ c ∈ mark.letter, c ∈ kindChars
  digits : ∀ c ∈ mark.digits, c.isDigit = true

/-- Nothing at the front of a text belongs to the token before it: no digit and, if the token is a
question mark alone, no kind character. -/
structure EndsBefore (mark : Mark) (text : List Char) : Prop where
  digit : ∀ next ∈ text.head?, next.isDigit = false
  letter : mark.letter = none → mark.digits = [] → ∀ next ∈ text.head?, next ∉ kindChars

/-- A token is of the kind whose letter is its kind character in lower case, or of the kind without
a letter if it has no such character. Some characters are of no kind. -/
structure KindOf (mark : Mark) (kind : Option TokenKind) : Prop where
  known : ∀ known, kind = some known ↔ known.letters = mark.letter.toList.map Char.toLower
  unknown : kind = none ↔ ∃ c ∈ mark.letter, c ∈ kindless

/-- A token as it stands between the pieces before it and the pieces after it. -/
structure Stands (before : List Segment) (token : Token) (after : List Segment) : Prop where
  written : ∃ mark : Mark, token.text.toList = mark.chars ∧ WellWritten mark ∧
    EndsBefore mark (joined after) ∧ KindOf mark token.kind
  position : token.position = (joined before).length
  ordinal : token.ordinal = (tokens before).length

/-- What the cutting of a template is. -/
structure CutOf (template : String) (pieces : List Segment) : Prop where
  alternating : Alternating pieces
  whole : joined pieces = template.toList
  clean : ∀ text, .literal text ∈ pieces → '?' ∉ text.toList
  stands : ∀ before token after, pieces = before ++ .token token :: after →
    Stands before token after

/-! ## Kind characters -/

/-- Only the capitals of ASCII are moved by lower case, and all by the same distance. -/
theorem to_lower_code (c : Char) :
    c.toLower.toNat = if 65 ≤ c.toNat ∧ c.toNat ≤ 90 then c.toNat + 32 else c.toNat := by
  unfold Char.toLower
  simp only [ge_iff_le, UInt32.le_iff_toNat_le, Char.toNat]
  split
  · rename_i capital
    have first : 'A'.val.toNat = 65 := rfl
    have last : 'Z'.val.toNat = 90 := rfl
    have distance : ('a'.val - 'A'.val).toNat = 32 := rfl
    rw [if_pos (by omega), UInt32.toNat_add]
    omega
  · rename_i other
    exact (if_neg other).symm

private theorem mem_codes (c : Char) (letters : List Char) :
    c ∈ letters ↔ c.toNat ∈ letters.map Char.toNat := by
  simp only [List.mem_map, Char.toNat_inj, exists_eq_right]

theorem kind_char_iff (c : Char) : isKindChar c = true ↔ c ∈ kindChars := by
  have lower := to_lower_code c
  have bar : c = '|' ↔ c.toNat = 124 := Char.toNat_inj.symm
  have small : "asifhjwrqbn".toList.map Char.toNat =
      [97, 115, 105, 102, 104, 106, 119, 114, 113, 98, 110] := by decide
  have all : kindChars.map Char.toNat =
      [97, 115, 105, 102, 104, 106, 119, 114, 113, 98, 110,
        65, 83, 73, 70, 72, 74, 87, 82, 81, 66, 78, 124, 0x130, 0x131, 0x17F] := by decide
  simp only [isKindChar, List.contains_eq_mem, Bool.or_eq_true, decide_eq_true_eq, beq_iff_eq,
    mem_codes _ kindChars, mem_codes _ "asifhjwrqbn".toList, small, all, List.mem_cons,
    List.not_mem_nil, or_false, bar]
  split at lower <;> omega

theorem kind_char_bounds : ∀ c ∈ kindChars, c.isDigit = false ∧ c ≠ '?' := by
  have each : kindChars.all (fun c => !c.isDigit && c != '?') = true := by decide
  simpa using each

theorem kindless_iff : ∀ c ∈ kindChars, (TokenKind.ofLetters? [c] = none ↔ c ∈ kindless) := by
  have each : kindChars.all (fun c =>
      (TokenKind.ofLetters? [c]).isNone == kindless.contains c) = true := by decide
  intro c member
  have same := List.all_eq_true.mp each c member
  rw [beq_iff_eq, Bool.eq_iff_iff] at same
  simpa using same

theorem of_letters_iff (letters : List Char) (kind : TokenKind) :
    TokenKind.ofLetters? letters = some kind ↔ kind.letters = letters.map Char.toLower := by
  unfold TokenKind.ofLetters?
  constructor
  · intro found
    simpa using List.find?_some found
  · intro same
    rw [← same]
    cases kind <;> rfl

theorem mark_kind_known (mark : Mark) (known : TokenKind) :
    mark.kind = some known ↔ known.letters = mark.letter.toList.map Char.toLower :=
  of_letters_iff mark.letter.toList known

/-- What is said of the kind of a token leaves one kind. -/
theorem KindOf.eq (kind : KindOf mark found) : found = mark.kind :=
  Option.ext fun known => (kind.known known).trans (mark_kind_known mark known).symm

theorem mark_kind (written : WellWritten mark) : KindOf mark mark.kind := by
  refine ⟨mark_kind_known mark, ?_⟩
  unfold Mark.kind
  cases letter : mark.letter with
  | none => simp [TokenKind.ofLetters?, TokenKind.all, TokenKind.letters]
  | some c => simpa using kindless_iff c (written.letter c letter)

/-! ## Where a token ends -/

theorem EndsBefore.front (ends : EndsBefore mark (text ++ more)) : EndsBefore mark text := by
  cases text with
  | nil => exact ⟨by simp, by simp⟩
  | cons c text => exact ⟨ends.digit, ends.letter⟩

/-- The next token does not belong to the one before it. -/
theorem EndsBefore.before_token (ends : EndsBefore mark text) :
    EndsBefore mark (text ++ '?' :: more) := by
  cases text with
  | nil =>
    refine ⟨?_, fun _ _ => ?_⟩ <;> rintro next ⟨⟩
    · rfl
    · exact fun member => (kind_char_bounds '?' member).2 rfl
  | cons c text => exact ⟨ends.digit, ends.letter⟩

/-- A token takes what is its own and ends where nothing more is. -/
theorem munch_ends (text : List Char) :
    WellWritten (munch text).1 ∧ EndsBefore (munch text).1 (munch text).2 := by
  have digits (rest : List Char) : ∀ c ∈ rest.takeWhile Char.isDigit, c.isDigit = true :=
    List.all_eq_true.mp List.all_takeWhile
  have stops (rest : List Char) : ∀ next ∈ (rest.dropWhile Char.isDigit).head?,
      next.isDigit = false := by
    intro next front
    have stopped := List.head?_dropWhile_not Char.isDigit rest
    rw [Option.mem_def.mp front] at stopped
    exact stopped
  cases text with
  | nil => exact ⟨⟨by simp [munch, spanLetter], digits []⟩, ⟨stops [], by simp [munch, spanLetter]⟩⟩
  | cons c rest =>
    cases letter : isKindChar c with
    | true =>
      simp only [munch, spanLetter, letter, ↓reduceIte]
      refine ⟨⟨?_, digits rest⟩, ⟨stops rest, by simp⟩⟩
      rintro d ⟨⟩
      exact (kind_char_iff c).mp letter
    | false =>
      simp only [munch, spanLetter, letter, Bool.false_eq_true, ↓reduceIte]
      refine ⟨⟨by simp, digits (c :: rest)⟩, ⟨stops (c :: rest), fun _ bare next front => ?_⟩⟩
      -- Without digits nothing is dropped, so what follows is the character itself.
      have whole := List.takeWhile_append_dropWhile (p := Char.isDigit) (l := c :: rest)
      have undigited : (c :: rest).takeWhile Char.isDigit = [] := bare
      rw [undigited, List.nil_append] at whole
      rw [whole] at front
      cases front
      rw [← kind_char_iff, letter]
      exact Bool.false_ne_true

private theorem span_letter_mark (written : WellWritten mark) (ends : EndsBefore mark text) :
    spanLetter (mark.letter.toList ++ mark.digits ++ text) =
      (mark.letter, mark.digits ++ text) := by
  have other {c : Char} (other : c ∉ kindChars) : isKindChar c = false := by
    rwa [← Bool.not_eq_true, kind_char_iff]
  cases letter : mark.letter with
  | some c =>
    have own := (kind_char_iff c).mpr (written.letter c letter)
    simp [spanLetter, own]
  | none =>
    cases digits : mark.digits with
    | cons d digits =>
      have digit := written.digits d (digits ▸ List.mem_cons_self)
      have none : isKindChar d = false :=
        other fun member => by simp [(kind_char_bounds d member).1] at digit
      simp [spanLetter, none]
    | nil =>
      cases text with
      | nil => rfl
      | cons c text => simp [spanLetter, other (ends.letter letter digits c rfl)]

/-- A token that ends before a text is all that is taken in front of it. -/
theorem munch_mark (written : WellWritten mark) (ends : EndsBefore mark text) :
    munch (mark.letter.toList ++ mark.digits ++ text) = (mark, text) := by
  have taken : text.takeWhile Char.isDigit = [] ∧ text.dropWhile Char.isDigit = text := by
    cases text with
    | nil => exact ⟨rfl, rfl⟩
    | cons c text => simp [ends.digit c rfl]
  simp only [munch, span_letter_mark written ends, List.takeWhile_append_of_pos written.digits,
    List.dropWhile_append_of_pos written.digits, taken, List.append_nil]

/-! ## Cutting a text that is put together -/

theorem cut_behind (clean : '?' ∉ text) (more : List Char) :
    cut (text ++ more) = { cut more with first := text ++ (cut more).first } := by
  induction text with
  | nil => rfl
  | cons c text ih =>
    simp only [List.mem_cons, not_or] at clean
    simp only [List.cons_append, cut, Ne.symm clean.1, ↓reduceIte, ih clean.2]

/-- A token with the literal after it, as it is in a cutting. -/
structure Fits (piece : Mark × List Char) : Prop where
  written : WellWritten piece.1
  ends : EndsBefore piece.1 piece.2
  clean : '?' ∉ piece.2

theorem mark_clean (written : WellWritten mark) : '?' ∉ mark.letter.toList ++ mark.digits := by
  intro member
  rcases List.mem_append.mp member with letter | digit
  · exact (kind_char_bounds '?' (written.letter '?' (Option.mem_toList.mp letter))).2 rfl
  · exact absurd (written.digits '?' digit) (by decide)

/-- Pieces that fit are found again in the text that they make. -/
theorem cut_whole_text (clean : '?' ∉ first) (fit : ∀ piece ∈ rest, Fits piece) :
    cut (wholeText { first := first, rest := rest }) = { first := first, rest := rest } := by
  induction rest generalizing first with
  | nil => simpa [wholeText, cut] using cut_behind clean []
  | cons piece rest ih =>
    obtain ⟨mark, literal⟩ := piece
    obtain ⟨own, others⟩ := List.forall_mem_cons.mp fit
    have behind : wholeText { first := first, rest := (mark, literal) :: rest } =
        first ++ '?' :: ((mark.letter.toList ++ mark.digits) ++
          wholeText { first := literal, rest := rest }) := by
      simp [wholeText, Mark.chars]
    have token : cut ('?' :: ((mark.letter.toList ++ mark.digits) ++
          wholeText { first := literal, rest := rest })) =
        { first := [], rest := (mark, literal) :: rest } := by
      rw [cut, cut_behind (mark_clean own.written), ih own.clean others]
      simp only [↓reduceIte, munch_mark own.written own.ends]
    rw [behind, cut_behind clean, token, List.append_nil]

theorem cut_fits (text : List Char) : ∀ piece ∈ (cut text).rest, Fits piece := by
  induction text with
  | nil => simp [cut]
  | cons c text ih =>
    by_cases mark : c = '?'
    · simp only [cut, mark, ↓reduceIte, List.forall_mem_cons]
      obtain ⟨written, ends⟩ := munch_ends (cut text).first
      exact ⟨⟨written, ends, munch_clean (cut_clean text).1⟩, ih⟩
    · simp only [cut, mark, ↓reduceIte]
      exact ih

/-! ## Cuttings and segments -/

@[simp] theorem chars_literal (text : String) : chars (.literal text) = text.toList := rfl

@[simp] theorem chars_token (token : Token) : chars (.token token) = token.text.toList := rfl

@[simp] theorem joined_nil : joined [] = [] := rfl

@[simp] theorem joined_cons (piece : Segment) (pieces : List Segment) :
    joined (piece :: pieces) = chars piece ++ joined pieces :=
  List.flatMap_cons

@[simp] theorem joined_append (pieces more : List Segment) :
    joined (pieces ++ more) = joined pieces ++ joined more :=
  List.flatMap_append

@[simp] theorem tokens_append (pieces more : List Segment) :
    tokens (pieces ++ more) = tokens pieces ++ tokens more :=
  List.filterMap_append

theorem joined_place (position ordinal : Nat) (rest : List (Mark × List Char)) :
    joined (place position ordinal rest) = rest.flatMap fun piece => piece.1.chars ++ piece.2 := by
  induction rest generalizing position ordinal with
  | nil => rfl
  | cons piece rest ih => simp [place, ih]

theorem place_alternates (text : String) (position ordinal : Nat) (rest : List (Mark × List Char)) :
    Alternating (.literal text :: place position ordinal rest) := by
  induction rest generalizing text position ordinal with
  | nil => exact .last
  | cons piece rest ih => exact .token (ih _ _ _)

theorem EndsBefore.before_place (ends : EndsBefore mark text) (position ordinal : Nat)
    (rest : List (Mark × List Char)) :
    EndsBefore mark (text ++ joined (place position ordinal rest)) := by
  rw [joined_place]
  cases rest with
  | nil => rwa [List.flatMap_nil, List.append_nil]
  | cons piece rest => exact ends.before_token

/-- Placed pieces stand where they were placed, behind whatever was placed before them. -/
theorem place_stands (done : List Segment) (fit : ∀ piece ∈ rest, Fits piece)
    (split : place (joined done).length (tokens done).length rest =
      before ++ .token token :: after) :
    Stands (done ++ before) token after := by
  induction rest generalizing done before with
  | nil => simp [place] at split
  | cons piece rest ih =>
    obtain ⟨mark, literal⟩ := piece
    obtain ⟨own, others⟩ := List.forall_mem_cons.mp fit
    cases before with
    | nil =>
      simp only [place, List.nil_append, List.cons.injEq, Segment.token.injEq] at split
      obtain ⟨rfl, rfl⟩ := split
      rw [List.append_nil]
      refine ⟨⟨mark, String.toList_ofList, own.written, ?_, mark_kind own.written⟩, rfl, rfl⟩
      rw [joined_cons, chars_literal, String.toList_ofList]
      exact own.ends.before_place _ _ rest
    | cons first before =>
      cases before with
      | nil => simp [place] at split
      | cons second before =>
        simp only [place, List.cons_append, List.cons.injEq] at split
        obtain ⟨rfl, rfl, split⟩ := split
        let placed : List Segment :=
          [.token ⟨mark.kind, String.ofList mark.chars, (joined done).length, (tokens done).length⟩,
            .literal (String.ofList literal)]
        have later : Stands (done ++ placed ++ before) token after :=
          ih (done ++ placed) others (by simpa [placed, Nat.add_assoc] using split)
        simpa [placed] using later

theorem segments_cut (template : String) : CutOf template (segments template) where
  alternating := place_alternates _ _ _ _
  whole := by
    rw [segments, joined_cons, joined_place, chars_literal, String.toList_ofList]
    exact cut_text template.toList
  clean _ member := literal_clean member
  stands before token after split := by
    cases before with
    | nil => simp [segments] at split
    | cons first before =>
      simp only [segments, List.cons_append, List.cons.injEq] at split
      obtain ⟨rfl, split⟩ := split
      exact place_stands [_] (cut_fits template.toList) (by simpa using split)

private theorem token_of_parts {token : Token} (written : token.text.toList = mark.chars)
    (kind : KindOf mark token.kind) (position : token.position = before)
    (ordinal : token.ordinal = number) :
    token = ⟨mark.kind, String.ofList mark.chars, before, number⟩ := by
  cases token
  simp only [Token.mk.injEq]
  exact ⟨kind.eq, by rw [← written, String.ofList_toList], position, ordinal⟩

/-- Pieces that stand as they should, behind some that are done, are placed pieces. -/
theorem placed_of_stands (done : List Segment) (alternating : Alternating pieces)
    (clean : ∀ text, .literal text ∈ pieces → '?' ∉ text.toList)
    (stands : ∀ before token after, pieces = before ++ .token token :: after →
      Stands (done ++ before) token after) :
    ∃ first rest, pieces = .literal (String.ofList first) ::
        place (joined done ++ first).length (tokens done).length rest ∧
      '?' ∉ first ∧ ∀ piece ∈ rest, Fits piece := by
  induction alternating generalizing done with
  | @last text =>
    exact ⟨text.toList, [], by simp [place], clean text List.mem_cons_self, by simp⟩
  | @token pieces text token others ih =>
    obtain ⟨⟨mark, written, well, ends, kind⟩, position, ordinal⟩ :=
      stands [.literal text] token pieces rfl
    obtain ⟨literal, rest, rfl, bare, fit⟩ := ih (done ++ [.literal text, .token token])
      (fun text member => clean text (by simp [member]))
      (fun before later after split => by
        have whole := stands (.literal text :: .token token :: before) later after (by simp [split])
        simpa using whole)
    refine ⟨text.toList, (mark, literal) :: rest, ?_, clean text List.mem_cons_self, ?_⟩
    · have own := token_of_parts written kind position ordinal
      simp only [place, String.ofList_toList, List.cons.injEq, Segment.token.injEq, true_and]
      exact ⟨by simpa using own, by simp [written, Nat.add_assoc]⟩
    · refine List.forall_mem_cons.mpr ⟨⟨well, ?_, bare⟩, fit⟩
      rw [joined_cons, chars_literal, String.toList_ofList] at ends
      exact ends.front

/-- A template is cut in one way: its segments are the only list of literals and tokens that is a
cutting of it. -/
theorem cutting_is_unique (template : String) (pieces : List Segment) :
    CutOf template pieces ↔ pieces = segments template := by
  constructor
  · intro cutting
    obtain ⟨first, rest, placed, clean, fit⟩ :=
      placed_of_stands [] cutting.alternating cutting.clean cutting.stands
    have whole : wholeText { first := first, rest := rest } = template.toList := by
      have same := cutting.whole
      rw [placed, joined_cons, joined_place, chars_literal, String.toList_ofList] at same
      exact same
    have found := cut_whole_text clean fit
    rw [whole] at found
    simpa [segments, found] using placed
  · rintro rfl
    exact segments_cut template

example : segments "?7s?|" =
    [.literal "", .token ⟨some .standard, "?7", 0, 0⟩, .literal "s", .token ⟨none, "?|", 3, 1⟩,
      .literal ""] := by decide

end SqlTemplate.UniqueCutting
