import SqlTemplate.Template.Token

/-! Cutting a template loses nothing, leaves no question mark in a literal, and numbers the tokens
in the order in which they stand. Arguments are found by those numbers. -/
namespace SqlTemplate.TemplateCutting
open Template

/-- The text that a cut was made from. -/
def wholeText (pieces : Cut) : List Char :=
  pieces.first ++ pieces.rest.flatMap fun piece => piece.1.chars ++ piece.2

/-- No literal of a cut has a question mark. -/
def CleanLiterals (pieces : Cut) : Prop :=
  '?' ∉ pieces.first ∧ ∀ piece ∈ pieces.rest, '?' ∉ piece.2

theorem span_letter_text (text : List Char) :
    (spanLetter text).1.toList ++ (spanLetter text).2 = text := by
  cases text with
  | nil => rfl
  | cons c rest =>
    simp only [spanLetter]
    split <;> rfl

/-- What a token does not take stays behind it. -/
theorem munch_text (text : List Char) :
    (munch text).1.chars ++ (munch text).2 = '?' :: text := by
  have letter := span_letter_text text
  simp only [munch, Mark.chars, List.cons_append, List.append_assoc,
    List.takeWhile_append_dropWhile]
  rw [letter]

theorem munch_clean (clean : '?' ∉ text) : '?' ∉ (munch text).2 := by
  have parts := munch_text text
  rw [Mark.chars, List.cons_append, List.cons_append, List.cons.injEq] at parts
  intro member
  apply clean
  rw [← parts.2]
  exact List.mem_append_right _ member

/-- Cutting loses no character and moves none. -/
theorem cut_text (text : List Char) : wholeText (cut text) = text := by
  induction text with
  | nil => rfl
  | cons c text ih =>
    by_cases mark : c = '?'
    · subst mark
      have taken := munch_text (cut text).first
      simp only [cut, ↓reduceIte, wholeText, List.nil_append, List.flatMap_cons]
      rw [taken, List.cons_append]
      exact congrArg ('?' :: ·) ih
    · simp only [cut, mark, ↓reduceIte, wholeText, List.cons_append]
      exact congrArg (c :: ·) ih

/-- Every question mark of a template starts a token. -/
theorem cut_clean (text : List Char) : CleanLiterals (cut text) := by
  induction text with
  | nil => simp [cut, CleanLiterals]
  | cons c text ih =>
    by_cases mark : c = '?'
    · simp only [CleanLiterals, cut, mark, ↓reduceIte, List.not_mem_nil, not_false_eq_true,
        List.mem_cons, forall_eq_or_imp, true_and]
      exact ⟨munch_clean ih.1, ih.2⟩
    · simp only [CleanLiterals, cut, mark, ↓reduceIte, List.mem_cons, not_or]
      exact ⟨⟨Ne.symm mark, ih.1⟩, ih.2⟩

private theorem literal_of_place (member : Segment.literal text ∈ place position ordinal pieces) :
    ∃ piece ∈ pieces, text = String.ofList piece.2 := by
  induction pieces generalizing position ordinal with
  | nil => simp [place] at member
  | cons piece rest ih =>
    simp only [place, List.mem_cons, reduceCtorEq, Segment.literal.injEq, false_or] at member
    rcases member with here | later
    · exact ⟨piece, List.mem_cons_self, here⟩
    · obtain ⟨found, inside, same⟩ := ih later
      exact ⟨found, List.mem_cons_of_mem _ inside, same⟩

/-- No literal of a template has a question mark. -/
theorem literal_clean (member : Segment.literal text ∈ segments template) : '?' ∉ text.toList := by
  have clean := cut_clean template.toList
  simp only [segments, List.mem_cons, Segment.literal.injEq] at member
  rcases member with here | later
  · rw [here, String.toList_ofList]
    exact clean.1
  · obtain ⟨piece, inside, same⟩ := literal_of_place later
    rw [same, String.toList_ofList]
    exact clean.2 piece inside

@[simp] theorem tokens_nil : tokens [] = [] := rfl

@[simp] theorem tokens_literal : tokens (.literal text :: rest) = tokens rest := rfl

@[simp] theorem tokens_token : tokens (.token token :: rest) = token :: tokens rest := rfl

/-- The numbers of the tokens count up from that of the first. -/
theorem place_numbered (pieces : List (Mark × List Char)) (position ordinal : Nat) :
    (tokens (place position ordinal pieces)).map Token.ordinal =
      (List.range' ordinal pieces.length).map Int.ofNat := by
  induction pieces generalizing position ordinal with
  | nil => rfl
  | cons piece rest ih =>
    simp only [place, tokens_token, tokens_literal, List.map_cons, List.length_cons,
      List.range'_succ, ih]
    rfl

/-- Each token has the number of the tokens before it. -/
theorem tokens_numbered (template : String) :
    (tokens (segments template)).map Token.ordinal =
      (List.range (tokens (segments template)).length).map Int.ofNat := by
  have numbered := place_numbered (cut template.toList).rest (cut template.toList).first.length 0
  have count := congrArg List.length numbered
  simp only [List.length_map, List.length_range'] at count
  simp only [segments, tokens_literal, numbered, count, List.range_eq_range']

/-- A template without tokens is one without question marks. -/
theorem no_tokens_iff : tokens (segments template) = [] ↔ '?' ∉ template.toList := by
  have whole := cut_text template.toList
  have clean := cut_clean template.toList
  cases rest : (cut template.toList).rest with
  | nil =>
    rw [wholeText, rest, List.flatMap_nil, List.append_nil] at whole
    simp only [segments, tokens_literal, rest, place, tokens_nil, true_iff]
    exact whole ▸ clean.1
  | cons piece more =>
    rw [wholeText, rest] at whole
    simp only [segments, tokens_literal, rest, place, tokens_token, reduceCtorEq, false_iff,
      Decidable.not_not]
    rw [← whole]
    simp [Mark.chars]

end SqlTemplate.TemplateCutting
