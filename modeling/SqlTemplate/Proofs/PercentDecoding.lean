import SqlTemplate.Proofs.PercentFormat

/-! Rendering for percent signs can be undone. Whatever quotes, percent signs and texts that look
like conversions the SQL has, a reader finds the items again that were written, and putting back
what each of them stands for gives the SQL. -/
namespace SqlTemplate.PercentDecoding
open PercentMarkers PercentFormat

/-- How an item of a format is written. -/
def written : FormatItem → List Char
  | .char c => escape c
  | .positional => ['%', 's']
  | .named name => '%' :: '(' :: name ++ [')', 's']

/-- The characters of SQL that an item stands for. -/
def source : FormatItem → List Char
  | .char c => [c]
  | .positional => ['?']
  | .named name => ':' :: name

/-- A letter or an underscore of ASCII, followed by letters, digits and underscores. -/
def IsIdentifier : List Char → Prop
  | [] => False
  | c :: rest => (c.isAlpha ∨ c = '_') ∧ ∀ d ∈ rest, d.isAlphanum ∨ d = '_'

/-- What may be written where some markers are bound: places only if there are no markers, and a
name only if it is the identifier of one of them. -/
def Allowed (bound : List (List Char)) : FormatItem → Prop
  | .char _ => True
  | .positional => bound = []
  | .named name => IsIdentifier name ∧ ':' :: name ∈ bound

/-! ## Names -/

theorem marker_name_identifier (named : markerName text ≠ []) : IsIdentifier (markerName text) := by
  cases text with
  | nil => exact absurd rfl named
  | cons c rest =>
    by_cases start : isNameStart c = true
    · rw [markerName, if_pos start]
      refine ⟨by simpa [isNameStart] using start, fun d member => ?_⟩
      have kept : isNameChar d = true := List.all_eq_true.mp List.all_takeWhile d member
      simpa [isNameChar] using kept
    · exact absurd (if_neg start) named

theorem marker_name_front (text : List Char) :
    markerName text ++ text.drop (markerName text).length = text := by
  have front : markerName text <+: text := by
    cases text with
    | nil => exact List.prefix_refl []
    | cons c rest =>
      rw [markerName]
      split
      · exact (List.prefix_cons_inj c).mpr (List.takeWhile_prefix isNameChar)
      · exact List.nil_prefix
  exact List.prefix_iff_eq_append.mp front

/-- No identifier holds what closes the parentheses around it. -/
theorem identifier_unclosed (identifier : IsIdentifier name) : ')' ∉ name := by
  cases name with
  | nil => exact List.not_mem_nil
  | cons c rest =>
    obtain ⟨start, later⟩ := identifier
    intro member
    rcases List.mem_cons.mp member with rfl | inside
    · exact absurd start (by decide)
    · exact absurd (later ')' inside) (by decide)

/-! ## Reading what was written -/

theorem read_name (before : List Char) (unclosed : ')' ∉ name) (rest : List Char) :
    readFrom (.opened before) (name ++ ')' :: rest) = readFrom (.closed (before ++ name)) rest := by
  induction name generalizing before with
  | nil => simp [readFrom]
  | cons c name ih =>
    obtain ⟨other, later⟩ := List.ne_and_not_mem_of_not_mem_cons unclosed
    rw [List.cons_append, readFrom, if_neg (Ne.symm other), ih (before ++ [c]) later,
      List.append_assoc, List.singleton_append]

theorem read_named (unclosed : ')' ∉ name) (rest : List Char) :
    readFrom .text (written (.named name) ++ rest) =
      (readFrom .text rest).map (.named name :: ·) := by
  have opened : readFrom .text (written (.named name) ++ rest) =
      readFrom (.opened []) (name ++ ')' :: 's' :: rest) := by
    simp [written, readFrom]
  rw [opened, read_name [] unclosed]
  simp [readFrom]

/-- A written item is read as itself, whatever comes after it. -/
theorem read_written_item (allowed : Allowed bound item) (rest : List Char) :
    readFrom .text (written item ++ rest) = (readFrom .text rest).map (item :: ·) := by
  cases item with
  | char c => exact read_escape c rest
  | positional => exact read_placeholder rest
  | named name => exact read_named (identifier_unclosed allowed.1) rest

theorem read_written (allowed : ∀ item ∈ items, Allowed bound item) :
    readFrom .text (items.flatMap written) = some items := by
  induction items with
  | nil => rfl
  | cons item items ih =>
    have later := ih fun item member => allowed item (List.mem_cons_of_mem _ member)
    rw [List.flatMap_cons, read_written_item (allowed item List.mem_cons_self), later]
    rfl

/-! ## What rendering writes -/

/-- A text that is rendered as some items, which are allowed and stand for all of it. -/
def RenderedAs (bound : List (List Char)) (text format : List Char) : Prop :=
  ∃ items : List FormatItem, format = items.flatMap written ∧ items.flatMap source = text ∧
    ∀ item ∈ items, Allowed bound item

theorem rendered_cons (item : FormatItem) (allowed : Allowed bound item)
    (rest : RenderedAs bound text format) :
    RenderedAs bound (source item ++ text) (written item ++ format) := by
  obtain ⟨items, made, whole, each⟩ := rest
  refine ⟨item :: items, ?_, ?_, ?_⟩
  · rw [List.flatMap_cons, ← made]
  · rw [List.flatMap_cons, whole]
  · exact List.forall_mem_cons.mpr ⟨allowed, each⟩

theorem rendered_char (c : Char) (rest : RenderedAs bound text format) :
    RenderedAs bound (c :: text) (escape c ++ format) :=
  rendered_cons (.char c) trivial rest

/-- A bound marker stands for its colon and its name, so rendering goes on after the name. -/
theorem rendered_marker (named : markerName text ≠ []) (known : ':' :: markerName text ∈ bound)
    (rest : RenderedAs bound (text.drop (markerName text).length) format) :
    RenderedAs bound (':' :: text) ('%' :: '(' :: markerName text ++ ')' :: 's' :: format) := by
  have item := rendered_cons (.named (markerName text))
    ⟨marker_name_identifier named, known⟩ rest
  simpa [source, written, marker_name_front] using item

/-- From any place on, rendering writes items that stand for the text from there on, less what is
already written of a marker. -/
theorem render_from_rendered (bound : List (List Char)) (inside skipped : Nat)
    (text : List Char) :
    RenderedAs bound (text.drop skipped) (renderFrom bound inside skipped text) := by
  -- Both counters are free: an opened literal sets the first, a written marker the second.
  induction text generalizing inside skipped with
  | nil =>
    refine ⟨[], ?_, by simp, nofun⟩
    cases inside <;> cases skipped <;> rfl
  | cons c rest ih =>
    cases skipped with
    | succ skipped => exact ih inside skipped
    | zero =>
      cases inside with
      | succ inside => exact rendered_char c (ih inside 0)
      | zero =>
        simp only [renderFrom, List.drop_zero]
        split
        · rename_i length opens
          have opening := rendered_char c (ih length 0)
          rwa [escape, if_neg (opening_char opens).1] at opening
        · split
          · rename_i mark
            subst mark
            split
            · rename_i none
              exact rendered_cons .positional (List.isEmpty_iff.mp none) (ih 0 0)
            · exact rendered_char '?' (ih 0 0)
          · by_cases colon : c = ':'
            · subst colon
              simp only [↓reduceIte]
              split
              · rename_i marked
                exact rendered_marker marked.1 (List.contains_iff_mem.mp marked.2) (ih 0 _)
              · exact rendered_char ':' (ih 0 0)
            · simpa [colon] using rendered_char c (ih 0 0)

/-- Rendered SQL can be read: every percent sign starts a doubled percent sign or a conversion.
What is read stands for the SQL as it was, to the character. Without bound markers there is no
conversion with a name, and with bound markers there is none without; each name is the identifier
of a bound marker. -/
theorem rendering_is_undone (sql : String) (bound : List String) :
    ∃ items, readFormat (render sql bound) = some items ∧
      (render sql bound).toList = items.flatMap written ∧
      String.ofList (items.flatMap source) = sql ∧
      (bound = [] → ∀ name, .named name ∉ items) ∧
      (bound ≠ [] → .positional ∉ items) ∧
      ∀ name, .named name ∈ items → IsIdentifier name ∧ String.ofList (':' :: name) ∈ bound := by
  obtain ⟨items, made, whole, allowed⟩ :=
    render_from_rendered (bound.map String.toList) 0 0 sql.toList
  have named (name : List Char) (member : .named name ∈ items) :
      IsIdentifier name ∧ String.ofList (':' :: name) ∈ bound := by
    obtain ⟨identifier, known⟩ := allowed _ member
    obtain ⟨marker, there, same⟩ := List.mem_map.mp known
    rw [← same, String.ofList_toList]
    exact ⟨identifier, there⟩
  have format : (render sql bound).toList = items.flatMap written := by
    rw [render, String.toList_ofList, made]
  refine ⟨items, ?_, format, ?_, ?_, ?_, named⟩
  · rw [readFormat, format]
    exact read_written allowed
  · rw [whole, List.drop_zero, String.ofList_toList]
  · rintro rfl name member
    exact List.not_mem_nil (named name member).2
  · intro given place
    exact given (List.map_eq_nil_iff.mp (allowed _ place))

/-- A marker in quotes and one that is not bound are text, and so is all after an apostrophe that
is never closed. -/
example : render "':a' = :a OR :ab LIKE '5%s" [":a"] = "':a' = %(a)s OR :ab LIKE '5%%s" := by rfl

end SqlTemplate.PercentDecoding
