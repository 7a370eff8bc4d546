import SqlTemplate.Proofs.ShapeIndependence
import SqlTemplate.Proofs.UniqueCutting

/-! What filling sees of segments is their outline: the text of the literals, in whatever pieces it
comes, and the kinds of the tokens. Where tokens stand, how they are written and what number they
have decides nothing but the words of an error. -/
namespace SqlTemplate.SegmentOutlines
open Template Compilation CompilerHistory TemplateCutting ShapeIndependence UniqueCutting
open Outcomes

/-- Segments of the same outline. Tokens need only be of the same kind, and a literal may come in
two pieces. -/
inductive SameOutline : List Segment → List Segment → Prop where
  | done : SameOutline [] []
  | literal (rest : SameOutline pieces others) :
      SameOutline (.literal text :: pieces) (.literal text :: others)
  | split (rest : SameOutline pieces others) :
      SameOutline (.literal (front ++ back) :: pieces) (.literal front :: .literal back :: others)
  | token (kind : token.kind = other.kind) (rest : SameOutline pieces others) :
      SameOutline (.token token :: pieces) (.token other :: others)

/-- Pieces of a cutting have the same outline wherever they are placed. -/
theorem place_outline (rest : List (Mark × List Char)) (position ordinal place number : Nat) :
    SameOutline (Template.place position ordinal rest) (Template.place place number rest) := by
  induction rest generalizing position ordinal place number with
  | nil => exact .done
  | cons piece rest ih => exact .token rfl (.literal (ih _ _ _ _))

theorem outline_count (same : SameOutline pieces others) :
    (tokens pieces).length = (tokens others).length := by
  induction same with
  | done => rfl
  | literal _ ih => exact ih
  | split _ ih => exact ih
  | token _ _ ih => exact congrArg Nat.succ ih

/-- A token is filled by its kind alone. If it has none, it is named in the error. -/
theorem fill_token_kind (template : String) (kind : token.kind = other.kind) (value : Value) :
    Alike (errorClass template) Eq (fillToken token value) (fillToken other value) := by
  cases known : other.kind with
  | none =>
    have unknown (token : Token) : errorClass template (.unknownToken token) =
        ErrorClass.malformedTemplate.name := about_name _ _ _
    simp only [fillToken, kind, known]
    exact .refused ((unknown token).trans (unknown other).symm)
  | some found =>
    have same : fillToken token value = fillToken other value := by
      unfold fillToken
      rw [kind, known]
      cases found <;> rfl
    rw [same]
    cases fillToken other value with
    | error fault => exact .refused rfl
    | ok piece => exact .succeeded rfl

/-- Segments of the same outline are filled with the same SQL and the same entries, or refused for
faults of one class. -/
theorem fill_outline (template : String) (same : SameOutline pieces others)
    (arguments : List Value) :
    Alike (errorClass template) Eq (fill pieces arguments) (fill others arguments) := by
  induction same generalizing arguments with
  | done => exact .succeeded rfl
  | literal _ ih => exact alike_map (ih arguments) fun _ _ rest => congrArg _ rest
  | @split pieces others front back _ ih =>
    have twice : fill (.literal front :: .literal back :: others) arguments =
        (fill others arguments).map fun more =>
          (Piece.text front).append ((Piece.text back).append more) := by
      rw [fill, fill]
      cases fill others arguments <;> rfl
    rw [twice]
    refine alike_map (ih arguments) ?_
    rintro more _ rfl
    simp only [Piece.append, Piece.text, String.append_assoc, List.nil_append]
  | @token pieces others token other kind _ ih =>
    cases arguments with
    | nil =>
      have few (count given : Nat) : errorClass template (.tooFewArguments count given) =
          ErrorClass.missingParameter.name := about_name _ _ _
      exact .refused ((few _ _).trans (few _ _).symm)
    | cons value arguments =>
      have here := fill_token_kind template kind value
      have later := ih arguments
      simp only [fill]
      generalize fillToken token value = first at here
      generalize fillToken other value = second at here
      cases here with
      | refused same => exact .refused same
      | succeeded same =>
        refine alike_map later ?_
        rintro more _ rfl
        rw [same]

/-- Segments that stand one after the other, with arguments for the tokens of both, are filled one
after the other. -/
theorem fill_append (counted : arguments.length = (tokens pieces).length)
    (front : fill pieces arguments = .ok first) (back : fill others more = .ok second) :
    fill (pieces ++ others) (arguments ++ more) = .ok (first.append second) := by
  induction pieces generalizing arguments first with
  | nil =>
    cases List.length_eq_zero_iff.mp counted
    cases front
    simp only [List.nil_append, back, Piece.append, Piece.text, String.empty_append]
  | cons head pieces ih =>
    cases head with
    | literal text =>
      obtain ⟨rest, filled, rfl⟩ := map_ok_iff.mp front
      have joined := ih counted filled
      simp only [List.cons_append, fill, joined, Except.map, Piece.append, String.append_assoc,
        List.append_assoc]
    | token token =>
      cases arguments with
      | nil => cases counted
      | cons value arguments =>
        simp only [fill] at front
        cases own : fillToken token value with
        | error fault => simp [own] at front
        | ok piece =>
          rw [own] at front
          obtain ⟨rest, filled, rfl⟩ := map_ok_iff.mp front
          have joined := ih (Nat.succ.inj counted) filled
          simp only [List.cons_append, fill, own, joined, Except.map, Piece.append,
            String.append_assoc, List.append_assoc]

end SqlTemplate.SegmentOutlines
