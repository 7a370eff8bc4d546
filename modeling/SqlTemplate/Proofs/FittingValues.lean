import SqlTemplate.Proofs.BindingStyles
import SqlTemplate.Proofs.CoercionFaults

/-! What coercion gives. The values that fit a bind type are said apart from the conversions: with
those that the library brings along, coercion gives the fitting values and no others, and leaves
them as they are. So nothing else is ever bound to a statement. -/
namespace SqlTemplate.FittingValues
open BindingStyles Bindings CoercionFaults Compilation

/-- What stands for truth: truth values, and one and zero for SQLite, which has no truth values. -/
inductive StandsForTruth : Option Coercions → Value → Prop
  | missing : StandsForTruth none (.bool b)
  | usual : StandsForTruth (some .standard) (.bool b)
  | one : StandsForTruth (some .sqlite) (.int 1)
  | zero : StandsForTruth (some .sqlite) (.int 0)

/-- What a bind type asks for. The null type asks for nothing. -/
inductive Asked (coercions : Option Coercions) : BindType → Value → Prop
  | text : Asked coercions .string (.str text)
  | bytes : Asked coercions .string (.bytes .bytes content)
  | bytearray : Asked coercions .string (.bytes .bytearray content)
  | integer : Asked coercions .integer (.int n)
  | truth (stands : StandsForTruth coercions value) : Asked coercions .boolean value

/-- The null value fits every type. -/
def Fits (coercions : Option Coercions) (type : BindType) (value : Value) : Prop :=
  value = .null ∨ Asked coercions type value

theorem null_unasked : ¬Asked coercions type .null := by
  intro asked
  cases asked with
  | truth stands => cases stands

section Coercion
variable {coercions : Option Coercions} {value bound : Value} {type : BindType}

theorem coerce_null (type : BindType) (coercions : Option Coercions) :
    coerce .null type coercions = .ok .null := rfl

/-- A conversion to text gives a text or a byte string. -/
theorem converted_text (converted : Converter.convertTo .string value = .ok text) :
    Asked coercions .string text := by
  rw [Converter.convertTo] at converted
  split at converted
  · rename_i plain
    cases converted
    cases value with
    | str _ => exact .text
    | bytes kind _ =>
      cases kind with
      | bytes => exact .bytes
      | bytearray => exact .bytearray
      | memoryview => cases plain
    | _ => cases plain
  · rw [Value.toText] at converted
    split at converted
    · cases converted
      exact .text
    · cases converted

/-- A value that is given becomes a text, in whichever form dates are written. -/
theorem coerced_string (provided : Provided coercions) (given : value ≠ .null)
    (coerced : coerce value .string coercions = .ok text) : Asked coercions .string text := by
  have applied (converter : Converter)
      (found : Coercions.inForce coercions .string = some converter) :
      converter.apply value = .ok text := by
    rw [coerce_given given found] at coerced
    cases outcome : converter.apply value with
    | error error =>
      rw [outcome] at coerced
      cases coerced
    | ok converted =>
      rw [outcome] at coerced
      exact coerced
  cases provided with
  | missing | usual => exact converted_text (applied (.standard .string) rfl)
  | sqlite =>
    have written := applied .isoText rfl
    rw [Converter.apply] at written
    split at written
    · cases written
      exact .text
    · exact converted_text written

/-- A value that is given becomes what stands for its truth. -/
theorem coerced_boolean (provided : Provided coercions) (given : value ≠ .null) :
    ∃ truth, coerce value .boolean coercions = .ok truth ∧ StandsForTruth coercions truth := by
  cases provided with
  | missing => exact ⟨.bool value.isTruthy, coerce_converted given rfl rfl, .missing⟩
  | usual => exact ⟨.bool value.isTruthy, coerce_converted given rfl rfl, .usual⟩
  | sqlite =>
    refine ⟨.int (if value.isTruthy then 1 else 0), coerce_converted given rfl rfl, ?_⟩
    cases value.isTruthy with
    | true => exact .one
    | false => exact .zero

theorem coerced_null (provided : Provided coercions) (value : Value) :
    coerce value .null coercions = .ok .null := by
  by_cases given : value = .null
  · rw [given, coerce_null]
  · cases provided <;> exact coerce_converted given rfl rfl

/-- What a given value is coerced to is asked for, unless the type is that of null. -/
theorem given_asked (provided : Provided coercions) (given : value ≠ .null)
    (coerced : coerce value type coercions = .ok bound) :
    type = .null ∨ Asked coercions type bound := by
  cases type with
  | string =>
    exact .inr (coerced_string provided given coerced)
  | integer =>
    rw [coerce_integer provided given] at coerced
    cases read : value.toInteger with
    | error kind =>
      rw [read] at coerced
      cases coerced
    | ok n =>
      rw [read] at coerced
      cases coerced
      exact .inr .integer
  | boolean =>
    obtain ⟨truth, same, stands⟩ := coerced_boolean provided given
    cases coerced.symm.trans same
    exact .inr (.truth stands)
  | null => exact .inl rfl

theorem coerced_fits (provided : Provided coercions)
    (coerced : coerce value type coercions = .ok bound) : Fits coercions type bound := by
  by_cases given : value = .null
  · rw [given, coerce_null] at coerced
    cases coerced
    exact .inl rfl
  · rcases given_asked provided given coerced with rfl | asked
    · cases coerced.symm.trans (coerced_null provided value)
      exact .inl rfl
    · exact .inr asked

/-- What fits is bound as it is. -/
theorem fitting_stays (provided : Provided coercions) (fits : Fits coercions type bound) :
    coerce bound type coercions = .ok bound := by
  rcases fits with rfl | asked
  · exact coerce_null type coercions
  · cases asked with
    | truth stands => cases stands <;> rfl
    | text | bytes | bytearray | integer => cases provided <;> rfl

/-- Null comes of the null value and of the null type alone. -/
theorem coerced_to_null_iff (provided : Provided coercions) (value : Value) (type : BindType) :
    coerce value type coercions = .ok .null ↔ value = .null ∨ type = .null := by
  constructor
  · intro coerced
    by_cases given : value = .null
    · exact .inl given
    · rcases given_asked provided given coerced with untyped | asked
      · exact .inr untyped
      · exact absurd asked null_unasked
  · rintro (rfl | rfl)
    · exact coerce_null type coercions
    · exact coerced_null provided value

end Coercion

/-- With the conversions that the library brings along, the values that coercion gives for a bind
type are those that fit it. Coercion leaves these as they are, and gives null for the null value and
the null type alone. -/
theorem coercion_gives_what_fits (provided : Provided coercions) (type : BindType)
    (bound : Value) :
    ((∃ value, coerce value type coercions = .ok bound) ↔ Fits coercions type bound) ∧
    (Fits coercions type bound → coerce bound type coercions = .ok bound) ∧
    ∀ value, coerce value type coercions = .ok .null ↔ value = .null ∨ type = .null := by
  refine ⟨⟨?_, fun fits => ⟨bound, fitting_stays provided fits⟩⟩, fitting_stays provided,
    fun value => coerced_to_null_iff provided value type⟩
  rintro ⟨value, coerced⟩
  exact coerced_fits provided coerced

/-- SQLite is given one for a truth value, and one again for that. -/
theorem truth_is_one_for_sqlite :
    Provided Adapter.sqlite.sessionConfig.statementCoercions ∧
      coerce (.bool true) .boolean Adapter.sqlite.sessionConfig.statementCoercions = .ok (.int 1) ∧
      coerce (.int 1) .boolean Adapter.sqlite.sessionConfig.statementCoercions = .ok (.int 1) := by
  have provided := session_provided .sqlite
  have once : coerce (.bool true) .boolean Adapter.sqlite.sessionConfig.statementCoercions =
    .ok (.int 1) := rfl
  obtain ⟨gives, stays, -⟩ := coercion_gives_what_fits provided .boolean (.int 1)
  exact ⟨provided, once, stays (gives.mp ⟨.bool true, once⟩)⟩

/-! ## Statements -/

/-- All that is bound to a statement. -/
def boundValues (prepared : Prepared) : List Value :=
  prepared.positional.map Prod.snd ++ prepared.named.map Prod.snd

theorem put_value {items : List (Value × Value)} {key : Value}
    (member : other ∈ (Value.put items key value).map Prod.snd) :
    other = value ∨ other ∈ items.map Prod.snd := by
  induction items with
  | nil => exact .inl (List.mem_singleton.mp member)
  | cons item rest ih =>
    rw [Value.put] at member
    split at member
    · rcases List.mem_cons.mp member with new | old
      · exact .inl new
      · exact .inr (List.mem_cons_of_mem _ old)
    · rcases List.mem_cons.mp member with first | later
      · exact .inr (first ▸ List.mem_cons_self)
      · exact (ih later).imp_right (List.mem_cons_of_mem _)

theorem assigned_value {bound : List (String × Value)} {marker : String}
    (member : other ∈ (Prepared.assign bound marker value).map Prod.snd) :
    other = value ∨ other ∈ bound.map Prod.snd := by
  rw [← values_under_markers, ← put_marker] at member
  rw [← values_under_markers]
  exact put_value member

/-- Binding one value adds no other. -/
theorem bound_value (bound : Bound prepared value type key after)
    (member : other ∈ boundValues after) :
    coerce value type prepared.coercions = .ok other ∨ other ∈ boundValues prepared := by
  cases bound with
  | marker coerced unplaced =>
    rcases List.mem_append.mp member with placed | marked
    · exact .inr (List.mem_append_left _ placed)
    · rcases assigned_value marked with rfl | old
      · exact .inl coerced
      · exact .inr (List.mem_append_right _ old)
  | place coerced unmarked inside =>
    rcases List.mem_append.mp member with placed | marked
    · rcases put_value placed with rfl | old
      · exact .inl coerced
      · exact .inr (List.mem_append_left _ old)
    · exact .inr (List.mem_append_right _ marked)

/-- A statement with some conversions, of whose values each fits a bind type. -/
structure HoldsFitting (coercions : Option Coercions) (prepared : Prepared) : Prop where
  conversions : prepared.coercions = coercions
  fitting : ∀ value ∈ boundValues prepared, ∃ type, Fits coercions type value

theorem bound_holds_fitting (provided : Provided coercions) (holds : HoldsFitting coercions prepared)
    (bound : Bound prepared value type key after) : HoldsFitting coercions after := by
  obtain ⟨rfl, fitting⟩ := holds
  refine ⟨by cases bound <;> rfl, fun other member => ?_⟩
  rcases bound_value bound member with coerced | old
  · exact ⟨type, coerced_fits provided coerced⟩
  · exact fitting other old

/-- Whatever calls are made on a new statement, every value that is bound to it fits some bind type.
So no number with a fraction and no collection is ever sent, and for SQLite no truth value. -/
theorem bound_values_fit (provided : Provided coercions) (typeName sql : String)
    (style : MarkerStyle) (calls : List BindCall) :
    ∀ value ∈ boundValues (bindAll (.new typeName style sql coercions) calls),
      ∃ type, Fits coercions type value := by
  have start : HoldsFitting coercions (.new typeName style sql coercions) :=
    ⟨rfl, fun _ member => absurd member List.not_mem_nil⟩
  exact (bind_all_keeps (HoldsFitting coercions) (bound_holds_fitting provided) start calls).fitting

end SqlTemplate.FittingValues
