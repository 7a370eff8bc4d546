import SqlTemplate.Proofs.Bindings
import SqlTemplate.Proofs.WholeNumbers
import SqlTemplate.Session.Adapter

/-! What coercion ends in. With the conversions that the library brings along, what stands for no
integer is reported as a parameter that cannot be bound. Two kinds of values escape the report, in
coercion and in the binding of whole queues: infinite numbers, and values with too many digits to be
written where their text is to be bound or to be shown in the report. -/
namespace SqlTemplate.CoercionFaults
open Number Bindings

/-- The conversions that the library brings along: the usual ones, which are in force also when none
are given, and those for SQLite. -/
inductive Provided : Option Coercions → Prop
  | missing : Provided none
  | usual : Provided (some .standard)
  | sqlite : Provided (some .sqlite)

/-- A session that is given no configuration converts in a way that the library brings along. -/
theorem session_provided (adapter : Adapter) :
    Provided adapter.sessionConfig.statementCoercions := by
  have usual : StatementConfig.standard.statementCoercions = some .standard := rfl
  have sqlite : StatementConfig.sqlite.statementCoercions = some .sqlite := by
    refine congrArg some (funext fun type => ?_)
    cases type <;> rfl
  cases adapter with
  | sqlite => exact sqlite ▸ .sqlite
  | mysql => exact usual ▸ .usual
  | plain => exact usual ▸ .usual

/-- An infinite number, of either type that has them. -/
def IsInfinite : Value → Prop
  | .float (.infinity _) | .decimal (.infinity _) => True
  | _ => False

/-- A value that stands for no integer, though not for being infinite: it is undefined, no numeral,
or neither number nor text. -/
inductive NoInteger : Value → Prop
  | double : NoInteger (.float .nan)
  | decimal : NoInteger (.decimal (.nan negative signaling payload))
  | text (unread : Text.readInteger? Text.isNumeralBlank Text.digit? text.toList = none) :
    NoInteger (.str text)
  | bytes (unread : Text.readInteger? Text.isAsciiBlank Text.asciiDigit?
      (content.map fun b => Char.ofNat b.toNat) = none) :
    NoInteger (.bytes kind content)
  | collection : NoInteger (.collection kind items)
  | range : NoInteger (.range start stop step)
  | mapping : NoInteger (.mapping entries)
  | date : NoInteger (.date day)
  | datetime : NoInteger (.datetime day clock)
  | time : NoInteger (.time clock)
  | object : NoInteger (.object text)

/-- The values whose coercion fails with a fault that no error of the library tells of. -/
inductive Escapes (value : Value) : BindType → FaultKind → Prop
  | infinite (infinite : IsInfinite value) : Escapes value .integer .overflow
  /-- What is bound is the text. -/
  | text (unwritable : value.isWritable = false) : Escapes value .string .badValue
  /-- The report of a value that stands for no integer shows the value. -/
  | report (unreadable : NoInteger value) (unwritable : value.isWritable = false) :
    Escapes value .integer .badValue

/-- The error that tells that a value cannot be bound under a type. -/
def TellsOf (value : Value) (type : BindType) : Error → Prop
  | .library error => error.cls = .parameter ∧
      error.detail = .str ("Cannot bind " ++ value.literal ++ " as " ++ type.text)
  | .fault _ => False

/-! ## Integers -/

theorem infinite_overflows (infinite : IsInfinite value) : value.toInteger = .error .overflow := by
  unfold IsInfinite at infinite
  split at infinite
  · rfl
  · rfl
  · cases infinite

theorem no_integer_unsuitable (unreadable : NoInteger value) :
    ∃ kind, value.toInteger = .error kind ∧ kind.isUnsuitable = true := by
  cases unreadable with
  | text unread | bytes unread => exact ⟨.badValue, by rw [Value.toInteger, unread]; rfl, rfl⟩
  | double | decimal => exact ⟨.badValue, rfl, rfl⟩
  | _ => exact ⟨.wrongType, rfl, rfl⟩

theorem infinite_or_no_integer (value : Value) (given : value ≠ .null)
    (refused : value.toInteger = .error kind) : IsInfinite value ∨ NoInteger value := by
  cases value with
  | null => exact absurd rfl given
  | bool _ | int _ => cases refused
  | float x =>
    cases x with
    | nan => exact .inr .double
    | infinity _ => exact .inl trivial
    | finite _ _ _ => cases refused
  | decimal x =>
    cases x with
    | nan _ _ _ => exact .inr .decimal
    | infinity _ => exact .inl trivial
    | finite negative coefficient exponent =>
      simp only [Value.toInteger, Decimal.truncate?] at refused
      split at refused <;> cases refused
  | str text =>
    refine .inr (.text ?_)
    rw [Value.toInteger] at refused
    cases read : Text.readInteger? Text.isNumeralBlank Text.digit? text.toList with
    | none => rfl
    | some n => rw [read] at refused; cases refused
  | bytes _ content =>
    refine .inr (.bytes ?_)
    rw [Value.toInteger] at refused
    cases read : Text.readInteger? Text.isAsciiBlank Text.asciiDigit?
        (content.map fun b => Char.ofNat b.toNat) with
    | none => rfl
    | some n => rw [read] at refused; cases refused
  | collection _ _ => exact .inr .collection
  | range _ _ _ => exact .inr .range
  | mapping _ => exact .inr .mapping
  | date _ => exact .inr .date
  | datetime _ _ => exact .inr .datetime
  | time _ => exact .inr .time
  | object _ => exact .inr .object

/-! ## Coercion -/

section Coercion
variable {coercions : Option Coercions} {value : Value} {type : BindType}

/-- A value that is given becomes what the conversion in force makes of it. -/
theorem coerce_given (given : value ≠ .null)
    (found : Coercions.inForce coercions type = some converter) :
    coerce value type coercions = (converter.apply value).mapError (coercionError value type) := by
  cases value with
  | null => exact absurd rfl given
  | _ => simp only [coerce, found]

theorem coerce_converted (given : value ≠ .null)
    (found : Coercions.inForce coercions type = some converter)
    (converted : converter.apply value = .ok bound) :
    coerce value type coercions = .ok bound := by
  rw [coerce_given given found, converted]
  rfl

/-- Truth values and nulls are made of any value. -/
theorem others_are_bound (provided : Provided coercions) (value : Value)
    (other : type = .boolean ∨ type = .null) :
    ∃ bound, coerce value type coercions = .ok bound := by
  by_cases given : value = .null
  · exact ⟨.null, by rw [given]; rfl⟩
  · rcases other with rfl | rfl <;> cases provided <;> exact ⟨_, coerce_converted given rfl rfl⟩

/-- What can be written is bound as a text. -/
theorem writable_is_bound (provided : Provided coercions) (writable : value.isWritable = true) :
    ∃ bound, coerce value .string coercions = .ok bound := by
  have converted : ∃ text, Converter.convertTo .string value = .ok text := by
    simp only [Converter.convertTo, Value.toText, writable, ↓reduceIte]
    cases Converter.bindsAsText value <;> exact ⟨_, rfl⟩
  obtain ⟨text, converted⟩ := converted
  by_cases given : value = .null
  · exact ⟨.null, by rw [given]; rfl⟩
  · cases provided with
    | missing | usual => exact ⟨text, coerce_converted given rfl converted⟩
    | sqlite =>
      cases dated : value.isoText? with
      | some iso => exact ⟨.str iso, coerce_converted given rfl (by rw [Converter.apply, dated])⟩
      | none =>
        exact ⟨text, coerce_converted given rfl (by rw [Converter.apply, dated, converted])⟩

/-- What cannot be written is neither bound as it is nor written in a form of its own. -/
theorem unwritable_plain (unwritable : value.isWritable = false) :
    value ≠ .null ∧ Converter.bindsAsText value = false ∧ value.isoText? = none := by
  cases value with
  | int _ | collection _ _ | range _ _ _ | mapping _ => exact ⟨nofun, rfl, rfl⟩
  | _ => cases unwritable

theorem cannot_report (unwritable : value.isWritable = false) (type : BindType) (cause : Fault) :
    cannotBind value type cause = .ofKind .badValue := by
  simp only [cannotBind, Value.toLiteral, unwritable, Bool.false_eq_true, ↓reduceIte]

/-- The fault of a text that cannot be had is not reported, since the report would show the value.
-/
theorem unwritable_escapes (provided : Provided coercions) (unwritable : value.isWritable = false) :
    coerce value .string coercions = .error (.ofKind .badValue) := by
  obtain ⟨given, unbound, timeless⟩ := unwritable_plain unwritable
  have refused : Converter.convertTo .string value = .error (.ofKind .badValue) := by
    simp only [Converter.convertTo, unbound, Value.toText, unwritable, Bool.false_eq_true,
      ↓reduceIte]
    rfl
  have reported : coercionError value .string (.ofKind .badValue) = .ofKind .badValue := by
    rw [Error.ofKind, coercionError, cannot_report unwritable]
    rfl
  cases provided with
  | missing | usual =>
    rw [coerce_given given rfl, Converter.apply, refused, Except.mapError, reported]
  | sqlite =>
    rw [coerce_given given rfl, Converter.apply, timeless]
    simp only [refused, Except.mapError, reported]

/-- Integers are coerced alike by all conversions that the library brings along. -/
theorem coerce_integer (provided : Provided coercions) (given : value ≠ .null) :
    coerce value .integer coercions =
      ((value.toInteger.map .int).mapError .ofKind).mapError (coercionError value .integer) := by
  have found : Coercions.inForce coercions .integer = some (.standard .integer) := by
    cases provided <;> rfl
  exact coerce_given given found

theorem infinite_escapes (provided : Provided coercions) (infinite : IsInfinite value) :
    coerce value .integer coercions = .error (.ofKind .overflow) := by
  have given : value ≠ .null := by
    rintro rfl
    exact infinite
  rw [coerce_integer provided given, infinite_overflows infinite]
  rfl

theorem no_integer_given (unreadable : NoInteger value) : value ≠ .null := by
  rintro rfl
  cases unreadable

/-- What stands for no integer is reported, if it can be shown. -/
theorem no_integer_reported (provided : Provided coercions) (unreadable : NoInteger value) :
    ∃ cause, coerce value .integer coercions = .error (cannotBind value .integer cause) := by
  obtain ⟨kind, refused, unsuitable⟩ := no_integer_unsuitable unreadable
  refine ⟨.of kind, ?_⟩
  rw [coerce_integer provided (no_integer_given unreadable), refused]
  simp only [Except.map, Except.mapError, Error.ofKind, coercionError, Fault.of, unsuitable,
    ↓reduceIte]

theorem no_integer_is_told (provided : Provided coercions) (unreadable : NoInteger value)
    (writable : value.isWritable = true) :
    ∃ error, coerce value .integer coercions = .error error ∧ TellsOf value .integer error := by
  obtain ⟨cause, refused⟩ := no_integer_reported provided unreadable
  refine ⟨_, refused, ?_⟩
  simp only [cannotBind, Value.toLiteral, writable, ↓reduceIte]
  exact ⟨rfl, rfl⟩

/-- What escapes leaves with its own fault. -/
theorem escape_leaves (provided : Provided coercions) (escapes : Escapes value type kind) :
    coerce value type coercions = .error (.ofKind kind) := by
  cases escapes with
  | infinite infinite => exact infinite_escapes provided infinite
  | text unwritable => exact unwritable_escapes provided unwritable
  | report unreadable unwritable =>
    obtain ⟨cause, refused⟩ := no_integer_reported provided unreadable
    rw [refused, cannot_report unwritable]

/-- A value is bound, told of or escapes. -/
inductive Outcome (coercions : Option Coercions) (value : Value) (type : BindType) : Prop
  | bound (fits : coerce value type coercions = .ok bound)
  | told (integer : type = .integer) (unreadable : NoInteger value)
      (writable : value.isWritable = true)
  | escapes (escapes : Escapes value type kind)

theorem coercion_outcome (provided : Provided coercions) (value : Value) (type : BindType) :
    Outcome coercions value type := by
  cases type with
  | string =>
    cases writable : value.isWritable with
    | false => exact .escapes (.text writable)
    | true =>
      obtain ⟨bound, fits⟩ := writable_is_bound provided writable
      exact .bound fits
  | integer =>
    by_cases given : value = .null
    · have fits : coerce value .integer coercions = .ok .null := by rw [given]; rfl
      exact .bound fits
    · cases read : value.toInteger with
      | ok n =>
        have fits : coerce value .integer coercions = .ok (.int n) := by
          rw [coerce_integer provided given, read]
          rfl
        exact .bound fits
      | error kind =>
        rcases infinite_or_no_integer value given read with infinite | unreadable
        · exact .escapes (.infinite infinite)
        · cases writable : value.isWritable with
          | false => exact .escapes (.report unreadable writable)
          | true => exact .told rfl unreadable writable
  | boolean =>
    obtain ⟨bound, fits⟩ := others_are_bound provided value (.inl rfl)
    exact .bound fits
  | null =>
    obtain ⟨bound, fits⟩ := others_are_bound provided value (.inr rfl)
    exact .bound fits

end Coercion

/-! ## Queues -/

def IsParameterError : Error → Prop
  | .library error => error.cls = .parameter
  | .fault _ => False

theorem TellsOf.parameter_error (told : TellsOf value type error) : IsParameterError error := by
  cases error with
  | library error => exact told.1
  | fault cause => cases told

/-- Entries that are bound by place, or by a marker that is a text. -/
def Addressed (queue : Queue) : Prop :=
  ∀ entry ∈ queue, entry.marker = .null ∨ ∃ name, entry.marker = .str name

/-- A place that is refused is zero, which can be shown. -/
theorem place_refused {place : Nat} (under : (Value.int place).isBelow 1 = .ok true)
    (sql : String) :
    IsParameterError (Prepared.badPosition (.int place) sql) := by
  simp only [Value.isBelow, WholeNumbers.order_int, Except.map, Except.ok.injEq, beq_iff_eq,
    Option.some.injEq, Int.compare_eq_lt] at under
  obtain rfl : place = 0 := by omega
  exact rfl

/-- The key of an entry that is bound by place is a place, so a value that is refused is refused
for itself or for what was bound before. -/
theorem entry_refusal {prepared : Prepared} {place : Nat} {entry : BindEntry}
    (addressed : entry.marker = .null ∨ ∃ name, entry.marker = .str name)
    (refused : prepared.bind (Prepared.keyOf place entry) entry.value entry.type = .error error) :
    coerce entry.value entry.type prepared.coercions = .error error ∨ IsParameterError error := by
  cases unbound_of_error refused with
  | unfit refused => exact .inl refused
  | mixed _ => exact .inr rfl
  | below under =>
    obtain bare | ⟨name, marked⟩ := addressed
    · simp only [Prepared.keyOf, bare] at under ⊢
      exact .inr (place_refused under prepared.sql)
    · simp only [Prepared.keyOf, marked] at under
      cases under
  | disordered untitled unordered =>
    obtain bare | ⟨name, marked⟩ := addressed
    · simp only [Prepared.keyOf, bare, Value.isBelow, WholeNumbers.order_int] at unordered
      cases unordered
    · exact absurd (by simp only [Prepared.keyOf, marked]) (untitled name)

theorem queue_refusal {prepared : Prepared} (provided : Provided prepared.coercions)
    (addressed : Addressed queue) (refused : (prepared.bindQueue place queue).1 = .error error) :
    IsParameterError error ∨
      ∃ entry ∈ queue, ∃ kind, Escapes entry.value entry.type kind ∧ error = .ofKind kind := by
  induction queue generalizing prepared place with
  | nil => cases refused
  | cons entry rest ih =>
    unfold Prepared.bindQueue at refused
    split at refused
    · rename_i unbound
      cases refused
      obtain unfit | told := entry_refusal (addressed entry List.mem_cons_self) unbound
      · cases coercion_outcome provided entry.value entry.type with
        | bound fits => cases unfit.symm.trans fits
        | told integer unreadable writable =>
          obtain ⟨_, same, told⟩ := no_integer_is_told provided unreadable writable
          rw [integer] at unfit
          cases unfit.symm.trans same
          exact .inl told.parameter_error
        | escapes escapes =>
          cases unfit.symm.trans (escape_leaves provided escapes)
          exact .inr ⟨entry, List.mem_cons_self, _, escapes, rfl⟩
      · exact .inl told
    · rename_i bound
      have kept := congrArg Prepared.coercions (bind_frame bound)
      obtain told | ⟨late, member, escaped⟩ :=
        ih (kept ▸ provided) (fun late member => addressed late (List.mem_cons_of_mem _ member))
          refused
      · exact .inl told
      · exact .inr ⟨late, List.mem_cons_of_mem _ member, escaped⟩

/-- With the conversions that the library brings along, a value is bound, or told of as a parameter
that cannot be bound, just when it does not escape: infinite numbers do that overflow where they are
to be integers, and values with too many digits where they are to be texts or to be shown. So a
queue that cannot be bound fails with a parameter error, unless it has a value that escapes. -/
theorem escaping_values_are_exact (provided : Provided coercions) (value : Value)
    (type : BindType) :
    ((∃ bound, coerce value type coercions = .ok bound) ∨
        (∃ error, coerce value type coercions = .error error ∧ TellsOf value type error) ↔
      ∀ kind, ¬Escapes value type kind) ∧
    ((∃ error, coerce value type coercions = .error error ∧ TellsOf value type error) ↔
      type = .integer ∧ NoInteger value ∧ value.isWritable = true) ∧
    (∀ kind, Escapes value type kind →
      coerce value type coercions = .error (.fault ⟨kind, []⟩)) ∧
    ∀ prepared : Prepared, prepared.coercions = coercions → ∀ place queue error,
      Addressed queue → (prepared.bindQueue place queue).1 = .error error →
        IsParameterError error ∨
          ∃ entry ∈ queue, ∃ kind, Escapes entry.value entry.type kind ∧
            error = .fault ⟨kind, []⟩ := by
  have told (integer : type = .integer) (unreadable : NoInteger value)
      (writable : value.isWritable = true) :
      ∃ error, coerce value type coercions = .error error ∧ TellsOf value type error := by
    rw [integer]
    exact no_integer_is_told provided unreadable writable
  refine ⟨⟨?_, fun kept => ?_⟩,
    ⟨?_, fun ⟨integer, unreadable, writable⟩ => told integer unreadable writable⟩,
    fun kind escapes => escape_leaves provided escapes, ?_⟩
  · rintro (⟨bound, fits⟩ | ⟨error, refused, tells⟩) kind escapes
    · cases fits.symm.trans (escape_leaves provided escapes)
    · cases refused.symm.trans (escape_leaves provided escapes)
      exact tells
  · cases coercion_outcome provided value type with
    | bound fits => exact .inl ⟨_, fits⟩
    | told integer unreadable writable => exact .inr (told integer unreadable writable)
    | escapes escapes => exact absurd escapes (kept _)
  · rintro ⟨error, refused, tells⟩
    cases coercion_outcome provided value type with
    | bound fits => cases refused.symm.trans fits
    | told integer unreadable writable => exact ⟨integer, unreadable, writable⟩
    | escapes escapes =>
      cases refused.symm.trans (escape_leaves provided escapes)
      cases tells
  · rintro prepared rfl place queue error addressed refused
    exact queue_refusal provided addressed refused

/-- A text that is no numeral cannot be an integer for SQLite, and the error says so. -/
theorem misspelt_integer_is_told :
    Provided Adapter.sqlite.sessionConfig.statementCoercions ∧ NoInteger (.str "1x") ∧
      ∃ error, coerce (.str "1x") .integer Adapter.sqlite.sessionConfig.statementCoercions =
        .error error ∧ TellsOf (.str "1x") .integer error := by
  have provided := session_provided .sqlite
  have unreadable : NoInteger (.str "1x") := .text (by decide)
  obtain ⟨-, told, -⟩ := escaping_values_are_exact provided (.str "1x") .integer
  exact ⟨provided, unreadable, told.mpr ⟨rfl, unreadable, rfl⟩⟩

/-- An infinite number cannot be an integer, and the error that leaves is no parameter error. -/
theorem infinite_integer_overflows :
    coerce (.float (.infinity false)) .integer none = .error (.fault ⟨.overflow, []⟩) ∧
      ¬ IsParameterError (.fault ⟨.overflow, []⟩) :=
  ⟨rfl, id⟩

end SqlTemplate.CoercionFaults
