import SqlTemplate.Proofs.WholeNumbers

/-! The order of numbers across types. Numbers are compared by their forms in lowest terms, without
a power of ten being multiplied out, and still the order is that of the rational numbers that the
forms stand for, with the infinite ones around them. A rational number has one form in lowest terms,
so of two numbers that are not equal one is above the other. -/
namespace SqlTemplate.NumberOrder
open Number Scientific WholeNumbers

/-! ## Forms -/

/-- The rational number that a form stands for. -/
def valueOf (x : Scientific) : ℚ := x.coefficient * 10 ^ x.exponent

/-- In lowest terms ten does not divide the coefficient, and zero has the exponent zero. -/
def IsLowest (x : Scientific) : Prop := ¬(10 : Int) ∣ x.coefficient ∨ x = ⟨0, 0⟩

theorem ten_power_pos (exponent : Int) : (0 : ℚ) < 10 ^ exponent := zpow_pos (by norm_num) exponent

/-- A number with a higher exponent, in terms of the power of ten of another. -/
theorem value_moved (x : Scientific) {exponent : Int} {zeros : Nat}
    (higher : x.exponent = exponent + zeros) :
    valueOf x = (x.coefficient * 10 ^ zeros : Int) * 10 ^ exponent := by
  rw [valueOf, higher, zpow_add₀ (by norm_num), zpow_natCast]
  push_cast
  ring

theorem compare_scaled (a b exponent : Int) :
    compare ((a : ℚ) * 10 ^ exponent) (b * 10 ^ exponent) = compare a b := by
  have mono : StrictMono fun n : Int => (n : ℚ) * 10 ^ exponent := fun n m below =>
    mul_lt_mul_of_pos_right (by exact_mod_cast below) (ten_power_pos exponent)
  rw [← cmp_eq_compare, ← cmp_eq_compare]
  exact mono.cmp_map_eq a b

/-- Forms have the order of the numbers that they stand for. -/
theorem compare_values (x y : Scientific) : x.compareTo y = compare (valueOf x) (valueOf y) := by
  unfold compareTo
  split
  · rename_i lower
    obtain ⟨zeros, apart⟩ := Int.eq_ofNat_of_zero_le (Int.sub_nonneg_of_le lower)
    rw [apart, compare_written_out, value_moved y (by omega : y.exponent = x.exponent + zeros),
      valueOf, compare_scaled, Int.compare_swap]
  · rename_i higher
    obtain ⟨zeros, apart⟩ :=
      Int.eq_ofNat_of_zero_le (show 0 ≤ x.exponent - y.exponent by omega)
    rw [apart, compare_written_out, value_moved x (by omega : x.exponent = y.exponent + zeros),
      valueOf, compare_scaled]

/-- A number has one form in lowest terms. -/
theorem lowest_injective {x y : Scientific} (lowest : IsLowest x) (lowest' : IsLowest y)
    (same : valueOf x = valueOf y) : x = y := by
  wlog lower : x.exponent ≤ y.exponent generalizing x y
  · exact (this lowest' lowest same.symm (Int.le_of_not_le lower)).symm
  · obtain ⟨zeros, apart⟩ := Int.eq_ofNat_of_zero_le (Int.sub_nonneg_of_le lower)
    rw [value_moved y (by omega : y.exponent = x.exponent + zeros), valueOf] at same
    have coefficients : x.coefficient = y.coefficient * 10 ^ zeros := by
      exact_mod_cast mul_right_cancel₀ (ten_power_pos _).ne' same
    rcases lowest with undivided | rfl
    · -- A power of ten that is left over would divide the lower form.
      obtain rfl : zeros = 0 := by
        by_contra some
        refine undivided ?_
        rw [coefficients]
        exact Dvd.dvd.mul_left (dvd_pow_self 10 some) _
      cases x
      cases y
      simp only [pow_zero, mul_one] at coefficients
      simp only [Scientific.mk.injEq]
      exact ⟨coefficients, by dsimp only at apart; omega⟩
    · have zero : y.coefficient = 0 := by simpa using coefficients.symm
      rcases lowest' with undivided | rfl
      · exact absurd (zero ▸ dvd_zero 10) undivided
      · rfl

theorem trimmed_undivided {fuel n : Nat} (some : n ≠ 0) (enough : n < 2 ^ (fuel + 1)) (e : Int) :
    ¬10 ∣ (trimZeros fuel n e).1 := by
  induction fuel generalizing n e with
  | zero =>
    rw [trimZeros]
    omega
  | succ fuel ih =>
    rw [trimZeros]
    split
    · exact ih (by omega) (by rw [Nat.pow_succ] at enough; omega) _
    · dsimp only
      omega

theorem normal_lowest (negative : Bool) (coefficient : Nat) (exponent : Int) :
    IsLowest (normal negative coefficient exponent) := by
  by_cases none : coefficient = 0
  · subst none
    refine .inr ?_
    cases negative <;> rfl
  · have undivided := trimmed_undivided none Nat.lt_log2_self exponent
    refine .inl ?_
    unfold normal
    dsimp only
    split
    · rw [Int.dvd_neg]
      exact_mod_cast undivided
    · exact_mod_cast undivided

theorem value_of_int (n : Int) : valueOf (ofInt n) = n := by
  obtain ⟨zeros, exponent, written⟩ := of_int_written_out n
  rw [valueOf, exponent, zpow_natCast]
  conv => rhs; rw [written]
  push_cast
  rfl

/-! ## Numbers -/

/-- Where a number stands: at a rational number, below all of them or above them. -/
def rank : Magnitude → WithBot (WithTop ℚ)
  | .finite x => ((valueOf x : WithTop ℚ) : WithBot (WithTop ℚ))
  | .infinite negative => if negative then ⊥ else ⊤
  | .undefined => ⊥

/-- A number that is infinite or has a form in lowest terms. -/
inductive IsProper : Magnitude → Prop
  | finite (lowest : IsLowest x) : IsProper (.finite x)
  | infinite : IsProper (.infinite negative)

theorem above_iff {a b : Magnitude} (proper : IsProper a) (proper' : IsProper b) :
    a.isAbove b = true ↔ rank b < rank a := by
  cases proper with
  | finite lowest =>
    cases proper' with
    | finite lowest' =>
      simp only [Magnitude.isAbove, compare_values, rank, beq_iff_eq, compare_gt_iff_gt,
        WithBot.coe_lt_coe, WithTop.coe_lt_coe]
    | @infinite negative => cases negative <;> simp [Magnitude.isAbove, rank]
  | @infinite negative =>
    cases proper' with
    | @finite x lowest' =>
      have below_all : rank (.finite x) < ⊤ := WithBot.coe_lt_coe.mpr (WithTop.coe_lt_top _)
      cases negative
      · exact ⟨fun _ => below_all, fun _ => rfl⟩
      · simp [Magnitude.isAbove, rank]
    | @infinite negative' =>
      cases negative <;> cases negative' <;> simp [Magnitude.isAbove, rank]

theorem rank_injective {a b : Magnitude} (proper : IsProper a) (proper' : IsProper b)
    (same : rank a = rank b) : a = b := by
  cases proper with
  | finite lowest =>
    cases proper' with
    | finite lowest' =>
      simp only [rank, WithBot.coe_inj, WithTop.coe_inj] at same
      rw [lowest_injective lowest lowest' same]
    | @infinite negative => cases negative <;> simp [rank] at same
  | @infinite negative =>
    cases proper' with
    | finite lowest' => cases negative <;> simp [rank] at same
    | @infinite negative' => cases negative <;> cases negative' <;> simp [rank] at same ⊢

/-! ## Values -/

/-- A value that is a number. -/
def IsNumber (value : Value) : Prop :=
  ∃ magnitude, value.magnitude? = some magnitude ∧ magnitude ≠ .undefined

/-- Where the number of a value stands. -/
def rankOf (value : Value) : WithBot (WithTop ℚ) := (value.magnitude?.map rank).getD ⊥

section Values
variable {value a b : Value} {magnitude : Magnitude}

theorem rank_of_magnitude (number : value.magnitude? = some magnitude) :
    rankOf value = rank magnitude := by
  rw [rankOf, number]
  rfl

theorem magnitude_proper (number : value.magnitude? = some magnitude)
    (defined : magnitude ≠ .undefined) : IsProper magnitude := by
  cases value with
  | bool b =>
    cases number
    exact .finite (normal_lowest _ _ _)
  | int n =>
    cases number
    exact .finite (normal_lowest _ _ _)
  | float x =>
    cases x with
    | nan =>
      cases number
      exact absurd rfl defined
    | infinity negative =>
      cases number
      exact .infinite
    | finite negative mantissa exponent =>
      cases number
      refine .finite ?_
      split <;> exact normal_lowest _ _ _
  | decimal x =>
    cases x with
    | nan =>
      cases number
      exact absurd rfl defined
    | infinity negative =>
      cases number
      exact .infinite
    | finite negative coefficient exponent =>
      cases number
      exact .finite (normal_lowest _ _ _)
  | _ => cases number

theorem number_above_iff (number : IsNumber a) (number' : IsNumber b) :
    a.isAbove b = true ↔ rankOf b < rankOf a := by
  obtain ⟨x, given, defined⟩ := number
  obtain ⟨y, given', defined'⟩ := number'
  rw [Value.isAbove, given, given', rank_of_magnitude given, rank_of_magnitude given']
  exact above_iff (magnitude_proper given defined) (magnitude_proper given' defined')

theorem same_rank_iff (number : IsNumber a) (number' : IsNumber b) :
    rankOf a = rankOf b ↔ a.magnitude? = b.magnitude? := by
  obtain ⟨x, given, defined⟩ := number
  obtain ⟨y, given', defined'⟩ := number'
  rw [given, given', rank_of_magnitude given, rank_of_magnitude given', Option.some.injEq]
  constructor
  · exact rank_injective (magnitude_proper given defined) (magnitude_proper given' defined')
  · exact congrArg rank

/-- What is in an order with one is a number, unless it is a double that is not one. -/
theorem ordered_number (inside : value.isBelow 1 = .ok false) (numeric : value ≠ .float .nan) :
    IsNumber value := by
  unfold Value.isBelow Value.order at inside
  cases given : value.magnitude? with
  | none => simp [given, Except.map] at inside
  | some magnitude =>
    refine ⟨magnitude, given, ?_⟩
    rintro rfl
    cases value with
    | float x =>
      cases x with
      | nan => exact numeric rfl
      | infinity | finite => cases given
    | decimal => simp [given, Except.map] at inside
    | _ => cases given

end Values

end SqlTemplate.NumberOrder
