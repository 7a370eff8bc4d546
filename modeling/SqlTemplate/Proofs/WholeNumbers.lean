import Mathlib
import SqlTemplate.Value.Comparison
import SqlTemplate.Value.Text

/-! Whole numbers among the values. The form that makes numbers of all types comparable keeps the
order of the whole numbers, although it takes their zeros off and looks at their digits first. -/
namespace SqlTemplate.WholeNumbers
open Number Scientific

/-- Trailing zeros go from the coefficient to the exponent and the number stays the same. -/
theorem trim_zeros (fuel n : Nat) (e : Int) :
    ∃ zeros : Nat, (trimZeros fuel n e).2 = e + zeros ∧
      n = (trimZeros fuel n e).1 * 10 ^ zeros := by
  induction fuel generalizing n e with
  | zero => exact ⟨0, by simp [trimZeros], by simp [trimZeros]⟩
  | succ fuel ih =>
    rw [trimZeros]
    split
    · rename_i divides
      obtain ⟨zeros, moved, same⟩ := ih (n / 10) (e + 1)
      refine ⟨zeros + 1, by rw [moved]; omega, ?_⟩
      rw [Nat.pow_succ, ← Nat.mul_assoc, ← same]
      omega
    · exact ⟨0, by simp, by simp⟩

theorem digits_le_iff {n places : Nat} (some : 0 < places) :
    digitCount n ≤ places ↔ n < 10 ^ places :=
  Nat.length_toDigits_le_iff (by decide) some

/-- A power of ten as great as the number of digits that can be written has one digit more. -/
theorem power_unwritable {places : Nat} (limit : places = Text.maxNumeralDigits) :
    (Value.int (Nat.pow 10 places : Nat)).isWritable = false := by
  have some : 0 < places := by rw [limit]; decide
  have digits : ¬digitCount (Nat.pow 10 places) ≤ places := by
    rw [digits_le_iff some]
    exact Nat.lt_irrefl _
  rw [Value.isWritable, Value.hasWritableDigits, ← limit, Int.natAbs_natCast]
  exact decide_eq_false digits

/-- The least integer that has too many digits to be written. -/
def leastUnwritable : Int := (Nat.pow 10 Text.maxNumeralDigits : Nat)

theorem least_unwritable : (Value.int leastUnwritable).isWritable = false := by
  rw [leastUnwritable]
  exact power_unwritable rfl

/-- A number with more digits is greater. -/
theorem more_digits {coefficient zeros n : Nat} (positive : 0 < coefficient)
    (more : digitCount n < digitCount coefficient + zeros) : n < coefficient * 10 ^ zeros := by
  have digits : 0 < digitCount n := Nat.length_toDigits_pos
  have below : n < 10 ^ digitCount n := (digits_le_iff digits).mp (Nat.le_refl _)
  rcases Nat.lt_or_ge zeros (digitCount n) with fewer | enough
  · have rest : ¬coefficient < 10 ^ (digitCount n - zeros) := by
      rw [← digits_le_iff (by omega)]
      omega
    calc n < 10 ^ digitCount n := below
      _ = 10 ^ (digitCount n - zeros) * 10 ^ zeros := by
        rw [← Nat.pow_add, Nat.sub_add_cancel (Nat.le_of_lt fewer)]
      _ ≤ coefficient * 10 ^ zeros := Nat.mul_le_mul_right _ (Nat.le_of_not_lt rest)
  · calc n < 10 ^ digitCount n := below
      _ ≤ 10 ^ zeros := Nat.pow_le_pow_right (by decide) enough
      _ ≤ coefficient * 10 ^ zeros := Nat.le_mul_of_pos_left _ positive

theorem compare_magnitude {coefficient : Nat} (positive : 0 < coefficient) (zeros n : Nat) :
    compareMagnitude coefficient zeros n = compare (coefficient * 10 ^ zeros) n := by
  have digits : 0 < digitCount coefficient := Nat.length_toDigits_pos
  unfold compareMagnitude
  dsimp only
  split
  · omega
  · split
    · rename_i more
      exact (Nat.compare_eq_gt.mpr (more_digits positive (by omega))).symm
    · simp [scale]

private theorem compare_cast (a b : Nat) : compare a b = compare (a : Int) b := by
  simp only [Nat.compare_eq_ite_lt, Int.compare_eq_ite_lt, Int.ofNat_lt]

private theorem compare_neg (a b : Int) : compare (-a) (-b) = compare b a := by
  simp only [Int.compare_eq_ite_lt, Int.neg_lt_neg_iff]

/-- A number with a power of ten that is no fraction has the order of the number written out. -/
theorem compare_written_out (coefficient : Int) (zeros : Nat) (m : Int) :
    compareInt { coefficient := coefficient, exponent := zeros } m =
      compare (coefficient * 10 ^ zeros) m := by
  have power : (0 : Int) < 10 ^ zeros := Int.pow_pos (by decide)
  unfold compareInt
  dsimp only
  rcases Int.lt_trichotomy coefficient 0 with negative | rfl | positive
  · have below : coefficient * 10 ^ zeros < 0 := Int.mul_neg_of_neg_of_pos negative power
    rw [if_neg (by omega), if_neg (by omega)]
    split
    · exact (Int.compare_eq_lt.mpr (by omega)).symm
    · have size : (coefficient.natAbs : Int) = -coefficient := by omega
      have other : (m.natAbs : Int) = -m := by omega
      rw [compare_magnitude (by omega), Nat.compare_swap, compare_cast, Int.natCast_mul, size,
        other, Int.neg_mul, compare_neg]
      push_cast
      rfl
  · simp
  · have above : 0 < coefficient * 10 ^ zeros := Int.mul_pos positive power
    rw [if_neg (by omega), if_pos positive]
    split
    · exact (Int.compare_eq_gt.mpr (by omega)).symm
    · have size : (coefficient.natAbs : Int) = coefficient := by omega
      have other : (m.natAbs : Int) = m := by omega
      rw [compare_magnitude (by omega), compare_cast, Int.natCast_mul, size, other]
      push_cast
      rfl

theorem of_int_written_out (n : Int) :
    ∃ zeros : Nat, (ofInt n).exponent = zeros ∧ n = (ofInt n).coefficient * 10 ^ zeros := by
  obtain ⟨zeros, moved, same⟩ := trim_zeros n.natAbs.log2 n.natAbs 0
  by_cases none : n = 0
  · subst none
    exact ⟨0, rfl, by decide⟩
  · unfold ofInt normal
    dsimp only
    refine ⟨zeros, by simpa [none] using moved, ?_⟩
    have whole : ((trimZeros n.natAbs.log2 n.natAbs 0).1 : Int) * 10 ^ zeros = n.natAbs := by
      exact_mod_cast same.symm
    split
    · rename_i negative
      have below : n < 0 := by simpa using negative
      rw [Int.neg_mul, whole]
      omega
    · rename_i positive
      have above : 0 ≤ n := by simpa using positive
      rw [whole]
      omega

theorem of_int_inj {n m : Int} (same : ofInt n = ofInt m) : n = m := by
  obtain ⟨zeros, exponent, written⟩ := of_int_written_out n
  obtain ⟨zeros', exponent', written'⟩ := of_int_written_out m
  rw [same] at exponent written
  have zeros_same : zeros = zeros' := by exact_mod_cast exponent.symm.trans exponent'
  exact written.trans (by rw [zeros_same]; exact written'.symm)

/-- Whole numbers are ordered as they are. -/
theorem order_int (n m : Int) : (Value.int n).order m = .ok (some (compare n m)) := by
  obtain ⟨zeros, exponent, same⟩ := of_int_written_out n
  have ordered := compare_written_out (ofInt n).coefficient zeros m
  rw [← exponent, ← same] at ordered
  exact congrArg (fun order => Except.ok (some order)) ordered

/-- A value that is ordered as a whole number is. -/
def IsWhole (value : Value) (size : Int) : Prop := ∀ n, value.order n = .ok (some (compare size n))

theorem int_whole (n : Int) : IsWhole (.int n) n := order_int n

/-- The truth value is the number one. -/
example : IsWhole (.bool true) 1 := order_int 1

theorem whole_at_most (whole : IsWhole value size) (n : Int) :
    value.isAtMost n = .ok (decide (size ≤ n)) := by
  rw [Value.isAtMost, whole n]
  simp only [Except.map, Int.compare_eq_ite_lt]
  rcases Int.lt_trichotomy size n with below | rfl | above
  · simp [below, Int.le_of_lt below]
  · simp
  · simp [above, Int.not_lt.mpr (Int.le_of_lt above), Int.not_le.mpr above]

end SqlTemplate.WholeNumbers
