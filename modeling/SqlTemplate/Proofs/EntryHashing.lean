import SqlTemplate.Binding.Entry
import SqlTemplate.Proofs.LiteralShapes
import SqlTemplate.Proofs.Outcomes
import SqlTemplate.Proofs.WholeNumbers

/-! Entries as keys. Entries are equal when their values are, across types, while the hash of an
entry is made of the literal of its value. So of equal entries those have one hash whose values are
written alike. -/
namespace SqlTemplate.EntryHashing
open LiteralCutting LiteralShapes Outcomes
open Number

/-! ## Values with one literal -/

mutual
/-- A value that equals no other of these: nulls, whole numbers, texts, byte strings that cannot be
changed and dates, in lists and tuples. -/
def isSettled : Value → Bool
  | .null | .int _ | .str _ | .bytes .bytes _ | .date _ => true
  | .collection kind items => !kind.isSet && areSettled items
  | _ => false
termination_by structural value => value

def areSettled : List Value → Bool
  | [] => true
  | item :: rest => isSettled item && areSettled rest
termination_by structural items => items
end

theorem equals_each_length : ∀ xs ys : List Value, Value.equalsEach xs ys = true →
    xs.length = ys.length
  | [], [], _ => rfl
  | [], _ :: _, equal => by cases equal
  | _ :: _, [], equal => by cases equal
  | x :: xs, y :: ys, equal => by
    rw [List.length_cons, List.length_cons,
      equals_each_length xs ys (Bool.and_eq_true_iff.mp equal).2]

mutual
theorem settled_eq_of_is_equal (a b : Value) (settled : isSettled a = true)
    (settled' : isSettled b = true) (equal : a.isEqual b = .ok true) : a = b := by
  cases a with
  | null =>
    cases b with
    | null => rfl
    | _ => first | cases equal | cases settled'
  | int n =>
    cases b with
    | int m =>
      have same : (some (Magnitude.finite (.ofInt n))) = some (.finite (.ofInt m)) :=
        congrArg some (eq_of_beq (Except.ok.inj equal))
      rw [WholeNumbers.of_int_inj (Magnitude.finite.inj (Option.some.inj same))]
    | _ => first | cases equal | cases settled'
  | str text =>
    cases b with
    | str text' => rw [eq_of_beq (Except.ok.inj equal : (text == text') = true)]
    | _ => first | cases equal | cases settled'
  | date d =>
    cases b with
    | date d' => rw [eq_of_beq (Except.ok.inj equal : (d == d') = true)]
    | _ => first | cases equal | cases settled'
  | bytes kind content =>
    cases b with
    | bytes kind' content' =>
      obtain rfl : kind = .bytes := by cases kind <;> first | rfl | cases settled
      obtain rfl : kind' = .bytes := by cases kind' <;> first | rfl | cases settled'
      rw [eq_of_beq (Except.ok.inj equal : (content == content') = true)]
    | _ => first | cases equal | cases settled'
  | collection kind xs =>
    cases b with
    | collection kind' ys =>
      obtain ⟨unordered, items⟩ := Bool.and_eq_true_iff.mp settled
      obtain ⟨-, items'⟩ := Bool.and_eq_true_iff.mp settled'
      have unordered : kind.isSet = false := by simpa using unordered
      have ordered : (Value.collection kind xs).equals (Value.collection kind' ys) =
          (kind == kind' && Value.equalsEach xs ys) := by
        simp only [Value.equals, unordered, Bool.false_and, Bool.false_eq_true, ↓reduceIte]
      rw [Value.isEqual, ordered, unordered, Bool.false_or] at equal
      split at equal
      · -- Nothing was compared, since the kinds differ or the lengths of lists.
        rename_i apart
        obtain ⟨kinds, each⟩ := Bool.and_eq_true_iff.mp (Except.ok.inj equal)
        simp [equals_each_length xs ys each, eq_of_beq kinds] at apart
      · rename_i together
        simp only [Bool.or_eq_true, not_or, bne_iff_ne, ne_eq, not_not] at together
        rw [together.1, settled_each_eq_of_is_equal_each xs ys items items' equal]
    | _ => first | cases equal | cases settled'
  | _ => cases settled
termination_by structural a

theorem settled_each_eq_of_is_equal_each (xs ys : List Value) (settled : areSettled xs = true)
    (settled' : areSettled ys = true) (equal : Value.isEqualEach xs ys = .ok true) : xs = ys := by
  cases xs with
  | nil =>
    cases ys with
    | nil => rfl
    | cons => cases equal
  | cons x xs =>
    cases ys with
    | nil => cases equal
    | cons y ys =>
      obtain ⟨first, others⟩ := Bool.and_eq_true_iff.mp settled
      obtain ⟨first', others'⟩ := Bool.and_eq_true_iff.mp settled'
      obtain ⟨same, compared, goes_on⟩ := bind_ok_iff.mp equal
      cases same with
      | false => cases goes_on
      | true =>
        rw [settled_eq_of_is_equal x y first first' compared,
          settled_each_eq_of_is_equal_each xs ys others others' goes_on]
termination_by structural xs
end

/-! ## Entries -/

mutual
/-- What can be a key equals what a comparison finds it equal to. -/
theorem equals_of_is_equal (a b : Value) (hashable : a.isHashable = true)
    (equal : a.isEqual b = .ok true) : a.equals b = true := by
  have compared (whole : a.isEqual b =
      if a.refusesComparison b then .error .undefinedComparison else .ok (a.equals b)) :
      a.equals b = true := by
    rw [whole] at equal
    split at equal
    · cases equal
    · exact Except.ok.inj equal
  cases a with
  | mapping xs => cases hashable
  | collection kind xs =>
    cases b with
    | collection kind' ys =>
      rw [Value.isEqual] at equal
      split at equal
      · exact Except.ok.inj equal
      · rename_i ordered
        simp only [Bool.or_eq_true, not_or, bne_iff_ne, ne_eq, not_not, Bool.not_eq_true] at ordered
        obtain ⟨⟨ordered, rfl⟩, -⟩ := ordered
        have items : Value.hashableAll xs = true := by
          cases kind with
          | tuple => exact hashable
          | frozenset => cases ordered
          | _ => cases hashable
        simp only [Value.equals, ordered, Bool.and_self, Bool.false_eq_true, ↓reduceIte, BEq.rfl,
          Bool.true_and]
        exact equals_each_of_is_equal_each xs ys items equal
    | _ => exact compared rfl
  | _ => exact compared rfl
termination_by structural a

theorem equals_each_of_is_equal_each (xs ys : List Value) (hashable : Value.hashableAll xs = true)
    (equal : Value.isEqualEach xs ys = .ok true) : Value.equalsEach xs ys = true := by
  cases xs with
  | nil =>
    cases ys with
    | nil => rfl
    | cons => cases equal
  | cons x xs =>
    cases ys with
    | nil => cases equal
    | cons y ys =>
      obtain ⟨first, others⟩ := Bool.and_eq_true_iff.mp hashable
      obtain ⟨same, compared, goes_on⟩ := bind_ok_iff.mp equal
      cases same with
      | false => cases goes_on
      | true =>
        exact Bool.and_eq_true_iff.mpr
          ⟨equals_of_is_equal x y first compared, equals_each_of_is_equal_each xs ys others goes_on⟩
termination_by structural xs
end

theorem equal_parts {a b : BindEntry} (equal : a.equals b = .ok true) :
    a.value.isEqual b.value = .ok true ∧ a.type = b.type ∧ a.marker.isEqual b.marker = .ok true := by
  obtain ⟨same, compared, goes_on⟩ := bind_ok_iff.mp equal
  cases same with
  | false => cases goes_on
  | true =>
    by_cases types : a.type = b.type
    · simp only [types, bne_self_eq_false, Bool.not_true, Bool.or_self, Bool.false_eq_true,
        ↓reduceIte] at goes_on
      exact ⟨compared, types, goes_on⟩
    · simp only [bne_iff_ne.mpr types, Bool.or_true, ↓reduceIte] at goes_on
      cases goes_on

theorem marker_of_hash {entry : BindEntry} (hashed : entry.requireHash = .ok ()) :
    entry.marker.isHashable = true := by
  obtain ⟨_, _, keyed⟩ := bind_ok_iff.mp hashed
  split at keyed
  · assumption
  · cases keyed

/-- Equal entries that have hashes have the same hash just when their values are written alike,
and always when their values are settled. -/
theorem equal_entries_share_hash_iff_alike {a b : BindEntry} {same : Bool}
    (equal : a.equals b = .ok true) (hashed : a.sameHash b = .ok same) :
    (isSpelled a.value = true → isSpelled b.value = true →
      (same = true ↔ Alike a.value b.value)) ∧
    (isSettled a.value = true → isSettled b.value = true → same = true) := by
  obtain ⟨values, types, markers⟩ := equal_parts equal
  have key : same = true ↔ a.value.literal = b.value.literal := by
    obtain ⟨_, first, rest⟩ := bind_ok_iff.mp hashed
    obtain ⟨_, _, compared⟩ := bind_ok_iff.mp rest
    obtain rfl : a.sameHashKey b = same := Except.ok.inj compared
    have markers := equals_of_is_equal _ _ (marker_of_hash first) markers
    simp [BindEntry.sameHashKey, types, markers]
  rw [key]
  constructor
  · exact literal_eq_iff a.value b.value
  · intro settled settled'
    rw [settled_eq_of_is_equal a.value b.value settled settled' values]

/-- A list of a number and a text that is made twice has one hash, and is written alike. -/
theorem list_is_hashed_once :
    let entry : BindEntry := .unnamed (.list [.int 1, .str "a"]) .string
    entry.equals entry = .ok true ∧ entry.sameHash entry = .ok true ∧
      Alike entry.value entry.value := by
  intro entry
  have equal : entry.equals entry = .ok true := by decide
  have hashed : entry.sameHash entry = .ok (entry.sameHashKey entry) := rfl
  obtain ⟨alike, settled⟩ := equal_entries_share_hash_iff_alike equal hashed
  have same : entry.sameHashKey entry = true := settled rfl rfl
  exact ⟨equal, by rw [hashed, same], (alike rfl rfl).mp same⟩

/-- A truth value equals the number one and is written in another way. -/
theorem truth_is_hashed_apart :
    let one : BindEntry := .unnamed (.int 1) .integer
    let truth : BindEntry := .unnamed (.bool true) .integer
    one.equals truth = .ok true ∧ one.sameHash truth = .ok false := by
  decide

end SqlTemplate.EntryHashing
