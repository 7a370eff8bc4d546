import Mathlib
import SqlTemplate.Value.Equality

/-! Equality of keys. Single values are equal when they stand for the same thing, whatever their
types, and collections when their elements are. Sets are looked through in one direction only, which
is enough for sets of one size that hold each element once. So equality of keys is symmetric and
transitive, though an undefined number does not even equal itself. -/
namespace SqlTemplate.KeyEquality
open Number

/-- A value that holds no other values. -/
def IsSingle : Value → Prop
  | .collection .. | .mapping _ => False
  | _ => True

/-- No key equals one that comes after it. -/
def Apart (keys : List Value) : Prop :=
  keys.Pairwise fun key other => key.equals other = false

/-- What can be a key. Sets hold each of their elements once. -/
inductive IsKey : Value → Prop
  | single (single : IsSingle value) (hashable : value.isHashable = true) : IsKey value
  | tuple (keys : ∀ item ∈ items, IsKey item) : IsKey (.collection .tuple items)
  | frozenset (keys : ∀ item ∈ items, IsKey item) (apart : Apart items) :
    IsKey (.collection .frozenset items)

/-! ## Single values -/

/-- What a single value stands for. -/
inductive Standing
  | null
  | text (text : String)
  | bytes (content : List UInt8)
  | range (shape : Nat × Option Int × Option Int)
  | date (date : Date)
  /-- An instant, as a clock shows it that tells no offset or in universal time. -/
  | datetime (universal : Bool) (instant : Int)
  | time (universal : Bool) (instant : Int)
  | number (magnitude : Magnitude)

/-- The number that a value stands for, unless it is undefined. -/
def number? (value : Value) : Option Magnitude :=
  match value.magnitude? with
  | some .undefined => none
  | magnitude => magnitude

/-- The length of a range, with its start and its step if it is long enough to show them. -/
def rangeShape (start stop step : Int) : Nat × Option Int × Option Int :=
  let length := Value.rangeLength start stop step
  (length, if length = 0 then none else some start, if length ≤ 1 then none else some step)

/-- The instant of a clock on a day, in universal time if the clock tells its offset. -/
def instantOf (clock : Clock) (day : Int) : Int :=
  day * 86400000000 + clock.sinceMidnight - clock.offset.getD 0

def standing? : Value → Option Standing
  | .null => some .null
  | .str text => some (.text text)
  | .bytes _ content => some (.bytes content)
  | .range start stop step => some (.range (rangeShape start stop step))
  | .date date => some (.date date)
  | .datetime date clock => some (.datetime clock.offset.isSome (instantOf clock date.dayNumber))
  | .time clock => some (.time clock.offset.isSome (instantOf clock 0))
  | value => (number? value).map .number

theorem same_number_iff (a b : Value) :
    a.sameNumber b = true ↔ number? a ≠ none ∧ number? a = number? b := by
  unfold Value.sameNumber number?
  cases a.magnitude? with
  | none => simp
  | some x =>
    cases b.magnitude? with
    | none => cases x <;> simp
    | some y => cases x <;> cases y <;> simp

/-- A value stands for a number when it is one. -/
theorem standing_number_iff (value : Value) (magnitude : Magnitude) :
    standing? value = some (.number magnitude) ↔ number? value = some magnitude := by
  cases value with
  | null | str _ | bytes _ _ | range _ _ _ | date _ | datetime _ _ | time _ => exact ⟨nofun, nofun⟩
  | _ => simp [standing?]

theorem same_instant_iff (a b : Clock) (dayA dayB : Int) :
    a.sameInstant b dayA dayB = true ↔
      a.offset.isSome = b.offset.isSome ∧ instantOf a dayA = instantOf b dayB := by
  unfold Clock.sameInstant instantOf
  cases a.offset <;> cases b.offset <;> simp

theorem same_range_iff (start stop step start' stop' step' : Int) :
    Value.sameRange start stop step start' stop' step' = true ↔
      rangeShape start stop step = rangeShape start' stop' step' := by
  unfold Value.sameRange rangeShape
  generalize Value.rangeLength start stop step = n
  generalize Value.rangeLength start' stop' step' = m
  by_cases same : n = m
  · subst same
    rcases Nat.lt_or_ge 1 n with long | short
    · have given : n ≠ 0 := by omega
      have more : n ≠ 1 := by omega
      have many : ¬n ≤ 1 := by omega
      simp [given, more, many]
    · rcases Nat.le_one_iff_eq_zero_or_eq_one.mp short with rfl | rfl <;> simp
  · simp [same]

theorem number_equals_iff (a b : Value) (numeric : standing? a = (number? a).map .number) :
    a.sameNumber b = true ↔ standing? a ≠ none ∧ standing? a = standing? b := by
  rw [same_number_iff, numeric]
  cases number? a with
  | none => simp
  | some magnitude => simp [eq_comm, standing_number_iff]

/-- A single value equals what stands for the same, if it stands for anything. -/
theorem single_equals_iff (single : IsSingle a) (b : Value) :
    a.equals b = true ↔ standing? a ≠ none ∧ standing? a = standing? b := by
  cases a with
  | collection kind items => cases single
  | mapping entries => cases single
  | bool _ | int _ | float _ | decimal _ =>
    refine number_equals_iff _ b ?_
    rfl
  | object text => exact number_equals_iff (.object text) b rfl
  | null | str _ | bytes _ _ | range _ _ _ | date _ | datetime _ _ | time _ =>
    -- Of two types, one value has a standing that the other cannot have.
    cases b <;> simp [standing?, Value.equals, same_range_iff, same_instant_iff] <;> rfl

theorem single_of_standing (stands : standing? value ≠ none) : IsSingle value := by
  cases value with
  | collection kind items => exact stands rfl
  | mapping entries => exact stands rfl
  | _ => trivial

/-! ## Collections -/

theorem hashable_all_iff (items : List Value) :
    Value.hashableAll items = true ↔ ∀ item ∈ items, item.isHashable = true := by
  induction items with
  | nil => simp [Value.hashableAll]
  | cons item rest ih => simp [Value.hashableAll, ih]

/-- Keys can be hashed. -/
theorem IsKey.hashable (key : IsKey value) : value.isHashable = true := by
  induction key with
  | single single hashable => exact hashable
  | tuple keys ih => exact (hashable_all_iff _).mpr ih
  | frozenset keys apart ih => rfl

/-- The values at each place are equal. -/
def EqualEach (xs ys : List Value) : Prop :=
  List.Forall₂ (fun x y => x.equals y = true) xs ys

theorem equals_each_iff (xs ys : List Value) :
    Value.equalsEach xs ys = true ↔ EqualEach xs ys := by
  unfold EqualEach
  induction xs generalizing ys with
  | nil => cases ys <;> simp [Value.equalsEach]
  | cons x xs ih => cases ys <;> simp [Value.equalsEach, ih]

theorem contained_in_iff (xs ys : List Value) :
    Value.containedIn xs ys = true ↔ ∀ x ∈ xs, ∃ y ∈ ys, x.equals y = true := by
  induction xs with
  | nil => simp [Value.containedIn]
  | cons x xs ih => simp [Value.containedIn, ih]

theorem tuple_equals_iff (xs : List Value) (b : Value) :
    (Value.collection .tuple xs).equals b = true ↔
      ∃ ys, b = .collection .tuple ys ∧ EqualEach xs ys := by
  cases b with
  | collection kind ys => cases kind <;> simp [Value.equals, CollectionKind.isSet, equals_each_iff]
  | _ => exact ⟨nofun, nofun⟩

/-- A set equals a set of either kind that is of its size and holds all that it holds. -/
theorem set_equals_iff (unordered : kind.isSet = true) (xs : List Value) (b : Value) :
    (Value.collection kind xs).equals b = true ↔
      ∃ kind' ys, b = .collection kind' ys ∧ kind'.isSet = true ∧ xs.length = ys.length ∧
        ∀ x ∈ xs, ∃ y ∈ ys, x.equals y = true := by
  cases b with
  | collection kind' ys =>
    cases unordered' : kind'.isSet with
    | true => simp [Value.equals, unordered, unordered', contained_in_iff]
    | false =>
      have differ : kind ≠ kind' := by
        rintro rfl
        cases unordered.symm.trans unordered'
      simp [Value.equals, unordered, unordered', differ]
  | _ => exact ⟨nofun, nofun⟩

/-- If no two of some things meet the same thing, and each of them meets one of others that are no
more than they are, then all of these are met. -/
theorem all_met {α β : Type} {Meets : α → β → Prop} {xs : List α} {ys : List β}
    (apart : xs.Pairwise fun x x' => ∀ y, Meets x y → ¬Meets x' y)
    (each : ∀ x ∈ xs, ∃ y ∈ ys, Meets x y) (size : ys.length ≤ xs.length) :
    ∀ y ∈ ys, ∃ x ∈ xs, Meets x y := by
  induction xs generalizing ys with
  | nil =>
    rw [List.length_nil, Nat.le_zero, List.length_eq_zero_iff] at size
    rw [size]
    exact nofun
  | cons x xs ih =>
    obtain ⟨first, later⟩ := List.pairwise_cons.mp apart
    obtain ⟨met, member, meets⟩ := each x List.mem_cons_self
    obtain ⟨before, after, rfl⟩ := List.append_of_mem member
    have others : ∀ x' ∈ xs, ∃ y ∈ before ++ after, Meets x' y := by
      intro x' member'
      obtain ⟨y, among, meets'⟩ := each x' (List.mem_cons_of_mem _ member')
      rw [List.mem_append, List.mem_cons] at among
      rcases among with front | rfl | behind
      · exact ⟨y, List.mem_append_left _ front, meets'⟩
      · exact absurd meets' (first x' member' y meets)
      · exact ⟨y, List.mem_append_right _ behind, meets'⟩
    have all := ih later others (by simp at size ⊢; omega)
    intro y among
    rw [List.mem_append, List.mem_cons] at among
    rcases among with front | rfl | behind
    · obtain ⟨x', member', meets'⟩ := all y (List.mem_append_left _ front)
      exact ⟨x', List.mem_cons_of_mem _ member', meets'⟩
    · exact ⟨x, List.mem_cons_self, meets⟩
    · obtain ⟨x', member', meets'⟩ := all y (List.mem_append_right _ behind)
      exact ⟨x', List.mem_cons_of_mem _ member', meets'⟩

theorem met_by_no_more {α β : Type} {Meets : α → β → Prop} {xs : List α} {ys : List β}
    (apart : xs.Pairwise fun x x' => ∀ y, Meets x y → ¬Meets x' y)
    (each : ∀ x ∈ xs, ∃ y ∈ ys, Meets x y) : xs.length ≤ ys.length := by
  cases xs with
  | nil => exact Nat.zero_le _
  | cons x xs =>
    obtain ⟨first, later⟩ := List.pairwise_cons.mp apart
    obtain ⟨⟨y, member, meets⟩, others⟩ := List.forall_mem_cons.mp each
    by_contra fewer
    rw [List.length_cons] at fewer
    obtain ⟨x', member', meets'⟩ := all_met later others (by omega) y member
    exact first x' member' y meets meets'

/-! ## Keys -/

/-- Equality with a value goes both ways and carries on. -/
structure Consistent (a : Value) : Prop where
  back : ∀ b, a.equals b = true → b.equals a = true
  onward : ∀ b c, a.equals b = true → b.equals c = true → a.equals c = true

theorem each_back (consistent : ∀ x ∈ xs, Consistent x) (each : EqualEach xs ys) :
    EqualEach ys xs := by
  induction each with
  | nil => exact .nil
  | cons same rest ih =>
    exact .cons ((consistent _ List.mem_cons_self).back _ same)
      (ih fun x member => consistent x (List.mem_cons_of_mem _ member))

theorem each_onward (consistent : ∀ x ∈ xs, Consistent x) (each : EqualEach xs ys)
    (each' : EqualEach ys zs) : EqualEach xs zs := by
  induction each generalizing zs with
  | nil => exact each'
  | cons same rest ih =>
    cases each' with
    | cons same' rest' =>
      exact .cons ((consistent _ List.mem_cons_self).onward _ _ same same')
        (ih (fun x member => consistent x (List.mem_cons_of_mem _ member)) rest')

theorem single_consistent (single : IsSingle a) : Consistent a := by
  refine ⟨fun b equal => ?_, fun b c equal equal' => ?_⟩
  · obtain ⟨stands, same⟩ := (single_equals_iff single b).mp equal
    have single' : IsSingle b := single_of_standing (same ▸ stands)
    exact (single_equals_iff single' a).mpr ⟨same ▸ stands, same.symm⟩
  · obtain ⟨stands, same⟩ := (single_equals_iff single b).mp equal
    have single' : IsSingle b := single_of_standing (same ▸ stands)
    obtain ⟨-, same'⟩ := (single_equals_iff single' c).mp equal'
    exact (single_equals_iff single c).mpr ⟨stands, same.trans same'⟩

theorem tuple_consistent (consistent : ∀ x ∈ xs, Consistent x) :
    Consistent (.collection .tuple xs) := by
  refine ⟨fun b equal => ?_, fun b c equal equal' => ?_⟩
  · obtain ⟨ys, rfl, each⟩ := (tuple_equals_iff xs b).mp equal
    exact (tuple_equals_iff ys _).mpr ⟨xs, rfl, each_back consistent each⟩
  · obtain ⟨ys, rfl, each⟩ := (tuple_equals_iff xs b).mp equal
    obtain ⟨zs, rfl, each'⟩ := (tuple_equals_iff ys c).mp equal'
    exact (tuple_equals_iff xs _).mpr ⟨zs, rfl, each_onward consistent each each'⟩

/-- No two elements of a set equal the same value, so a set of its size that holds them all holds
nothing else. -/
theorem set_consistent (consistent : ∀ x ∈ xs, Consistent x) (apart : Apart xs)
    (unordered : kind.isSet = true) : Consistent (.collection kind xs) := by
  refine ⟨fun b equal => ?_, fun b c equal equal' => ?_⟩
  · obtain ⟨kind', ys, rfl, unordered', size, each⟩ := (set_equals_iff unordered xs b).mp equal
    have unmet : xs.Pairwise fun x x' => ∀ y, x.equals y = true → ¬x'.equals y = true := by
      refine apart.imp_of_mem fun {x x'} member member' differ y same same' => ?_
      have back := (consistent x' member').back y same'
      have equal := (consistent x member).onward y x' same back
      rw [differ] at equal
      cases equal
    refine (set_equals_iff unordered' ys _).mpr ⟨kind, xs, rfl, unordered, size.symm, ?_⟩
    intro y member
    obtain ⟨x, member', same⟩ := all_met unmet each (Nat.le_of_eq size.symm) y member
    exact ⟨x, member', (consistent x member').back y same⟩
  · obtain ⟨kind', ys, rfl, unordered', size, each⟩ := (set_equals_iff unordered xs b).mp equal
    obtain ⟨kind'', zs, rfl, unordered'', size', each'⟩ :=
      (set_equals_iff unordered' ys c).mp equal'
    refine (set_equals_iff unordered xs _).mpr
      ⟨kind'', zs, rfl, unordered'', size.trans size', fun x member => ?_⟩
    obtain ⟨y, member', same⟩ := each x member
    obtain ⟨z, member'', same'⟩ := each' y member'
    exact ⟨z, member'', (consistent x member).onward y z same same'⟩

theorem IsKey.consistent (key : IsKey a) : Consistent a := by
  induction key with
  | single single hashable => exact single_consistent single
  | tuple keys ih => exact tuple_consistent ih
  | frozenset keys apart ih => exact set_consistent ih apart rfl

end SqlTemplate.KeyEquality
