import Mathlib.Data.List.Perm.Subperm
import SqlTemplate.Proofs.GatheredItems
import SqlTemplate.Proofs.NumberOrder
import SqlTemplate.Proofs.Outcomes
import SqlTemplate.Statement.Prepared

/-! Keys that stand for places. Values are kept under numbers of any type, and a key stands for the
place that it equals. Reading them back checks no more than whether the highest key equals the
number of keys, and that finds every gap because no place is counted twice. -/
namespace SqlTemplate.PlaceKeys
open KeyEquality GatheredItems NumberOrder Outcomes WholeNumbers

/-- A key that stands for a place. -/
def StandsFor (key : Value) (place : Nat) : Prop := key.equals (.int place) = true

/-- A key of an integer type. -/
def IsInteger (key : Value) : Prop := (∃ n, key = .int n) ∨ ∃ b, key = .bool b

/-- Keys that stand for the places from one to a number and for nothing else. -/
structure Gapless (keys : List Value) (n : Nat) : Prop where
  inside : ∀ key ∈ keys, ∃ place, 1 ≤ place ∧ place ≤ n ∧ StandsFor key place
  full : ∀ place, 1 ≤ place → place ≤ n → ∃ key ∈ keys, StandsFor key place

/-- The highest place of some keys: no key is above it, and the first that stands for it is an
integer. -/
structure Tops (keys : List Value) (last : Nat) : Prop where
  first : ∃ key, keys.find? (fun key => key.equals (.int last)) = some key ∧ IsInteger key
  highest : ∀ key ∈ keys, key.isAbove (.int last) = false

/-- Distinct keys that are numbers from one on. -/
structure Numbered (keys : List Value) : Prop where
  apart : Apart keys
  inside : ∀ key ∈ keys, key.isBelow 1 = .ok false
  numeric : ∀ key ∈ keys, key ≠ .float .nan

/-! ## Numbers as keys -/

section Keys
variable {key other : Value} {place place' : Nat}

theorem stands_iff (key : Value) (place : Nat) :
    StandsFor key place ↔ key.magnitude? = some (.finite (.ofInt place)) := by
  have same : key.equals (.int place) = key.sameNumber (.int place) := by
    cases key <;> simp only [Value.equals]
  have own : (Value.int place).magnitude? = some (.finite (.ofInt place)) := rfl
  rw [StandsFor, same, Value.sameNumber, own]
  cases key.magnitude? with
  | none => simp
  | some magnitude => cases magnitude <;> simp

theorem stands_unique (stands : StandsFor key place) (also : StandsFor key place') :
    place = place' := by
  have same := ((stands_iff _ _).mp stands).symm.trans ((stands_iff _ _).mp also)
  have numbers : (place : Int) = place' := of_int_inj (by simpa using same)
  omega

theorem int_stands (place : Nat) : StandsFor (.int place) place := (stands_iff _ _).mpr rfl

theorem stands_number (stands : StandsFor key place) : IsNumber key :=
  ⟨_, (stands_iff _ _).mp stands, nofun⟩

theorem rank_le_iff (place place' : Nat) :
    rankOf (.int place) ≤ rankOf (.int place') ↔ place ≤ place' := by
  have ranked (n : Nat) :
      rankOf (.int n) = ((((n : Int) : ℚ) : WithTop ℚ) : WithBot (WithTop ℚ)) := by
    rw [rank_of_magnitude rfl, rank, value_of_int]
  rw [ranked, ranked, WithBot.coe_le_coe, WithTop.coe_le_coe]
  exact_mod_cast Iff.rfl

/-- A number stands for a place just when it stands where the place does. -/
theorem stands_rank_iff (number : IsNumber key) (place : Nat) :
    StandsFor key place ↔ rankOf key = rankOf (.int place) := by
  rw [same_rank_iff number (stands_number (int_stands place)), stands_iff]
  rfl

theorem not_above_iff (number : IsNumber key) (place : Nat) :
    key.isAbove (.int place) = false ↔ rankOf key ≤ rankOf (.int place) := by
  rw [← Bool.not_eq_true, number_above_iff number (stands_number (int_stands place)), not_lt]

/-- A number is compared as a number. -/
theorem number_equals (number : IsNumber key) (other : Value) :
    key.equals other = key.sameNumber other := by
  obtain ⟨magnitude, given, -⟩ := number
  cases key with
  | bool | int | float | decimal => simp only [Value.equals]
  | _ => cases given

theorem number_self (number : IsNumber key) : key.equals key = true := by
  rw [number_equals number]
  obtain ⟨magnitude, given, defined⟩ := number
  rw [Value.sameNumber, given]
  cases magnitude with
  | undefined => exact absurd rfl defined
  | _ => simp

/-- Equal keys stand for the same places. -/
theorem stands_equal_iff (own : Consistent key) (consistent : Consistent other)
    (same : key.equals other = true) : StandsFor key place ↔ StandsFor other place :=
  ⟨consistent.onward _ _ (own.back _ same), own.onward _ _ same⟩

/-- Only a number is not refused by the order with one. -/
theorem ordered_single (inside : key.isBelow 1 = .ok false) : IsSingle key := by
  cases key with
  | collection => cases inside
  | mapping => cases inside
  | _ => trivial

theorem integer_stands (whole : IsInteger key) (inside : key.isBelow 1 = .ok false) :
    ∃ place : Nat, StandsFor key place ∧ key.toIndex = .ok place := by
  rcases whole with ⟨n, rfl⟩ | ⟨b, rfl⟩
  · rw [Value.isBelow, order_int] at inside
    have order : compare n 1 ≠ .lt := by simpa [Except.map] using inside
    rw [Ne, Int.compare_eq_lt] at order
    obtain ⟨place, rfl⟩ := Int.eq_ofNat_of_zero_le (show 0 ≤ n by omega)
    exact ⟨place, int_stands place, rfl⟩
  · cases b with
    | false => cases inside
    | true => exact ⟨1, (stands_iff _ _).mpr rfl, rfl⟩

theorem Numbered.consistent {keys : List Value} (numbered : Numbered keys) :
    ∀ key ∈ keys, Consistent key := fun key member =>
  single_consistent (ordered_single (numbered.inside key member))

theorem Numbered.numbers {keys : List Value} (numbered : Numbered keys) :
    ∀ key ∈ keys, IsNumber key := fun key member =>
  ordered_number (numbered.inside key member) (numbered.numeric key member)

end Keys

/-! ## The highest key -/

section Highest
variable {first key : Value} {others : List Value} {last : Nat}

theorem highest_among (first : Value) (others : List Value) :
    Prepared.highestOf first others ∈ first :: others := by
  induction others generalizing first with
  | nil => exact List.mem_cons_self
  | cons key others ih =>
    rcases List.mem_cons.mp (ih (if key.isAbove first then key else first)) with same | later
    · rw [Prepared.highestOf, List.foldl_cons, ← Prepared.highestOf, same]
      split <;> simp
    · exact List.mem_cons_of_mem _ (List.mem_cons_of_mem _ later)

/-- Among numbers no key stands higher than the highest. -/
theorem highest_greatest (numbers : ∀ key ∈ first :: others, IsNumber key) :
    ∀ key ∈ first :: others, rankOf key ≤ rankOf (Prepared.highestOf first others) := by
  induction others generalizing first with
  | nil => simp [Prepared.highestOf]
  | cons next others ih =>
    obtain ⟨number, number', later⟩ :
        IsNumber first ∧ IsNumber next ∧ ∀ key ∈ others, IsNumber key := by
      simpa only [List.forall_mem_cons] using numbers
    have higher (kept : Value) (number : IsNumber kept) :=
      ih (List.forall_mem_cons.mpr ⟨number, later⟩)
    rw [Prepared.highestOf, List.foldl_cons, ← Prepared.highestOf]
    simp only [List.forall_mem_cons] at higher ⊢
    split
    · rename_i above
      obtain ⟨own, rest⟩ := higher next number'
      have below := (number_above_iff number' number).mp above
      exact ⟨below.le.trans own, own, rest⟩
    · rename_i above
      obtain ⟨own, rest⟩ := higher first number
      rw [number_above_iff number' number, not_lt] at above
      exact ⟨own, above.trans own, rest⟩

theorem highest_stands (numbers : ∀ key ∈ first :: others, IsNumber key)
    (member : key ∈ first :: others) (stands : StandsFor key last)
    (below : ∀ key ∈ first :: others, key.isAbove (.int last) = false) :
    StandsFor (Prepared.highestOf first others) last := by
  have among := highest_among first others
  refine (stands_rank_iff (numbers _ among) last).mpr (le_antisymm ?_ ?_)
  · exact (not_above_iff (numbers _ among) last).mp (below _ among)
  · rw [← (stands_rank_iff (numbers _ member) last).mp stands]
    exact highest_greatest numbers key member

/-- Of distinct keys one at most stands for a place. -/
theorem Numbered.unique {keys : List Value} {other : Value} (numbered : Numbered keys)
    (member : key ∈ keys) (member' : other ∈ keys) (stands : StandsFor key last)
    (also : StandsFor other last) : key = other := by
  by_contra differ
  have apart : keys.Pairwise fun key other =>
      key.equals other = false ∨ other.equals key = false := numbered.apart.imp .inl
  have consistent := numbered.consistent
  have : Std.Symm fun key other : Value => key.equals other = false ∨ other.equals key = false :=
    ⟨fun _ _ => Or.symm⟩
  rcases apart.forall member member' differ with here | here
  · exact Bool.false_ne_true (here.symm.trans
      ((consistent _ member).onward _ _ stands ((consistent _ member').back _ also)))
  · exact Bool.false_ne_true (here.symm.trans
      ((consistent _ member').onward _ _ also ((consistent _ member).back _ stands)))

theorem found_stands {keys : List Value}
    (found : keys.find? (fun key => key.equals (.int last)) = some key) :
    key ∈ keys ∧ StandsFor key last := by
  refine ⟨List.mem_of_find?_eq_some found, ?_⟩
  have same := List.find?_some found
  exact same

theorem Tops.index (tops : Tops (first :: others) last) (numbered : Numbered (first :: others)) :
    StandsFor (Prepared.highestOf first others) last ∧
      (Prepared.highestOf first others).toIndex = .ok last := by
  obtain ⟨⟨key, found, whole⟩, below⟩ := tops
  obtain ⟨member, stands⟩ := found_stands found
  have highest := highest_stands numbered.numbers member stands below
  refine ⟨highest, ?_⟩
  obtain rfl := numbered.unique member (highest_among first others) stands highest
  obtain ⟨place, also, index⟩ := integer_stands whole (numbered.inside _ member)
  rw [index, stands_unique also stands]

/-- Distinct keys are no more than keys that each of them equals one of. -/
theorem Numbered.length_le {keys others : List Value} (numbered : Numbered keys)
    (known : ∀ key ∈ keys, ∃ again ∈ others, key.equals again = true) :
    keys.length ≤ others.length := by
  have consistent := numbered.consistent
  refine met_by_no_more (numbered.apart.imp_of_mem ?_) known
  intro key other member member' differ again same also
  exact Bool.false_ne_true (differ.symm.trans ((consistent _ member).onward _ _ same
    ((consistent _ member').back _ also)))

end Highest

/-! ## Places of keys -/

section Places
variable {keys : List Value} {places : List Nat}

theorem places_of_each (each : ∀ key ∈ keys, ∃ place, StandsFor key place) :
    ∃ places, List.Forall₂ StandsFor keys places := by
  induction keys with
  | nil => exact ⟨[], .nil⟩
  | cons key keys ih =>
    obtain ⟨place, stands⟩ := each key List.mem_cons_self
    obtain ⟨places, rest⟩ := ih fun key member => each key (List.mem_cons_of_mem _ member)
    exact ⟨place :: places, .cons stands rest⟩

theorem each_of_places (stand : List.Forall₂ StandsFor keys places) :
    ∀ key ∈ keys, ∃ place, StandsFor key place := by
  induction stand with
  | nil => exact nofun
  | cons own _ ih => exact List.forall_mem_cons.mpr ⟨⟨_, own⟩, ih⟩

theorem mem_places_iff (stand : List.Forall₂ StandsFor keys places) (place : Nat) :
    place ∈ places ↔ ∃ key ∈ keys, StandsFor key place := by
  induction stand with
  | nil => simp
  | @cons key place' keys places own rest ih =>
    rw [List.mem_cons, List.exists_mem_cons_iff, ih]
    refine or_congr_left ⟨?_, fun stands => stands_unique stands own⟩
    rintro rfl
    exact own

/-- Keys that do not equal each other stand for distinct places. -/
theorem places_distinct (stand : List.Forall₂ StandsFor keys places) (apart : Apart keys)
    (consistent : ∀ key ∈ keys, Consistent key) : places.Nodup := by
  induction stand with
  | nil => exact List.nodup_nil
  | @cons key place keys places own rest ih =>
    obtain ⟨differ, apart⟩ := List.pairwise_cons.mp apart
    obtain ⟨here, later⟩ := List.forall_mem_cons.mp consistent
    refine List.nodup_cons.mpr ⟨fun again => ?_, ih apart later⟩
    obtain ⟨other, member, stands⟩ := (mem_places_iff rest place).mp again
    have equal := here.onward _ other own ((later other member).back _ stands)
    exact Bool.false_ne_true ((differ other member).symm.trans equal)

theorem count_of_gapless (distinct : places.Nodup)
    (gapless : ∀ place, place ∈ places ↔ 1 ≤ place ∧ place ≤ n) : places.length = n := by
  have range : places.Perm (List.range' 1 n) := by
    refine (List.perm_ext_iff_of_nodup distinct List.nodup_range').mpr fun place => ?_
    rw [gapless, List.mem_range'_1]
    omega
  rw [range.length_eq, List.length_range']

/-- Gapless keys stand for the places of a range. -/
theorem gapless_iff_places (stand : List.Forall₂ StandsFor keys places) :
    Gapless keys n ↔ ∀ place, place ∈ places ↔ 1 ≤ place ∧ place ≤ n := by
  simp only [mem_places_iff stand]
  constructor
  · rintro ⟨inside, full⟩ place
    refine ⟨?_, fun bounds => full place bounds.1 bounds.2⟩
    rintro ⟨key, member, stands⟩
    obtain ⟨own, first, last, also⟩ := inside key member
    rw [stands_unique stands also]
    exact ⟨first, last⟩
  · intro each
    refine ⟨fun key member => ?_, fun place first last => (each place).mpr ⟨first, last⟩⟩
    obtain ⟨place, stands⟩ := each_of_places stand key member
    obtain ⟨first, last⟩ := (each place).mp ⟨key, member, stands⟩
    exact ⟨place, first, last, stands⟩

end Places

/-! ## What is read of a statement -/

/-- The keys that a statement has values under, in the order in which they were first bound. -/
def keysOf (prepared : Prepared) : List Value := prepared.positional.map Prod.fst

section Statement
variable {prepared : Prepared}

theorem read_each {read : Nat → Except Error Value} {value : Nat → Value} {places : List Nat}
    (each : ∀ place ∈ places, read place = .ok (value place)) :
    places.mapM read = .ok (places.map value) := by
  rw [mapM_ok_iff, List.forall₂_map_right_iff, List.forall₂_same]
  exact each

theorem value_at_iff (prepared : Prepared) (place : Nat) (value : Value) :
    prepared.valueAt place = .ok value ↔
      Value.lookup? prepared.positional (.int place) = some value := by
  rw [Prepared.valueAt]
  cases Value.lookup? prepared.positional (.int place) <;> simp

theorem parameters_none (none : keysOf prepared = []) : prepared.positionalParameters = .ok [] := by
  rw [keysOf] at none
  rw [Prepared.positionalParameters, none]

theorem parameters_some (keys : keysOf prepared = first :: others) :
    prepared.positionalParameters =
      if (Prepared.highestOf first others).equals (.int (keysOf prepared).length) then
        (List.range' 1 (keysOf prepared).length).mapM prepared.valueAt
      else
        ((Prepared.highestOf first others).toIndex.mapError Error.ofKind).bind fun last =>
          .error (Prepared.neverBound (prepared.unboundPlaces last.toNat) prepared.sql) := by
  rw [keysOf, List.length_map]
  rw [keysOf] at keys
  rw [Prepared.positionalParameters, keys]
  rfl

/-- Without a gap the values are read place by place. -/
theorem parameters_gapless (apart : Apart (keysOf prepared))
    (consistent : ∀ key ∈ keysOf prepared, Consistent key) (gapless : Gapless (keysOf prepared) n) :
    ∃ values, prepared.positionalParameters = .ok values ∧ values.length = n ∧
      ∀ index < n, values[index]? =
        Value.lookup? prepared.positional (.int (index + 1 : Nat)) := by
  obtain ⟨places, stand⟩ := places_of_each fun key member =>
    let ⟨place, _, _, stands⟩ := gapless.inside key member
    ⟨place, stands⟩
  have count := count_of_gapless (places_distinct stand apart consistent)
    ((gapless_iff_places stand).mp gapless)
  have size : (keysOf prepared).length = n := by rw [← count, stand.length_eq]
  let value (place : Nat) : Value :=
    (Value.lookup? prepared.positional (.int place)).getD .null
  have found : ∀ place ∈ List.range' 1 n,
      Value.lookup? prepared.positional (.int place) = some (value place) := by
    intro place member
    rw [List.mem_range'_1] at member
    obtain ⟨_, found⟩ := Option.isSome_iff_exists.mp
      ((lookup_some_iff _ _).mpr (gapless.full place member.1 (by omega)))
    simp only [value, found, Option.getD_some]
  refine ⟨(List.range' 1 n).map value, ?_, ?_, ?_⟩
  · have read := read_each fun place member => (value_at_iff prepared _ _).mpr (found place member)
    cases keys : keysOf prepared with
    | nil =>
      rw [keys] at size
      cases size
      exact parameters_none keys
    | cons first others =>
      have some : 1 ≤ n := by rw [← size, keys, List.length_cons]; omega
      rw [keys] at gapless
      have numbers : ∀ key ∈ first :: others, IsNumber key := fun key member =>
        let ⟨_, _, _, stands⟩ := gapless.inside key member
        stands_number stands
      have below : ∀ key ∈ first :: others, key.isAbove (.int n) = false := by
        intro key member
        obtain ⟨place, -, high, stands⟩ := gapless.inside key member
        rw [not_above_iff (numbers key member), (stands_rank_iff (numbers key member) _).mp stands,
          rank_le_iff]
        exact high
      obtain ⟨key, member, stands⟩ := gapless.full n some (Nat.le_refl n)
      have top : (Prepared.highestOf first others).equals (.int n) = true :=
        highest_stands numbers member stands below
      rw [parameters_some keys, size, if_pos top, read]
  · rw [List.length_map, List.length_range']
  · intro index inside
    have here : (List.range' 1 n)[index]? = some (1 + index) := by
      simp [inside]
    rw [List.getElem?_map, here, Option.map_some, Nat.add_comm 1]
    refine (found (index + 1) ?_).symm
    rw [List.mem_range'_1]
    omega

/-! ## Gaps -/

section Numbered
variable (numbered : Numbered (keysOf prepared))
include numbered

end Numbered

end Statement

end SqlTemplate.PlaceKeys
