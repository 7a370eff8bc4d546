import Mathlib.Data.List.Sort
import SqlTemplate.Proofs.BindingStyles

/-! Parameters that are bound by place, in any order and some of them again, and then read back.
They are read if the places are those from one to some number, and a place has the value that was
bound there last. -/
namespace SqlTemplate.GaplessPlaces
open Bindings BindingStyles GatheredItems KeyEquality NumberOrder PlaceKeys

/-- The keys of calls. -/
def keys (calls : List BindCall) : List Value := calls.map BindCall.key

/-- What a call by place needs to succeed where nothing is bound by marker. -/
structure Fits (coercions : Option Coercions) (call : BindCall) (bound : Value) : Prop where
  coerced : coerce call.value call.type coercions = .ok bound
  inside : call.key.isBelow 1 = .ok false

/-- The keys of calls with their values, as far as these are coerced. -/
def pairsOf (coercions : Option Coercions) (calls : List BindCall) : List (Value × Value) :=
  calls.filterMap fun call =>
    (coerce call.value call.type coercions).toOption.map fun bound => (call.key, bound)

section Calls
variable {prepared : Prepared} {call : BindCall} {calls others : List BindCall}
  {coercions : Option Coercions} {place : Nat} {bound : Value}

/-! ## Calls one after the other -/

theorem Fits.unmarked (fits : Fits coercions call bound) : ¬IsMarker call.key := by
  rintro ⟨marker, marked⟩
  have inside := fits.inside
  rw [marked] at inside
  cases inside

theorem pairs_of_snoc (fits : Fits coercions call bound) (calls : List BindCall) :
    pairsOf coercions (calls ++ [call]) = pairsOf coercions calls ++ [(call.key, bound)] := by
  simp [pairsOf, fits.coerced, Except.toOption]

/-- A new statement has what a series of calls by place has bound. -/
structure Holds (sql : String) (coercions : Option Coercions) (calls : List BindCall)
    (prepared : Prepared) : Prop where
  unmarked : prepared.named = []
  text : prepared.sql = sql
  converts : prepared.coercions = coercions
  bound : prepared.positional = Value.entriesOf (pairsOf coercions calls)

theorem keys_of_pairs (each : ∀ call ∈ calls, ∃ bound, Fits coercions call bound) :
    (pairsOf coercions calls).map Prod.fst = keys calls := by
  induction calls using List.reverseRecOn with
  | nil => rfl
  | append_singleton calls call ih =>
    obtain ⟨bound, fits⟩ := each call List.mem_concat_self
    rw [pairs_of_snoc fits, List.map_append,
      ih fun call member => each call (List.mem_append_left _ member), keys, keys, List.map_append]
    rfl

theorem keys_inside (each : ∀ call ∈ calls, ∃ bound, Fits coercions call bound) :
    ∀ key ∈ keys calls, key.isBelow 1 = .ok false := by
  intro key member
  obtain ⟨call, among, rfl⟩ := List.mem_map.mp member
  obtain ⟨bound, fits⟩ := each call among
  exact fits.inside

theorem keys_consistent (each : ∀ call ∈ calls, ∃ bound, Fits coercions call bound) :
    ∀ key ∈ keys calls, Consistent key := fun key member =>
  single_consistent (ordered_single (keys_inside each key member))

theorem pairs_consistent (each : ∀ call ∈ calls, ∃ bound, Fits coercions call bound) :
    ∀ pair ∈ pairsOf coercions calls, Consistent pair.1 := by
  intro pair member
  have among := List.mem_map_of_mem (f := Prod.fst) member
  rw [keys_of_pairs each] at among
  exact keys_consistent each pair.1 among

/-- What the keys of a statement are, compared with those of the calls. -/
structure Keeps (calls : List BindCall) (prepared : Prepared) : Prop where
  consistent : ∀ key ∈ keys calls, Consistent key
  apart : Apart (keysOf prepared)
  among : ∀ key ∈ keysOf prepared, key ∈ keys calls
  found : ∀ key ∈ keys calls, ∃ own ∈ keysOf prepared, own = key ∨ own.equals key = true
  first : ∀ value : Value, (keysOf prepared).find? (fun key => key.equals value) =
    (keys calls).find? fun key => key.equals value

theorem Holds.keeps (holds : Holds sql coercions calls prepared)
    (each : ∀ call ∈ calls, ∃ bound, Fits coercions call bound) : Keeps calls prepared := by
  obtain ⟨places, gathers⟩ := entries_gather (pairs_consistent each)
  have first := entries_find (pairs_consistent each)
  rw [← holds.bound, keys_of_pairs each] at first
  rw [← holds.bound] at gathers
  refine ⟨keys_consistent each, gathers.apart, fun key member => ?_, fun key member => ?_, first⟩
  · obtain ⟨item, among, rfl⟩ := List.mem_map.mp member
    obtain ⟨pair, given, same⟩ := item_key gathers among
    rw [← keys_of_pairs each, ← same]
    exact List.mem_map_of_mem given
  · rw [← keys_of_pairs each] at member
    obtain ⟨pair, given, rfl⟩ := List.mem_map.mp member
    exact gathers.found pair given

/-- A key of a call has a key of the statement that stands for the same places. -/
theorem Keeps.own (keeps : Keeps calls prepared) (member : key ∈ keys calls) :
    ∃ own ∈ keysOf prepared, ∀ place, StandsFor own place ↔ StandsFor key place := by
  obtain ⟨own, among, rfl | same⟩ := keeps.found key member
  · exact ⟨own, among, fun _ => Iff.rfl⟩
  · have consistent := keeps.consistent own (keeps.among own among)
    exact ⟨own, among, fun _ => stands_equal_iff consistent (keeps.consistent key member) same⟩

section Numbers
variable (inside : ∀ key ∈ keys calls, key.isBelow 1 = .ok false)
  (numeric : ∀ key ∈ keys calls, key ≠ .float .nan)
include inside numeric

theorem keys_numbers : ∀ key ∈ keys calls, IsNumber key := fun key member =>
  ordered_number (inside key member) (numeric key member)

theorem Keeps.numbered (keeps : Keeps calls prepared) : Numbered (keysOf prepared) :=
  ⟨keeps.apart, fun key member => inside key (keeps.among key member),
    fun key member => numeric key (keeps.among key member)⟩

/-- A statement that was bound by other calls under the same keys has an equal key for each key. -/
theorem Keeps.known {other : Prepared} (keeps : Keeps calls prepared) (again : Keeps others other)
    (alike : ∀ key, key ∈ keys others ↔ key ∈ keys calls) :
    ∀ key ∈ keysOf prepared, ∃ own ∈ keysOf other, key.equals own = true := by
  intro key member
  have bound := keeps.among key member
  obtain ⟨own, among, rfl | same⟩ := again.found key ((alike key).mpr bound)
  · exact ⟨own, among, number_self (keys_numbers inside numeric own bound)⟩
  · exact ⟨own, among, (again.consistent own (again.among own among)).back _ same⟩

end Numbers

section Read
variable (holds : Holds sql coercions calls prepared)
  (each : ∀ call ∈ calls, ∃ bound, Fits coercions call bound)
include holds each

end Read

end Calls

end SqlTemplate.GaplessPlaces
