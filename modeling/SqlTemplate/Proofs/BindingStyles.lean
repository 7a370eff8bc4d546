import SqlTemplate.Action
import SqlTemplate.Proofs.Bindings
import SqlTemplate.Proofs.QueueBinding

/-! The two styles of binding, by place and by marker. A statement is bound in one style at most,
whatever is tried on it: a call that fails does so before it changes anything, and a style that is
in use rules the other out. A place is refused only if it is below one, and what is not a number is
not. -/
namespace SqlTemplate.BindingStyles
open Bindings QueueBinding

/-- One call that binds a value under a key. -/
structure BindCall where
  key : Value
  value : Value
  type : BindType

/-- A call on a statement. A step that fails ends the call, and what was done to the statement until
then stays done. -/
def BindCall.perform (call : BindCall) : Action Prepared Unit :=
  Prepared.bindStep call.key call.value call.type

/-- Texts are markers. All other keys stand for places. -/
def IsMarker (key : Value) : Prop := ∃ marker, key = .str marker

variable {call : BindCall} {prepared after : Prepared}

/-- A call binds its value or leaves the statement alone. -/
theorem perform_goes (call : BindCall) (prepared : Prepared) :
    (∃ after, call.perform prepared = (.ok (), after) ∧
      Bound prepared call.value call.type call.key after) ∨
    ∃ error, call.perform prepared = (.error error, prepared) ∧
      Unbound prepared call.value call.type call.key error :=
  step_goes call.key call.value call.type prepared

/-- The state that calls leave one after the other, whether they fail or not. -/
def bindAll (prepared : Prepared) (calls : List BindCall) : Prepared :=
  calls.foldl (fun prepared call => (call.perform prepared).2) prepared

/-- What a statement keeps when a value is bound it keeps through all calls. -/
theorem bind_all_keeps (Holds : Prepared → Prop)
    (step : ∀ {prepared value type key after}, Holds prepared →
      Bound prepared value type key after → Holds after)
    (start : Holds prepared) (calls : List BindCall) : Holds (bindAll prepared calls) := by
  induction calls generalizing prepared with
  | nil => exact start
  | cons call calls ih =>
    have next : Holds (call.perform prepared).2 := by
      obtain ⟨after, done, bound⟩ | ⟨error, failed, -⟩ := perform_goes call prepared
      · rw [done]
        exact step start bound
      · rw [failed]
        exact start
    exact ih next

/-! ## One style -/

/-- A statement is bound in one style at most, and each of its places is one, above one or not a
number. -/
structure OneStyle (prepared : Prepared) : Prop where
  unmixed : prepared.positional = [] ∨ prepared.named = []
  positive : ∀ key ∈ prepared.positional.map Prod.fst,
    key.order 1 = .ok (some .eq) ∨ key.order 1 = .ok (some .gt) ∨ key = .float .nan

theorem new_one_style (typeName sql : String) (style : MarkerStyle)
    (coercions : Option Coercions) : OneStyle (.new typeName style sql coercions) :=
  ⟨.inl rfl, nofun⟩

/-- Only a double that is not a number is neither below one nor in any other order with it. -/
theorem unordered_is_nan {key : Value} (unordered : key.order 1 = .ok none) :
    key = .float .nan := by
  cases key with
  | float x =>
    cases x with
    | nan => rfl
    | infinity negative => cases unordered
    | finite negative mantissa exponent => cases unordered
  | decimal x => cases x <;> cases unordered
  | _ => cases unordered

theorem inside_cases {key : Value} (inside : key.isBelow 1 = .ok false) :
    key.order 1 = .ok (some .eq) ∨ key.order 1 = .ok (some .gt) ∨ key = .float .nan := by
  rw [Value.isBelow] at inside
  cases ordered : key.order 1 with
  | error kind =>
    rw [ordered] at inside
    cases inside
  | ok order =>
    rw [ordered] at inside
    cases order with
    | none => exact .inr (.inr (unordered_is_nan ordered))
    | some order =>
      cases order with
      | lt => cases inside
      | eq => exact .inl rfl
      | gt => exact .inr (.inl rfl)

theorem put_keys {items : List (Value × Value)} {key other : Value}
    (member : other ∈ (Value.put items key value).map Prod.fst) :
    other ∈ items.map Prod.fst ∨ other = key := by
  induction items with
  | nil => exact .inr (List.mem_singleton.mp member)
  | cons item items ih =>
    rw [Value.put] at member
    split at member
    · exact .inl member
    · rw [List.map_cons, List.mem_cons] at member ⊢
      rcases member with here | later
      · exact .inl (.inl here)
      · exact (ih later).imp_left .inr

theorem bound_one_style (one : OneStyle prepared) (bound : Bound prepared value type key after) :
    OneStyle after := by
  cases bound with
  | marker coerced unplaced => exact ⟨.inl unplaced, one.positive⟩
  | place coerced unmarked inside =>
    refine ⟨.inr unmarked, fun other member => ?_⟩
    obtain old | rfl := put_keys member
    · exact one.positive other old
    · exact inside_cases inside

/-! ## The other style -/

/-- A statement is bound in the style that a key is not of. -/
def BoundOtherwise (prepared : Prepared) (key : Value) : Prop :=
  prepared.positional ≠ [] ∧ IsMarker key ∨ prepared.named ≠ [] ∧ ¬IsMarker key

theorem put_given (items : List (Value × Value)) (key value : Value) :
    Value.put items key value ≠ [] := by
  cases items with
  | nil => exact List.cons_ne_nil _ _
  | cons item items =>
    rw [Value.put]
    split <;> exact List.cons_ne_nil _ _

theorem assign_given (bound : List (String × Value)) (marker : String) (value : Value) :
    Prepared.assign bound marker value ≠ [] := by
  intro none
  have put := put_marker bound marker value
  rw [none] at put
  exact put_given _ _ _ put

/-- What is bound by place or by marker stays bound. -/
theorem bound_keeps_style (bound : Bound prepared value type key after)
    (otherwise : BoundOtherwise prepared other) : BoundOtherwise after other := by
  cases bound with
  | marker coerced unplaced =>
    obtain ⟨placed, -⟩ | ⟨-, places⟩ := otherwise
    · exact absurd unplaced placed
    · exact .inr ⟨assign_given _ _ _, places⟩
  | place coerced unmarked inside =>
    obtain ⟨-, marks⟩ | ⟨marked, -⟩ := otherwise
    · exact .inl ⟨put_given _ _ _, marks⟩
    · exact absurd unmarked marked

/-- Nothing is bound under a key of the style that is not in use. -/
theorem not_bound_otherwise (bound : Bound prepared value type key after) :
    ¬BoundOtherwise prepared key := by
  rintro (⟨placed, marker, rfl⟩ | ⟨marked, places⟩)
  · cases bound with
    | marker coerced unplaced => exact placed unplaced
    | place coerced unmarked inside => cases inside
  · cases bound with
    | marker coerced unplaced => exact places ⟨_, rfl⟩
    | place coerced unmarked inside => exact marked unmarked

theorem other_style_fails (otherwise : BoundOtherwise prepared call.key) :
    ∃ error, call.perform prepared = (.error error, prepared) := by
  obtain ⟨after, -, bound⟩ | ⟨error, failed, -⟩ := perform_goes call prepared
  · exact absurd otherwise (not_bound_otherwise bound)
  · exact ⟨error, failed⟩

/-- Whatever calls are made on a new statement, it is bound in one style at most and at no place
below one, and a call that fails leaves it as it is, with all that it renders to. Once it is bound
in one style, a call of the other style fails, whatever is called in between. -/
theorem bindings_keep_one_style (typeName sql : String) (style : MarkerStyle)
    (coercions : Option Coercions) (calls : List BindCall) :
    let prepared := bindAll (.new typeName style sql coercions) calls
    OneStyle prepared ∧
      (∀ (call : BindCall) error, (call.perform prepared).1 = .error error →
        (call.perform prepared).2 = prepared ∧
          prepared.bind call.key call.value call.type = .error error) ∧
      ∀ call : BindCall, BoundOtherwise prepared call.key → ∀ later,
        ∃ error, call.perform (bindAll prepared later) =
          (.error error, bindAll prepared later) := by
  intro prepared
  have fresh := new_one_style typeName sql style coercions
  refine ⟨bind_all_keeps OneStyle bound_one_style fresh calls, ?_, ?_⟩
  · intro call error fails
    obtain ⟨after, done, -⟩ | ⟨_, failed, -⟩ := perform_goes call prepared
    · rw [done] at fails
      cases fails
    · rw [failed] at fails
      cases fails
      refine ⟨by rw [failed], ?_⟩
      rw [BindCall.perform] at failed
      simp only [Prepared.bind, failed, Except.map]
  · intro call otherwise later
    have still := bind_all_keeps (BoundOtherwise · call.key)
      (fun before bound => bound_keeps_style bound before) otherwise later
    exact other_style_fails still

/-- A marker is refused where a place is bound, and so it is after one more place. -/
theorem marker_is_refused_beside_places :
    let first : BindCall := ⟨.int 1, .str "x", .string⟩
    let second : BindCall := ⟨.int 2, .null, .integer⟩
    let marker : BindCall := ⟨.str ":a", .int 1, .integer⟩
    let prepared := bindAll (.new "SqliteStatement" .colon "SELECT ?, ?" none) [first]
    BoundOtherwise prepared marker.key ∧
      ∃ error, marker.perform (bindAll prepared [second]) =
        (.error error, bindAll prepared [second]) := by
  intro first second marker prepared
  have otherwise : BoundOtherwise prepared marker.key :=
    .inl ⟨List.cons_ne_nil (Value.int 1, Value.str "x") [], ":a", rfl⟩
  obtain ⟨-, -, refused⟩ :=
    bindings_keep_one_style "SqliteStatement" "SELECT ?, ?" .colon none [first]
  exact ⟨otherwise, refused marker otherwise [second]⟩

/-- What is not a number is bound as a place, though it is in no order with one. -/
theorem nan_is_bound_as_place :
    let call : BindCall := ⟨.float .nan, .int 1, .integer⟩
    let start := Prepared.new "SqliteStatement" .colon "SELECT ?" none
    (call.perform start).1 = .ok () ∧
      (call.perform start).2.positional = [(.float .nan, .int 1)] ∧
      (Value.float .nan).order 1 = .ok none := by
  exact ⟨by rfl, by rfl, by rfl⟩

end SqlTemplate.BindingStyles
