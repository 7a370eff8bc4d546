import SqlTemplate.Statement.Prepared

/-! Binding one value to a statement. It changes what is bound by marker or what is bound by place
and nothing else, and what can be in its way is told by the value, the key and what was bound
before. -/
namespace SqlTemplate.Bindings

/-- The two ways to bind a value under a key, each with the statement it leaves. -/
inductive Bound (prepared : Prepared) (value : Value) (type : BindType) : Value → Prepared → Prop
  | marker (coerced : coerce value type prepared.coercions = .ok bound)
      (unplaced : prepared.positional = []) :
    Bound prepared value type (.str marker)
      { prepared with named := Prepared.assign prepared.named marker bound }
  | place (coerced : coerce value type prepared.coercions = .ok bound)
      (unmarked : prepared.named = []) (inside : key.isBelow 1 = .ok false) :
    Bound prepared value type key
      { prepared with positional := Value.put prepared.positional key bound }

/-- What can be in the way of binding a value under a key, with the error that tells of it. -/
inductive Unbound (prepared : Prepared) (value : Value) (type : BindType) : Value → Error → Prop
  | unfit (refused : coerce value type prepared.coercions = .error error) :
    Unbound prepared value type key error
  /-- Something is bound in the other way. -/
  | mixed (bound : prepared.positional ≠ [] ∨ prepared.named ≠ []) :
    Unbound prepared value type key (Prepared.mixedBindings prepared.sql)
  | below (under : key.isBelow 1 = .ok true) :
    Unbound prepared value type key (Prepared.badPosition key prepared.sql)
  /-- The key is neither a marker nor in any order with places. -/
  | disordered (untitled : ∀ marker, key ≠ .str marker) (refused : key.isBelow 1 = .error kind) :
    Unbound prepared value type key (.ofKind kind)

variable {prepared after : Prepared} {key value : Value} {type : BindType} {error : Error}

/-- A value goes under a marker as it would under a text in a mapping. -/
theorem put_marker (bound : List (String × Value)) (marker : String) (value : Value) :
    Value.put (bound.map fun (marker, value) => (.str marker, value)) (.str marker) value =
      (Prepared.assign bound marker value).map fun (marker, value) => (.str marker, value) := by
  induction bound with
  | nil => rfl
  | cons entry bound ih =>
    obtain ⟨k, v⟩ := entry
    have same : (Value.str k).equals (.str marker) = (k == marker) := by simp [Value.equals]
    simp only [List.map_cons, Value.put, Prepared.assign, same]
    split
    · rfl
    · simp only [List.map_cons, ih]

theorem values_under_markers (bound : List (String × Value)) :
    (bound.map fun (marker, value) => (Value.str marker, value)).map Prod.snd =
      bound.map Prod.snd := by
  rw [List.map_map]
  rfl

/-- Binding under a key that is no marker, once the value fits its type. -/
theorem bind_elsewhere (coerced : coerce value type prepared.coercions = .ok bound)
    (untitled : ∀ marker, key ≠ .str marker) :
    Prepared.bindStep key value type prepared = Prepared.bindPlace key bound prepared := by
  simp only [Prepared.bindStep, bind, Action.andThen, Action.state, Action.ofExcept, coerced]

/-- A marker takes the value where nothing is bound by place. -/
theorem step_marker (coerced : coerce value type prepared.coercions = .ok bound)
    (unplaced : prepared.positional = []) (marker : String) :
    Prepared.bindStep (.str marker) value type prepared =
      (.ok (), { prepared with named := Prepared.assign prepared.named marker bound }) := by
  have free : prepared.positional.isEmpty = true := by rw [unplaced]; rfl
  simp only [Prepared.bindStep, bind, Action.andThen, Action.state, Action.ofExcept, coerced, free]
  rfl

/-- Any other key that is not below one takes it where nothing is bound by marker. -/
theorem step_place (coerced : coerce value type prepared.coercions = .ok bound)
    (unmarked : prepared.named = []) (inside : key.isBelow 1 = .ok false) :
    Prepared.bindStep key value type prepared =
      (.ok (), { prepared with positional := Value.put prepared.positional key bound }) := by
  have untitled : ∀ marker, key ≠ .str marker := by
    rintro marker rfl
    cases inside
  have free : prepared.isNamed = false := by simp [Prepared.isNamed, unmarked]
  rw [bind_elsewhere coerced untitled]
  simp only [Prepared.bindPlace, bind, Action.andThen, Action.state, Action.ofExcept, inside, free]
  rfl

/-- The only step that changes a statement is the last one: a value is bound, or the statement is
left alone. -/
theorem step_goes (key value : Value) (type : BindType) (prepared : Prepared) :
    (∃ after, Prepared.bindStep key value type prepared = (.ok (), after) ∧
      Bound prepared value type key after) ∨
    ∃ error, Prepared.bindStep key value type prepared = (.error error, prepared) ∧
      Unbound prepared value type key error := by
  cases coerced : coerce value type prepared.coercions with
  | error error =>
    refine .inr ⟨error, ?_, .unfit coerced⟩
    simp only [Prepared.bindStep, bind, Action.andThen, Action.state, Action.ofExcept, coerced]
  | ok bound =>
    by_cases titled : ∃ marker, key = .str marker
    · obtain ⟨marker, rfl⟩ := titled
      by_cases unplaced : prepared.positional = []
      · exact .inl ⟨_, step_marker coerced unplaced marker, .marker coerced unplaced⟩
      · have placed : prepared.positional.isEmpty = false := by simpa using unplaced
        refine .inr ⟨_, ?_, .mixed (.inl unplaced)⟩
        simp only [Prepared.bindStep, bind, Action.andThen, Action.state, Action.ofExcept, coerced,
          placed]
        rfl
    · have untitled : ∀ marker, key ≠ .str marker := fun marker same => titled ⟨marker, same⟩
      cases inside : key.isBelow 1 with
      | error kind =>
        refine .inr ⟨_, ?_, .disordered untitled inside⟩
        rw [bind_elsewhere coerced untitled]
        simp only [Prepared.bindPlace, bind, Action.andThen, Action.state, Action.ofExcept, inside]
        rfl
      | ok below =>
        cases below with
        | true =>
          refine .inr ⟨_, ?_, .below inside⟩
          rw [bind_elsewhere coerced untitled]
          simp only [Prepared.bindPlace, bind, Action.andThen, Action.state, Action.ofExcept,
            inside]
          rfl
        | false =>
          by_cases unmarked : prepared.named = []
          · exact .inl ⟨_, step_place coerced unmarked inside, .place coerced unmarked inside⟩
          · have marked : prepared.isNamed = true := by simpa [Prepared.isNamed] using unmarked
            refine .inr ⟨_, ?_, .mixed (.inr unmarked)⟩
            rw [bind_elsewhere coerced untitled]
            simp only [Prepared.bindPlace, bind, Action.andThen, Action.state, Action.ofExcept,
              inside, marked]
            rfl

/-- Binding is told by its only step. -/
theorem bind_goes (prepared : Prepared) (key value : Value) (type : BindType) :
    (∃ after, prepared.bind key value type = .ok after ∧ Bound prepared value type key after) ∨
      ∃ error, prepared.bind key value type = .error error ∧
        Unbound prepared value type key error := by
  obtain ⟨after, done, bound⟩ | ⟨error, failed, unbound⟩ := step_goes key value type prepared
  · exact .inl ⟨after, by simp only [Prepared.bind, done, Except.map], bound⟩
  · exact .inr ⟨error, by simp only [Prepared.bind, failed, Except.map], unbound⟩

theorem bound_of_ok (done : prepared.bind key value type = .ok after) :
    Bound prepared value type key after := by
  obtain ⟨_, same, bound⟩ | ⟨_, failed, -⟩ := bind_goes prepared key value type
  · cases done.symm.trans same
    exact bound
  · cases done.symm.trans failed

theorem unbound_of_error (failed : prepared.bind key value type = .error error) :
    Unbound prepared value type key error := by
  obtain ⟨_, done, -⟩ | ⟨_, same, unbound⟩ := bind_goes prepared key value type
  · cases done.symm.trans failed
  · cases failed.symm.trans same
    exact unbound

/-- Binding changes nothing but what is bound. -/
theorem bind_frame (done : prepared.bind key value type = .ok after) :
    after = { prepared with positional := after.positional, named := after.named } := by
  cases bound_of_ok done <;> rfl

theorem bind_queue_frame {place : Nat} {queue left : Queue}
    (done : prepared.bindQueue place queue = (.ok after, left)) :
    after = { prepared with positional := after.positional, named := after.named } := by
  induction queue generalizing prepared place with
  | nil =>
    cases done
    rfl
  | cons entry rest ih =>
    unfold Prepared.bindQueue at done
    split at done
    · cases done
    · rename_i one
      have frame := ih done
      rw [bind_frame one] at frame
      exact frame

end SqlTemplate.Bindings
