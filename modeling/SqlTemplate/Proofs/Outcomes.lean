import Mathlib.Data.List.Forall2

/-! What steps that may fail end in. A chain of them ends well when each of them does, and with the
first fault otherwise. -/
namespace SqlTemplate.Outcomes

variable {ε α β : Type}

theorem map_ok_iff {f : α → β} {outcome : Except ε α} {b : β} :
    outcome.map f = .ok b ↔ ∃ a, outcome = .ok a ∧ b = f a := by
  cases outcome with
  | error error => simp [Except.map]
  | ok a => simp [Except.map, eq_comm]

theorem map_error_iff {f : α → β} {outcome : Except ε α} {fault : ε} :
    outcome.map f = .error fault ↔ outcome = .error fault := by
  cases outcome with
  | error error => simp [Except.map]
  | ok a => simp [Except.map]

theorem bind_ok_iff {outcome : Except ε α} {next : α → Except ε β} {b : β} :
    outcome.bind next = .ok b ↔ ∃ a, outcome = .ok a ∧ next a = .ok b := by
  cases outcome with
  | error error => simp [Except.bind]
  | ok a => simp [Except.bind]

theorem guarded_ok_iff {holds : Bool} {a b : α} {fault : ε} :
    (if holds then Except.ok a else .error fault) = .ok b ↔ holds = true ∧ b = a := by
  cases holds <;> simp [eq_comm]

theorem guarded_error_iff {holds : Bool} {a : α} {fault other : ε} :
    (if holds then Except.ok a else .error fault) = .error other ↔
      holds = false ∧ other = fault := by
  cases holds <;> simp [eq_comm]

/-- A step for each element of a list gives one value for each. -/
theorem mapM_ok_iff {f : α → Except ε β} {xs : List α} {ys : List β} :
    xs.mapM f = .ok ys ↔ List.Forall₂ (fun x y => f x = .ok y) xs ys := by
  induction xs generalizing ys with
  | nil => cases ys <;> simp [pure, Except.pure]
  | cons x xs ih =>
    rw [List.mapM_cons, List.forall₂_cons_left_iff]
    constructor
    · intro made
      obtain ⟨y, first, goes_on⟩ := bind_ok_iff.mp made
      obtain ⟨rest, later, same⟩ := bind_ok_iff.mp goes_on
      exact ⟨y, rest, first, ih.mp later, (Except.ok.inj same).symm⟩
    · rintro ⟨y, rest, first, later, rfl⟩
      exact bind_ok_iff.mpr ⟨y, first, bind_ok_iff.mpr ⟨rest, ih.mpr later, rfl⟩⟩

theorem mapM_given_iff {f : α → Except ε β} {xs : List α} :
    (∃ ys, xs.mapM f = .ok ys) ↔ ∀ x ∈ xs, ∃ y, f x = .ok y := by
  simp only [mapM_ok_iff]
  induction xs with
  | nil => exact ⟨nofun, fun _ => ⟨[], .nil⟩⟩
  | cons x xs ih =>
    rw [List.forall_mem_cons, ← ih]
    constructor
    · rintro ⟨ys, each⟩
      cases each with
      | cons first rest => exact ⟨⟨_, first⟩, _, rest⟩
    · rintro ⟨⟨y, first⟩, ys, rest⟩
      exact ⟨y :: ys, .cons first rest⟩

end SqlTemplate.Outcomes
