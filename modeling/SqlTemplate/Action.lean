import SqlTemplate.Error

/-! Computations on a state that may end in an error. Whatever was done before the error stays
done. -/
namespace SqlTemplate

/-- A computation on a state: its outcome, and the state that was reached. -/
def Action (σ α : Type) := σ → Except Error α × σ

namespace Action

variable {σ α β : Type}

/-- Ends at once with a value. -/
def value (a : α) : Action σ α := fun state => (.ok a, state)

def fail (error : Error) : Action σ α := fun state => (.error error, state)

/-- Ends at once with a value or an error. -/
def ofExcept (outcome : Except Error α) : Action σ α := fun state => (outcome, state)

/-- Goes on with the value of a computation. An error ends both. -/
def andThen (first : Action σ α) (next : α → Action σ β) : Action σ β := fun state =>
  match first state with
  | (.ok a, state) => next a state
  | (.error error, state) => (.error error, state)

instance : Monad (Action σ) where
  pure := value
  bind := andThen

/-- The state. -/
def state : Action σ σ := fun state => (.ok state, state)

def change (f : σ → σ) : Action σ Unit := fun state => (.ok (), f state)

/-- Carries out a last step after a computation, whether that failed or not. If the last step fails,
its error takes the place of the outcome. -/
def ensuring (body : Action σ α) (last : Action σ Unit) : Action σ α := fun state =>
  let (outcome, state) := body state
  match last state with
  | (.ok _, state) => (outcome, state)
  | (.error error, state) => (.error error, state)

/-- Changes the error that a computation ends in. -/
def mapError (f : Error → Error) (body : Action σ α) : Action σ α := fun state =>
  let (outcome, state) := body state
  (outcome.mapError f, state)

end Action

end SqlTemplate
