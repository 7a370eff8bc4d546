import SqlTemplate.Proofs.StatementRuns

/-! What is left of a queue when its statement was run. Entries leave it one by one before they are
bound, so a run that ends at an entry that cannot be bound leaves those behind it, and a run that
gets past all of them leaves nothing, whatever becomes of it. -/
namespace SqlTemplate.LeftEntries
open Session

/-- An entry that cannot be bound once all before it were, and the entries behind it. -/
structure Refused (prepared : Prepared) (place : Nat) (queue : Queue) (entry : BindEntry)
    (behind : Queue) (error : Error) : Prop where
  position : ∃ before after, queue = before ++ entry :: behind ∧
    prepared.bindQueue place before = (.ok after, []) ∧
    after.bind (Prepared.keyOf (place + before.length) entry) entry.value entry.type = .error error

variable {prepared after : Prepared} {place : Nat} {queue before : Queue}

/-- Entries behind others are bound to what those leave, from the next place on. -/
theorem bind_queue_append (bound : prepared.bindQueue place before = (.ok after, []))
    (more : Queue) :
    prepared.bindQueue place (before ++ more) = after.bindQueue (place + before.length) more := by
  induction before generalizing prepared place with
  | nil =>
    cases bound
    rfl
  | cons entry rest ih =>
    rw [List.cons_append, Prepared.bindQueue]
    rw [Prepared.bindQueue] at bound
    split at bound
    · cases bound
    · rw [ih bound, List.length_cons, Nat.add_assoc, Nat.add_comm 1]

theorem Refused.left (refused : Refused prepared place queue entry behind error) :
    prepared.bindQueue place queue = (.error error, behind) := by
  obtain ⟨before, after, rfl, bound, refuses⟩ := refused.position
  rw [bind_queue_append bound, Prepared.bindQueue, refuses]

/-- A queue is bound to its end or to an entry that cannot be. -/
theorem bind_queue_goes (prepared : Prepared) (place : Nat) (queue : Queue) :
    (∃ after, prepared.bindQueue place queue = (.ok after, [])) ∨
      ∃ entry behind error, Refused prepared place queue entry behind error := by
  induction queue generalizing prepared place with
  | nil => exact .inl ⟨prepared, rfl⟩
  | cons entry rest ih =>
    cases bound : prepared.bind (Prepared.keyOf place entry) entry.value entry.type with
    | error error => exact .inr ⟨entry, rest, error, ⟨[], prepared, rfl, rfl, bound⟩⟩
    | ok next =>
      have goes_on (more : Queue) :
          prepared.bindQueue place (entry :: more) = next.bindQueue (place + 1) more := by
        rw [Prepared.bindQueue, bound]
      obtain ⟨after, whole⟩ | ⟨other, behind, error, ⟨before, after, rfl, some, refuses⟩⟩ :=
        ih next (place + 1)
      · exact .inl ⟨after, (goes_on rest).trans whole⟩
      · refine .inr ⟨other, behind, error, ⟨entry :: before, after, rfl, ?_, ?_⟩⟩
        · rw [goes_on, some]
        · rwa [List.length_cons, Nat.add_comm before.length, ← Nat.add_assoc]

theorem run_left (connection : Connection) (compiled : Compiled) (session : Session) :
    (run connection compiled session).1.left =
      ((session.prepare compiled.sql).bindQueue 1 compiled.queue).2 := by
  have same : (StatementRuns.cleared session).prepare compiled.sql =
      session.prepare compiled.sql := rfl
  simp only [run, attempt]
  rw [show ({ session with lastResult := none } : Session) = StatementRuns.cleared session from rfl,
    same]
  cases (session.prepare compiled.sql).bindQueue 1 compiled.queue with
  | mk outcome left => cases outcome <;> rfl

/-- A run leaves the entries behind the one that could not be bound, and no others. So a queue is
empty or as it was just when no entry but the last could not be bound. -/
theorem queue_is_left_whole_or_empty_iff (connection : Connection) (compiled : Compiled)
    (session : Session) :
    let left := (run connection compiled session).1.left
    (left = [] ∨ left = compiled.queue) ↔
      ∀ entry behind error,
        Refused (session.prepare compiled.sql) 1 compiled.queue entry behind error →
          behind = [] := by
  intro left
  have drained : left = ((session.prepare compiled.sql).bindQueue 1 compiled.queue).2 :=
    run_left connection compiled session
  constructor
  · intro whole entry behind error refused
    have rest : left = behind := by rw [drained, refused.left]
    obtain none | all := whole
    · exact rest.symm.trans none
    · -- The entry that could not be bound is not behind itself.
      obtain ⟨before, -, parts, -⟩ := refused.position
      have length := congrArg List.length (rest.symm.trans (all.trans parts))
      simp at length
      omega
  · intro last
    obtain ⟨after, whole⟩ | ⟨entry, behind, error, refused⟩ :=
      bind_queue_goes (session.prepare compiled.sql) 1 compiled.queue
    · exact .inl (by rw [drained, whole])
    · exact .inl (by rw [drained, refused.left, last entry behind error refused])

/-- The text in the place of a number is gone, and the text behind it is left. -/
example :
    let number : BindEntry := .unnamed (.str "x") .integer
    let text : BindEntry := .unnamed (.str "y") .string
    ((Prepared.new "SqliteStatement" .colon "SELECT ?, ?" none).bindQueue 1 [number, text]).2 =
      [text] := rfl

end SqlTemplate.LeftEntries
