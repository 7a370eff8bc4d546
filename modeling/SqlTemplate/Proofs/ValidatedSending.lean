import SqlTemplate.Proofs.CursorUse
import SqlTemplate.Proofs.StatementWork
import SqlTemplate.Proofs.StrictDelivery

/-! Nothing is sent before everything is known to be right: unless a statement can be made, all its
values bound and the whole rendered, the connection is not touched. What is sent otherwise is just
what was rendered. -/
namespace SqlTemplate.ValidatedSending
open Session Dialogue CursorUse StatementWork

/-- The two ways in which an operation that runs a statement can go. -/
inductive Goes (connection : Connection) (session : Session) (work : Work)
    (ran : Except Error Reply × Session) : Prop where
  | unready (failed : work.payload session = .error error)
    (calls : ran.2.journal.calls = session.journal.calls)
    (unsuccessful : ¬ work.Succeeded ran)
  | sent (made : work.statement session = .ok compiled)
    (ready : work.payload session = .ok (sql, parameters))
    (reached : ran.2.journal.calls = session.journal.calls ++ calls)
    (executes : Executes connection sql parameters
      (dialogue connection session.journal.calls calls) outcome)
    (done : work.Succeeded ran → outcome = .ok ())
    (raised : ∀ error, outcome = .error error →
      swallows session (session.adapter.classify (some compiled.sql) error) = false →
      ran.1 = .error (session.adapter.classify (some compiled.sql) error))
    (swallowed : ∀ error, outcome = .error error →
      swallows session (session.adapter.classify (some compiled.sql) error) = true →
      ∃ reply, ran.1 = .ok reply)

theorem work_goes (connection : Connection) (work : Work) (session : Session) :
    Goes connection session work (work.operation.perform connection session) := by
  cases made : work.statement session with
  | error error =>
    obtain ⟨failed, calls⟩ := unmade_ends connection made
    have unready : work.payload session = .error error := by
      simp only [Work.payload, made, bind, Except.bind]
    exact .unready unready calls (work.not_succeeded failed)
  | ok compiled =>
    have delivers := made_delivers connection made
    -- What is not ready shows as an attempt that failed without a call.
    have unready {error} (failed : work.payload session = .error error)
        (tried : ∃ error, (attempt connection compiled session).1.1 = .error error)
        (same : (attempt connection compiled session).2.journal = session.journal) :
        Goes connection session work (work.operation.perform connection session) := by
      obtain ⟨_, tried⟩ := tried
      refine .unready failed (by rw [delivers.calls, same]) fun success => ?_
      obtain ⟨prepared, ok⟩ := delivers.succeeded success
      cases tried.symm.trans ok
    cases bound : ((session.prepare compiled.sql).bindQueue 1 compiled.queue).1 with
    | error error =>
      obtain ⟨tried, same⟩ := unbound_attempt connection bound
      have failed : work.payload session = .error error := by
        simp only [Work.payload, made, bound, bind, Except.bind]
      exact unready failed ⟨_, tried⟩ (by rw [same])
    | ok prepared =>
      obtain ⟨tried, journal⟩ := bound_attempt connection bound
      have payload : work.payload session = prepared.render := by
        simp only [Work.payload, made, bound, bind, Except.bind]
      cases rendered : prepared.render with
      | error error =>
        rw [unrendered_execute connection ⟨prepared, session.journal⟩ rendered] at tried journal
        exact unready (payload.trans rendered) ⟨_, tried⟩ journal
      | ok sent =>
        obtain ⟨sql, parameters⟩ := sent
        obtain ⟨calls, reached, executes⟩ :=
          execute_executes connection ⟨prepared, session.journal⟩ rendered
        refine .sent made (payload.trans rendered) ?_ executes ?_ ?_ ?_
        · rw [delivers.calls, journal, reached]
        · intro success
          obtain ⟨_, ok⟩ := delivers.succeeded success
          rw [tried] at ok
          cases outcome : (Prepared.execute connection ⟨prepared, session.journal⟩).1 with
          | ok _ => rfl
          | error error => rw [outcome] at ok; cases ok
        · intro error failed
          rw [failed] at tried
          exact delivers.raised _ tried
        · intro error failed
          rw [failed] at tried
          exact delivers.swallowed _ tried

/-- A statement that cannot be made, values that cannot be bound and parameters that cannot be
rendered leave the connection untouched. All else is sent, on one cursor, as it was rendered. -/
theorem nothing_sent_unready (connection : Connection) (work : Work) (session : Session) :
    (∀ error, work.payload session = .error error →
      (work.operation.perform connection session).2.journal.calls = session.journal.calls) ∧
    ∀ sql parameters, work.payload session = .ok (sql, parameters) →
      ∃ calls,
        (work.operation.perform connection session).2.journal.calls =
          session.journal.calls ++ calls ∧
        Whole connection sql parameters (dialogue connection session.journal.calls calls) := by
  cases work_goes connection work session with
  | unready failed calls _ =>
    refine ⟨fun _ _ => calls, fun sql parameters ready => ?_⟩
    cases failed.symm.trans ready
  | sent made ready reached executes done raised swallowed =>
    refine ⟨fun error failed => ?_, fun sql parameters same => ?_⟩
    · cases ready.symm.trans failed
    · cases ready.symm.trans same
      exact ⟨_, reached, executes.whole⟩

/-- A conversion that refuses every value. -/
def refusing : Converter := .custom fun _ => .error (.ofKind .divisionByZero)

/-- A session that cannot bind texts. -/
def textless : Session :=
  { StrictDelivery.opened true with
    config := { StatementConfig.standard with
      coercions := fun type => if type = .string then refusing else .standard type } }

/-- A number is bound and the text behind it is not: nothing is sent, though the connection would
have taken everything. -/
theorem refused_text_sends_nothing :
    let work : Work := .call (.query .whole "INSERT INTO a VALUES (?i, ?s)" [.int 1, .str "b"])
    work.payload textless = .error (.ofKind .divisionByZero) ∧
      (work.operation.perform (.scripted "Connection" [] []) textless).2.journal.calls = [] := by
  intro work
  have refused : work.payload textless = .error (.ofKind .divisionByZero) := by rfl
  exact ⟨refused, (nothing_sent_unready (.scripted "Connection" [] []) work textless).1 _ refused⟩

end SqlTemplate.ValidatedSending
