import SqlTemplate.Proofs.StrictDelivery
import SqlTemplate.Proofs.ValidatedSending

/-! No fault of the database leaves a session as it is. Where a call fails, what an operation ends
in is what becomes of the last failure: the error of a statement for a fault of the database, and
the fault itself for any other. -/
namespace SqlTemplate.FaultTranslation
open Session Dialogue CursorUse StatementWork ValidatedSending
open StrictDelivery (opened lost)

/-- The database software that an adapter is for. -/
def engine? : Adapter → Option Engine
  | .sqlite => some .sqlite
  | .mysql => some .mysql
  | .plain => none

/-- A method is called; what a cursor tells of itself is only looked at. -/
def isMethod : Call → Bool
  | .description | .rowCount | .lastRowId => false
  | _ => true

/-- The last call to fail, and the only one if no other failed, failed with a fault. -/
def FailsBy (connection : Connection) (session : Session) (ran : Except Error α × Session)
    (call : Call) (fault : Fault) : Prop :=
  ∃ calls, ran.2.journal.calls = session.journal.calls ++ calls ∧
    lastFailure? (dialogue connection session.journal.calls calls) = some (call, .fault fault)

/-- The error of a statement that tells of a fault as its cause. -/
def Tells (fault : Fault) (sql : Value) : Error → Prop
  | .library error => error.cls = .statement ∧ error.cause = some fault ∧ error.sql = sql
  | .fault _ => False

/-- What is asked of a session about its connection. -/
inductive Control
  | begin
  | commit
  | rollback
  | lastInsertId

def Control.request : Control → Request
  | begin => .begin
  | commit => .commit
  | rollback => .rollback
  | lastInsertId => .lastInsertId

/-! ## What becomes of a fault -/

theorem classify_database {adapter : Adapter} (software : engine? adapter = some engine)
    (database : fault.isDatabaseError engine = true) (sql : Option String) :
    Tells fault ((sql.map Value.str).getD .null) (adapter.classify sql (.fault fault)) := by
  cases adapter with
  | sqlite =>
    cases software
    simp only [Adapter.classify, Adapter.faultMessage?, database, ↓reduceIte]
    exact ⟨rfl, rfl, rfl⟩
  | mysql =>
    cases software
    simp only [Adapter.classify, Adapter.faultMessage?, database, ↓reduceIte]
    exact ⟨rfl, rfl, rfl⟩
  | plain => cases software

theorem classify_other {adapter : Adapter} (software : engine? adapter = some engine)
    (other : fault.isDatabaseError engine = false) (sql : Option String) :
    adapter.classify sql (.fault fault) = .fault fault := by
  cases adapter with
  | sqlite =>
    cases software
    simp only [Adapter.classify, Adapter.faultMessage?, other]
    rfl
  | mysql =>
    cases software
    simp only [Adapter.classify, Adapter.faultMessage?, other]
    rfl
  | plain => cases software

theorem Tells.is_statement_error (tells : Tells fault sql error) :
    error.isStatementError = true := by
  cases error with
  | library error => simp [Error.isStatementError, tells.1, ErrorClass.lineage]
  | fault _ => exact tells.elim

/-! ## Statements -/

/-- A fault is told of by the error of the statement that met it, or stays silent where the session
is lax. Any other fault is raised as it is. -/
structure StatementTranslates (session : Session) (engine : Engine) (work : Work)
    (outcome : Except Error Reply) (call : Call) (fault : Fault) : Prop where
  strict : fault.isDatabaseError engine = true → session.config.strict.isTruthy = true →
    ∃ compiled error, work.statement session = .ok compiled ∧ outcome = .error error ∧
      Tells fault (.str compiled.sql) error
  lax : fault.isDatabaseError engine = true → session.config.strict.isTruthy = false →
    ∃ reply, outcome = .ok reply
  other : fault.isDatabaseError engine = false → isMethod call = true →
    outcome = .error (.fault fault)

theorem work_translates {session : Session} (software : engine? session.adapter = some engine)
    {work : Work}
    (fails : FailsBy connection session (work.operation.perform connection session) call fault) :
    StatementTranslates session engine work (work.operation.perform connection session).1 call
      fault := by
  obtain ⟨calls, reached, last⟩ := fails
  cases work_goes connection work session with
  | unready _ same _ =>
    rw [same, List.self_eq_append_right] at reached
    subst reached
    cases last
  | @sent compiled _ _ own outcome made _ sent executes _ raised swallowed =>
    rw [sent, List.append_cancel_left_eq] at reached
    subst reached
    have failed : outcome = .error (.fault fault) := executes.fails call _ last
    refine ⟨fun database strict => ?_, fun database lax => ?_, fun other _ => ?_⟩
    · have tells := classify_database software database (some compiled.sql)
      refine ⟨compiled, _, made, raised _ failed ?_, tells⟩
      simp only [swallows, strict, Bool.not_true, Bool.and_false]
    · have tells := classify_database software database (some compiled.sql)
      refine swallowed _ failed ?_
      simp only [swallows, tells.is_statement_error, lax, Bool.not_false, Bool.and_true]
    · have same := classify_other software other (some compiled.sql)
      rw [← same]
      refine raised _ failed ?_
      rw [same]
      rfl

/-! ## Calls on the connection itself -/

/-- A fault of the database becomes the error of a statement, however lax the session is. Any other
fault is raised as it is. -/
structure ControlTranslates (engine : Engine) (outcome : Except Error α) (call : Call)
    (fault : Fault) : Prop where
  database : fault.isDatabaseError engine = true →
    ∃ sql error, outcome = .error error ∧ Tells fault sql error
  other : fault.isDatabaseError engine = false → isMethod call = true →
    outcome = .error (.fault fault)

/-- An action that fails after a call failed does so with that failure. -/
def Surfaces (connection : Connection) (action : Action Session α) : Prop :=
  Leads connection (lastFailure? · = none) action
    (fun _ exchanges => lastFailure? exchanges = none) FailsWith

theorem ask_surfaces (connection : Connection) (call : Call) :
    Surfaces connection (connection.ask call) := by
  refine ask_leads (fun _ exchanges clean => .of_clean clean) ?_
  rintro exchanges (error | answer) clean
  · exact .of_last exchanges call error
  · exact (last_failure_snoc ..).trans clean

theorem ask_last_id_surfaces (connection : Connection) :
    Surfaces connection (askLastId connection) :=
  bind_leads (ask_surfaces connection _) fun _ => ask_surfaces connection _

/-- When a call failed, an outcome is what becomes of the last failure. -/
def Becomes (connection : Connection) (session : Session) (become : Error → Error)
    (ran : Except Error α × Session) : Prop :=
  ∀ calls call failure, ran.2.journal.calls = session.journal.calls ++ calls →
    lastFailure? (dialogue connection session.journal.calls calls) = some (call, failure) →
    ran.1 = .error (become failure)

theorem map_error_becomes {action : Action Session α} (surfaces : Surfaces connection action)
    (session : Session) (become : Error → Error) :
    Becomes connection session become (action.mapError become session) := by
  intro calls call failure reached last
  obtain ⟨own, made, ends⟩ :=
    surfaces session session.journal.calls [] (List.append_nil _).symm rfl
  simp only [Action.mapError] at reached ⊢
  cases ran : action session with
  | mk outcome after =>
    rw [ran] at made ends reached
    have same : own = calls := List.append_cancel_left (made.symm.trans reached)
    subst same
    cases outcome with
    | ok _ => cases Eq.trans (Eq.symm ends) last
    | error error =>
      rw [ends call failure last]
      rfl

theorem classifying_becomes {action : Action Session α} (surfaces : Surfaces connection action)
    (session : Session) (sql : Option String) :
    Becomes connection session (session.adapter.classify sql) (classifying sql action session) :=
  map_error_becomes surfaces session _

/-- What comes later and calls nobody changes nothing about a failure. -/
theorem Becomes.goes_on {action : Action Session α} {next : α → Action Session β}
    (becomes : Becomes connection session become (action session))
    (quiet : ∀ a after, (next a after).2.journal.calls = after.journal.calls) :
    Becomes connection session become ((action >>= next) session) := by
  intro calls call failure reached last
  simp only [bind, Action.andThen] at reached ⊢
  cases ran : action session with
  | mk outcome after =>
    rw [ran] at becomes reached
    cases outcome with
    | error error =>
      cases becomes calls call failure reached last
      rfl
    -- No call failed yet, and none is made any more.
    | ok a =>
      rw [quiet] at reached
      cases becomes calls call failure reached last

/-- Adapters for some database software make a fault on beginning, committing or rolling back one
about the SQL that stands for it, and a fault on asking for an id one about that question. -/
theorem control_becomes {session : Session} (software : engine? session.adapter = some engine)
    (connection : Connection) (control : Control) :
    ∃ sql, Becomes connection session (session.adapter.classify sql)
      (perform connection control.request session) := by
  have asked (call : Call) (sql : Option String) :=
    classifying_becomes (ask_surfaces connection call) session sql
  cases session with
  | mk adapter config compiler lastResult journal =>
    cases adapter with
    | plain => cases software
    | sqlite =>
      cases control with
      | begin =>
        refine ⟨some "BEGIN", ?_⟩
        exact ((asked (.statement "BEGIN") _).goes_on fun _ _ => rfl).goes_on fun _ _ => rfl
      | commit => exact ⟨some "COMMIT", (asked .commit _).goes_on fun _ _ => rfl⟩
      | rollback => exact ⟨some "ROLLBACK", (asked .rollback _).goes_on fun _ _ => rfl⟩
      | lastInsertId =>
        have asked := classifying_becomes (ask_last_id_surfaces connection)
          ⟨.sqlite, config, compiler, lastResult, journal⟩ (some lastIdSql)
        refine ⟨some lastIdSql, (asked.goes_on fun row after => ?_).goes_on fun _ _ => rfl⟩
        split
        · rfl
        · rfl
        · rename_i row _
          simp only [bind, Action.andThen, Action.ofExcept]
          cases row.item (.int 0) <;> rfl
    | mysql =>
      cases control with
      | begin =>
        refine ⟨some "BEGIN", ?_⟩
        exact ((asked .begin _).goes_on fun _ _ => rfl).goes_on fun _ _ => rfl
      | commit => exact ⟨some "COMMIT", (asked .commit _).goes_on fun _ _ => rfl⟩
      | rollback => exact ⟨some "ROLLBACK", (asked .rollback _).goes_on fun _ _ => rfl⟩
      | lastInsertId =>
        refine ⟨none, ((asked .insertId _).goes_on fun id after => ?_).goes_on fun _ _ => rfl⟩
        split <;> rfl

theorem control_translates {session : Session} (software : engine? session.adapter = some engine)
    {control : Control}
    (fails : FailsBy connection session (perform connection control.request session) call fault) :
    ControlTranslates engine (perform connection control.request session).1 call fault := by
  obtain ⟨calls, reached, last⟩ := fails
  obtain ⟨sql, becomes⟩ := control_becomes software connection control
  have ended := becomes calls call _ reached last
  refine ⟨fun database => ?_, fun other _ => ?_⟩
  · exact ⟨_, _, ended, classify_database software database sql⟩
  · rw [ended, classify_other software other sql]

theorem close_wraps
    (fails : FailsBy connection session (perform connection .close session) call fault) :
    ∃ error, (perform connection .close session).1 = .error (.library error) ∧
      error.cause = some fault := by
  obtain ⟨calls, reached, last⟩ := fails
  have becomes : Becomes connection session Error.wrapped (perform connection .close session) :=
    (map_error_becomes (ask_surfaces connection .close) session _).goes_on fun _ _ => rfl
  exact ⟨_, becomes calls call _ reached last, rfl⟩

/-- With an adapter for some database software, no fault of that software leaves a session as it
is. Statements and locks turn it into the error of a statement that tells of it and of their SQL, or
answer in spite of it when the session is lax; transactions and the question for the last id turn it
into such an error; closing makes an error of the library of it. Only closing keeps any other fault
that a call raises from leaving unchanged. -/
theorem database_faults_are_translated {session : Session}
    (software : engine? session.adapter = some engine) (connection : Connection) :
    (∀ (work : Work) call fault,
      FailsBy connection session (work.operation.perform connection session) call fault →
      StatementTranslates session engine work (work.operation.perform connection session).1 call
        fault) ∧
    (∀ (control : Control) call fault,
      FailsBy connection session (perform connection control.request session) call fault →
      ControlTranslates engine (perform connection control.request session).1 call fault) ∧
    ∀ call fault,
      FailsBy connection session (perform connection .close session) call fault →
      ∃ error, (perform connection .close session).1 = .error (.library error) ∧
        error.cause = some fault :=
  ⟨fun _ _ _ => work_translates software, fun _ _ _ => control_translates software,
    fun _ _ => close_wraps⟩

/-- On a connection that is lost a strict session raises an error that tells of that and of the
statement, a lax one answers, and a transaction cannot be committed. -/
theorem lost_connection_is_told_of :
    let outage : Fault := ⟨.database .mysql "OperationalError", [.int 2006]⟩
    let work : Work := .call (.query .whole "DELETE FROM a" [])
    engine? (opened true).adapter = some .mysql ∧
      (∃ error, (work.operation.perform lost (opened true)).1 = .error error ∧
        Tells outage (.str "DELETE FROM a") error) ∧
      (∃ reply, (work.operation.perform lost (opened false)).1 = .ok reply) ∧
      ∃ sql error, (perform lost .commit (opened false)).1 = .error error ∧
        Tells outage sql error := by
  intro outage work
  have software (strict : Bool) : engine? (opened strict).adapter = some .mysql := rfl
  have database : outage.isDatabaseError .mysql = true := by rfl
  let statement : Call := .execute "DELETE FROM a" none
  have fails (strict : Bool) : FailsBy lost (opened strict)
      (work.operation.perform lost (opened strict)) statement outage :=
    ⟨[.openCursor, statement, .closeCursor], by cases strict <;> rfl, by rfl⟩
  obtain ⟨loud, -, -⟩ := database_faults_are_translated (software true) lost
  obtain ⟨silent, controls, -⟩ := database_faults_are_translated (software false) lost
  refine ⟨rfl, ?_, ?_, ?_⟩
  · obtain ⟨compiled, error, made, raised, tells⟩ :=
      (loud work statement outage (fails true)).strict database rfl
    have sql : compiled.sql = "DELETE FROM a" := by
      cases made
      rfl
    exact ⟨error, raised, sql ▸ tells⟩
  · exact (silent work statement outage (fails false)).lax database rfl
  · exact (controls .commit .commit outage ⟨[.commit], by rfl, by rfl⟩).database database

end SqlTemplate.FaultTranslation
