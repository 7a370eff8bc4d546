import SqlTemplate.Proofs.StatementRuns
import SqlTemplate.Connection.Script

/-! Strictness decides how a failed statement is delivered and nothing else: a strict session and a
lax one that are alike otherwise make the same calls, and go apart only where the one raises the
error of a statement and the other answers with something empty. -/
namespace SqlTemplate.StrictDelivery
open Session StatementRuns

/-- A strict session and a lax one on connections to which the same was said. Nothing but the
strictness distinguishes their configurations; what they compiled, logged and answered before may
differ. -/
structure Twins (strict lax : Session) : Prop where
  raises : strict.config.strict.isTruthy = true
  swallows : lax.config.strict.isTruthy = false
  adapter : lax.adapter = strict.adapter
  config : lax.config = { strict.config with strict := lax.config.strict }
  calls : lax.journal.calls = strict.journal.calls

/-- The outcome for a lax session beside that for a strict one. Only the error of a statement is
swallowed, and then what is answered is empty. -/
inductive Delivered (Empty : Error → α → Prop) : Except Error α → Except Error α → Prop
  | same : Delivered Empty (.ok a) (.ok a)
  | swallowed (failed : error.isStatementError = true) (empty : Empty error a) :
      Delivered Empty (.error error) (.ok a)
  | raised (other : error.isStatementError = false) :
      Delivered Empty (.error error) (.error error)

/-- The error of a statement, where a strict session raises it, is answered with something empty. -/
theorem Delivered.of_error {Empty : Error → α → Prop} (apart : Delivered Empty ran across)
    (raised : ran = .error error) (failed : error.isStatementError = true) :
    ∃ a, across = .ok a ∧ Empty error a := by
  subst raised
  cases apart with
  | swallowed _ empty => exact ⟨_, rfl, empty⟩
  | raised other => cases failed.symm.trans other

/-- The result tells of an error and of nothing that a database would have given. -/
structure EmptyResult (error : Error) (result : StatementResult) : Prop where
  error : result.error = some error
  rows : result.rows = []
  columns : result.columnNames = []
  affected : result.rowsAffected = .int 0
  insert_id : result.lastInsertId.1 = .null

/-- What a request for locks that failed is answered with. -/
def NotDone (_ : Error) (done : Bool) : Prop := done = false

theorem failed_is_empty (statement : Compiled) (error : Error) :
    EmptyResult error (.failed statement error) := ⟨rfl, rfl, rfl, rfl, rfl⟩

theorem false_is_not_done (error : Error) : NotDone error false := rfl

variable {strict lax : Session}

/-- Two computations, for a strict session and for its twin, come to outcomes that differ in
delivery only and leave twins. -/
structure DiffersInDelivery (Empty : Error → α → Prop)
    (ran across : Except Error α × Session) : Prop where
  delivered : Delivered Empty ran.1 across.1
  calls : across.2.journal.calls = ran.2.journal.calls
  twins : Twins ran.2 across.2

theorem Twins.alike (twins : Twins strict lax) : Alike strict lax :=
  ⟨twins.adapter, by rw [twins.config], twins.calls⟩

/-- Twins stay twins when the same calls are added for both. -/
theorem Twins.goes_on (twins : Twins strict lax) (calls : List Call) (log other : Log)
    (result instead : Option StatementResult) :
    Twins { relogged (withCalls strict calls) log with lastResult := result }
      { relogged (withCalls lax calls) other with lastResult := instead } :=
  ⟨twins.raises, twins.swallows, twins.adapter, twins.config, rfl⟩

theorem delivered_to_twins (twins : Twins strict lax) {Empty : Error → α → Prop}
    {empty : Error → α} (is_empty : ∀ error, Empty error (empty error))
    (outcome : Except Error α) :
    Delivered Empty (delivered strict empty outcome) (delivered lax empty outcome) := by
  cases outcome with
  | ok a => exact .same
  | error error =>
    cases failed : error.isStatementError with
    | true =>
      simp only [delivered, failed, twins.raises, twins.swallows]
      exact .swallowed failed (is_empty error)
    | false =>
      simp only [delivered, failed]
      exact .raised failed

/-! ## Statements -/

theorem run_of_twins (twins : Twins strict lax) (connection : Connection) (compiled : Compiled) :
    DiffersInDelivery EmptyResult (runStatement connection compiled strict)
        (runStatement connection compiled lax) ∧
      (run connection compiled lax).1.left = (run connection compiled strict).1.left := by
  obtain ⟨tried, left, calls, attempted, across⟩ :=
    attempt_alike (cleared_alike twins.alike) connection compiled
  obtain ⟨log, ran⟩ := run_delivers attempted
  obtain ⟨other, ran_across⟩ := run_delivers across
  simp only [runStatement, ran, ran_across, and_true]
  exact ⟨delivered_to_twins twins (failed_is_empty _) _, rfl, twins.goes_on ..⟩

/-- A session after some statements, whatever became of each. -/
def afterAll (connection : Connection) (session : Session) (statements : List Compiled) : Session :=
  statements.foldl (fun session compiled => (runStatement connection compiled session).2) session

/-- Twins make the same calls over any series of statements, though an error that is raised for the
one is a result for the other. -/
theorem twins_after_all (twins : Twins strict lax) (connection : Connection)
    (statements : List Compiled) :
    Twins (afterAll connection strict statements) (afterAll connection lax statements) := by
  induction statements generalizing strict lax with
  | nil => exact twins
  | cons compiled rest ih => exact ih (run_of_twins twins connection compiled).1.twins

/-! ## Locks -/

theorem unbound_of_twins (twins : Twins strict lax) (connection : Connection) (sql : String) :
    DiffersInDelivery NotDone (executeUnbound connection sql strict)
      (executeUnbound connection sql lax) := by
  obtain ⟨tried, calls, executed, across⟩ :=
    execute_alike twins.alike connection (strict.prepare sql)
  rw [← prepare_alike twins.alike sql] at across
  obtain ⟨log, ran⟩ := unbound_delivers executed
  obtain ⟨other, ran_across⟩ := unbound_delivers across
  rw [ran, ran_across]
  exact ⟨delivered_to_twins twins false_is_not_done _, rfl, twins.goes_on calls log other _ _⟩

/-- With table locks there is nothing between a request for locks and its statement but the
building of that statement. -/
theorem lock_with_locks (locks : session.config.supportsTableLocks.isTruthy = true)
    (connection : Connection) (tables : Value) :
    lock connection tables session =
      match Lock.build tables with
      | .error fault => (.error fault.toError, session)
      | .ok sql => executeUnbound connection sql session := by
  simp only [lock, requireLocks, bind, Action.andThen, Action.state, locks, ↓reduceIte, pure,
    Action.value, Action.ofExcept]
  cases Lock.build tables <;> rfl

theorem unlock_with_locks (locks : session.config.supportsTableLocks.isTruthy = true)
    (connection : Connection) :
    unlock connection session = executeUnbound connection "UNLOCK TABLES" session := by
  simp only [unlock, requireLocks, bind, Action.andThen, Action.state, locks, ↓reduceIte, pure,
    Action.value]

/-- Tables that no statement can be built for are refused before there is a statement. -/
theorem lock_fault_is_no_statement_error (fault : Lock.LockFault) :
    fault.toError.isStatementError = false := by
  cases fault <;> rfl

theorem Twins.locks (twins : Twins strict lax)
    (locks : strict.config.supportsTableLocks.isTruthy = true) :
    lax.config.supportsTableLocks.isTruthy = true := by
  rw [twins.config]
  exact locks

theorem lock_of_twins (twins : Twins strict lax)
    (locks : strict.config.supportsTableLocks.isTruthy = true) (connection : Connection)
    (tables : Value) :
    DiffersInDelivery NotDone (lock connection tables strict) (lock connection tables lax) := by
  rw [lock_with_locks locks, lock_with_locks (twins.locks locks)]
  cases Lock.build tables with
  | error fault => exact ⟨.raised (lock_fault_is_no_statement_error fault), twins.calls, twins⟩
  | ok sql => exact unbound_of_twins twins connection sql

theorem unlock_of_twins (twins : Twins strict lax)
    (locks : strict.config.supportsTableLocks.isTruthy = true) (connection : Connection) :
    DiffersInDelivery NotDone (unlock connection strict) (unlock connection lax) := by
  rw [unlock_with_locks locks, unlock_with_locks (twins.locks locks)]
  exact unbound_of_twins twins connection "UNLOCK TABLES"

/-! ## Both -/

/-- Strictness decides delivery alone, for any statement and, where tables can be locked, for any
locks: a strict session and its twin make the same calls, have the same results and raise the same
errors, but for the error of a statement, in whose place the twin has an empty result. -/
theorem strictness_decides_delivery (twins : Twins strict lax) (connection : Connection) :
    (∀ compiled,
      DiffersInDelivery EmptyResult (runStatement connection compiled strict)
          (runStatement connection compiled lax) ∧
        (run connection compiled lax).1.left = (run connection compiled strict).1.left) ∧
      (strict.config.supportsTableLocks.isTruthy = true →
        (∀ tables, DiffersInDelivery NotDone (lock connection tables strict)
          (lock connection tables lax)) ∧
        DiffersInDelivery NotDone (unlock connection strict) (unlock connection lax)) :=
  ⟨run_of_twins twins connection, fun locks =>
    ⟨lock_of_twins twins locks connection, unlock_of_twins twins locks connection⟩⟩

/-- A session on MySQL that was just opened. -/
def opened (strict : Bool) : Session :=
  { adapter := .mysql, config := { StatementConfig.standard with strict := .bool strict },
    compiler := .new Operation.byLeadingKeyword .standard, lastResult := none,
    journal := .empty .debug }

/-- A connection on which the first statement fails. -/
def lost : Connection :=
  .scripted "Connection" []
    [{ ScriptReply.none with
        raises := some (.fault ⟨.database .mysql "OperationalError", [.int 2006]⟩) }]

/-- A deletion whose connection is lost raises an error when it is strict. Otherwise its result is
empty and tells of that error, and a lock that meets the same fate was not taken. -/
theorem lost_deletion_is_delivered_apart :
    let deletion : Compiled :=
      { sql := "DELETE FROM a WHERE b = ?", queue := [.inferred (.int 1) .null], mode := .template,
        operation := .delete, template := "" }
    Twins (opened true) (opened false) ∧
      (opened true).config.supportsTableLocks.isTruthy = true ∧
      (∃ error result, (runStatement lost deletion (opened true)).1 = .error error ∧
        (runStatement lost deletion (opened false)).1 = .ok result ∧ EmptyResult error result) ∧
      ∃ error, (lock lost (.str "a") (opened true)).1 = .error error ∧
        (lock lost (.str "a") (opened false)).1 = .ok false := by
  intro deletion
  have twins : Twins (opened true) (opened false) := ⟨rfl, rfl, rfl, rfl, rfl⟩
  obtain ⟨runs, locks⟩ := strictness_decides_delivery twins lost
  refine ⟨twins, rfl, ?_, ?_⟩
  · have raised : ∃ error, (runStatement lost deletion (opened true)).1 = .error error ∧
        error.isStatementError = true := ⟨_, by rfl, by rfl⟩
    obtain ⟨error, raised, failed⟩ := raised
    obtain ⟨result, answered, empty⟩ := (runs deletion).1.delivered.of_error raised failed
    exact ⟨error, result, raised, answered, empty⟩
  · have raised : ∃ error, (lock lost (.str "a") (opened true)).1 = .error error ∧
        error.isStatementError = true := ⟨_, by rfl, by rfl⟩
    obtain ⟨error, raised, failed⟩ := raised
    obtain ⟨done, answered, refused⟩ := ((locks rfl).1 (.str "a")).delivered.of_error raised failed
    exact ⟨error, raised, refused ▸ answered⟩

end SqlTemplate.StrictDelivery
