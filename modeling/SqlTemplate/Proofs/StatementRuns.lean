import SqlTemplate.Session.Basic

/-! What a run of a statement does to a session. An execution never looks at the log and never
writes to it, so it depends on the journal by its calls alone; whatever comes of an attempt, the
session changes by its journal and its last result and by nothing else. -/
namespace SqlTemplate.StatementRuns
open Session

theorem bind_assoc (first : Action σ α) (next : α → Action σ β) (last : β → Action σ γ) :
    first >>= next >>= last = first >>= fun a => next a >>= last := by
  funext state
  simp only [bind, Action.andThen]
  cases first state with
  | mk outcome after => cases outcome <;> rfl

/-! ## Executions and the log -/

/-- A running statement whose journal has another log. -/
def withLog (running : Prepared.Running) (log : Log) : Prepared.Running :=
  { running with journal := { running.journal with log := log } }

/-- An action goes the same way whatever the log is, and leaves the log as it is. -/
def IgnoresLog (action : Action Prepared.Running α) : Prop :=
  ∀ running log, action (withLog running log) =
    ((action running).1, withLog (action running).2 log)

theorem of_except_ignores_log (outcome : Except Error α) : IgnoresLog (.ofExcept outcome) :=
  fun _ _ => rfl

theorem note_ignores_log (change : Prepared → Prepared) : IgnoresLog (Prepared.note change) :=
  fun _ _ => rfl

theorem ask_ignores_log (connection : Connection) (call : Call) :
    IgnoresLog (connection.ask call) := by
  intro running log
  unfold Connection.ask
  split <;> rfl

theorem bind_ignores_log {action : Action Prepared.Running α} {next : α → Action Prepared.Running β}
    (first : IgnoresLog action) (rest : ∀ a, IgnoresLog (next a)) :
    IgnoresLog (action >>= next) := by
  intro running log
  have start := first running log
  simp only [bind, Action.andThen]
  cases ran : action running with
  | mk outcome after =>
    rw [ran] at start
    rw [start]
    cases outcome with
    | error error => rfl
    | ok a => exact rest a after log

theorem ensuring_ignores_log {action : Action Prepared.Running α}
    {last : Action Prepared.Running Unit} (body : IgnoresLog action) (ending : IgnoresLog last) :
    IgnoresLog (action.ensuring last) := by
  intro running log
  have start := body running log
  simp only [Action.ensuring]
  cases ran : action running with
  | mk outcome after =>
    have finish := ending after log
    rw [ran] at start
    rw [start, finish]
    cases last after with
    | mk closed final => cases closed <;> rfl

theorem keep_rows_ignores_log (connection : Connection) (names : List Value) :
    IgnoresLog (Prepared.keepRows connection names) := by
  unfold Prepared.keepRows
  split
  · exact note_ignores_log _
  · refine bind_ignores_log (note_ignores_log _) fun _ => ?_
    refine bind_ignores_log (ask_ignores_log connection .fetchAll) fun _ => ?_
    exact bind_ignores_log (of_except_ignores_log _) fun _ => note_ignores_log _

theorem keep_count_ignores_log (connection : Connection) (names : List Value) :
    IgnoresLog (Prepared.keepCount connection names) :=
  bind_ignores_log (ask_ignores_log connection .rowCount) fun _ => note_ignores_log _

theorem execute_on_ignores_log (connection : Connection) (sql : String)
    (parameters : Option Value) : IgnoresLog (Prepared.executeOn connection sql parameters) := by
  refine bind_ignores_log (ask_ignores_log connection (.execute sql parameters)) fun _ => ?_
  refine bind_ignores_log (ask_ignores_log connection .description) fun _ => ?_
  refine bind_ignores_log (keep_rows_ignores_log connection _) fun _ => ?_
  refine bind_ignores_log (keep_count_ignores_log connection _) fun _ => ?_
  exact bind_ignores_log (ask_ignores_log connection .lastRowId) fun _ => note_ignores_log _

/-- An execution goes by the statement and the calls that were made before it. -/
theorem execute_ignores_log (connection : Connection) :
    IgnoresLog (Prepared.execute connection) := by
  intro running log
  have sends (sql : String) (parameters : Option Value) : IgnoresLog (do
      connection.ask .openCursor
      (Prepared.executeOn connection sql parameters).ensuring (connection.ask .closeCursor)) := by
    refine bind_ignores_log (ask_ignores_log connection .openCursor) fun _ => ?_
    exact ensuring_ignores_log (execute_on_ignores_log connection sql parameters)
      (ask_ignores_log connection .closeCursor)
  exact bind_ignores_log (of_except_ignores_log running.prepared.render)
    (fun rendered => sends rendered.1 rendered.2) running log

/-! ## Sessions that cannot be told apart by their statements -/

/-- Sessions that prepare the same statements and have made the same calls. -/
structure Alike (session other : Session) : Prop where
  adapter : other.adapter = session.adapter
  coercions : other.config.coercions = session.config.coercions
  calls : other.journal.calls = session.journal.calls

theorem Alike.refl (session : Session) : Alike session session := ⟨rfl, rfl, rfl⟩

/-- A session with other calls in its journal. -/
def withCalls (session : Session) (calls : List Call) : Session :=
  { session with journal := { session.journal with calls := calls } }

variable {session other : Session}

theorem prepare_alike (alike : Alike session other) (sql : String) :
    other.prepare sql = session.prepare sql := by
  simp only [prepare, StatementConfig.statementCoercions, alike.adapter, alike.coercions]

/-- Executing a statement on sessions that are alike comes to the same, and adds the same calls. -/
theorem execute_alike (alike : Alike session other) (connection : Connection)
    (prepared : Prepared) :
    ∃ outcome calls,
      executePrepared connection prepared session = (outcome, withCalls session calls) ∧
      executePrepared connection prepared other = (outcome, withCalls other calls) := by
  have goes (log : Log) := execute_ignores_log connection
    { prepared := prepared, journal := session.journal } log
  have own := goes session.journal.log
  have across := goes other.journal.log
  have start : withLog { prepared := prepared, journal := session.journal } other.journal.log =
      { prepared := prepared, journal := other.journal } := by
    simp only [withLog, ← alike.calls]
  cases ran : Prepared.execute connection { prepared := prepared, journal := session.journal } with
  | mk outcome running =>
    have unchanged : running = withLog running session.journal.log := by
      have same := congrArg Prod.snd own
      rw [ran] at same
      exact (congrArg Prod.snd ran).symm.trans same
    rw [start, ran] at across
    refine ⟨(outcome.map fun _ => running.prepared).mapError
      (session.adapter.classify (some prepared.sql)), running.journal.calls, ?_, ?_⟩
    · have journal : running.journal = { session.journal with calls := running.journal.calls } :=
        congrArg Prepared.Running.journal unchanged
      simp only [executePrepared, ran, withCalls, ← journal]
    · simp only [executePrepared, across, withCalls, withLog, alike.adapter]

/-- Attempting a statement on sessions that are alike comes to the same, leaves the same entries and
adds the same calls. -/
theorem attempt_alike (alike : Alike session other) (connection : Connection)
    (compiled : Compiled) :
    ∃ outcome left calls,
      attempt connection compiled session = ((outcome, left), withCalls session calls) ∧
      attempt connection compiled other = ((outcome, left), withCalls other calls) := by
  simp only [attempt, prepare_alike alike]
  cases (session.prepare compiled.sql).bindQueue 1 compiled.queue with
  | mk bound left =>
    cases bound with
    | error error =>
      refine ⟨.error (session.adapter.classify (some compiled.sql) error), left,
        session.journal.calls, rfl, ?_⟩
      rw [alike.adapter, ← alike.calls]
      rfl
    | ok prepared =>
      obtain ⟨outcome, calls, own, across⟩ := execute_alike alike connection prepared
      exact ⟨outcome, left, calls, by simp only [own], by simp only [across]⟩

/-! ## What becomes of an attempt -/

/-- A session with another log. -/
def relogged (session : Session) (log : Log) : Session :=
  { session with journal := { session.journal with log := log } }

theorem log_record_relogs (session : Session) (level : LogLevel) (logger message : String)
    (fields : Option (List (Value × Value))) :
    ∃ log, logRecord level logger message fields session = (.ok (), relogged session log) :=
  ⟨_, rfl⟩

/-- How an outcome is delivered: a failed statement is raised when its session is strict, and is
answered with something empty when it is not. Any other error is raised. -/
def delivered (session : Session) (empty : Error → α) : Except Error α → Except Error α
  | .ok a => .ok a
  | .error error =>
    if error.isStatementError && !session.config.strict.isTruthy then .ok (empty error)
    else .error error

/-- What becomes of an attempt is kept as the last result, and the log alone changes besides. -/
theorem conclude_delivers (session : Session) (compiled : Compiled) (left : Queue)
    (tried : Except Error Prepared) (fresh : session.lastResult = none) :
    let statement := { compiled with queue := left }
    let outcome := delivered session (.failed statement) (tried.map (resultOf statement))
    ∃ log, conclude compiled left tried session =
      (outcome, { relogged session log with lastResult := outcome.toOption }) := by
  intro statement outcome
  cases tried with
  | ok prepared =>
    obtain ⟨log, logged⟩ := log_record_relogs session .debug logger
      ("Executed " ++ compiled.operation.text ++ " statement")
      (some (statementFields compiled
        [(.str "rows_affected", (resultOf statement prepared).rowsAffected)]))
    refine ⟨log, ?_⟩
    simp only [conclude, bind, Action.andThen, Action.state, statement, logged]
    rfl
  | error error =>
    cases failed : error.isStatementError && !session.config.strict.isTruthy with
    | true =>
      obtain ⟨log, logged⟩ := log_record_relogs session .warning logger
        ("Statement failed, returning empty result: " ++ detailOf error)
        (some (statementFields compiled []))
      refine ⟨log, ?_⟩
      simp only [conclude, bind, Action.andThen, Action.state, outcome, Except.map, delivered,
        failed, ↓reduceIte, logged]
      rfl
    | false =>
      refine ⟨session.journal.log, ?_⟩
      simp only [conclude, bind, Action.andThen, Action.state, outcome, Except.map, delivered,
        failed]
      simp only [Except.toOption, ← fresh]
      rfl

/-- A session whose last result is forgotten. -/
def cleared (session : Session) : Session := { session with lastResult := none }

theorem cleared_alike (alike : Alike session other) : Alike (cleared session) (cleared other) :=
  ⟨alike.adapter, alike.coercions, alike.calls⟩

/-- A run delivers what an attempt came to. Its outcome is the last result then; besides, the
session has other calls and another log. -/
theorem run_delivers {connection : Connection} {compiled : Compiled}
    (attempted : attempt connection compiled (cleared session) =
      ((tried, left), withCalls (cleared session) calls)) :
    let statement := { compiled with queue := left }
    let outcome := delivered session (.failed statement) (tried.map (resultOf statement))
    ∃ log, run connection compiled session =
      ({ outcome := outcome, left := left },
        { relogged (withCalls session calls) log with lastResult := outcome.toOption }) := by
  intro statement outcome
  obtain ⟨log, concluded⟩ := conclude_delivers (withCalls (cleared session) calls) compiled
    left tried rfl
  refine ⟨log, ?_⟩
  unfold cleared at attempted concluded
  simp only [run, attempted, concluded]
  rfl

/-- Whatever a statement does, its outcome is the last result afterwards. -/
theorem run_keeps_outcome (connection : Connection) (compiled : Compiled) (session : Session) :
    (run connection compiled session).2.lastResult =
      (run connection compiled session).1.outcome.toOption := by
  obtain ⟨tried, left, calls, attempted, -⟩ :=
    attempt_alike (cleared_alike (.refl session)) connection compiled
  obtain ⟨log, ran⟩ := run_delivers attempted
  rw [ran]

/-- SQL without values is executed, and how that goes is delivered as whether it went well. -/
theorem unbound_delivers {connection : Connection}
    (executed : executePrepared connection (session.prepare sql) session =
      (tried, withCalls session calls)) :
    ∃ log, executeUnbound connection sql session =
      (delivered session (fun _ => false) (tried.map fun _ => true),
        relogged (withCalls session calls) log) := by
  have config : (withCalls session calls).config = session.config := rfl
  unfold executeUnbound
  rw [executed]
  cases tried with
  | ok prepared => exact ⟨session.journal.log, rfl⟩
  | error error =>
    cases failed : error.isStatementError && !session.config.strict.isTruthy with
    | true =>
      obtain ⟨log, logged⟩ := log_record_relogs (withCalls session calls) .warning logger
        ("Statement failed: " ++ detailOf error) none
      refine ⟨log, ?_⟩
      simp only [Except.map, delivered, config, failed, ↓reduceIte, logged]
    | false =>
      refine ⟨session.journal.log, ?_⟩
      simp only [Except.map, delivered, config, failed]
      rfl

end SqlTemplate.StatementRuns
