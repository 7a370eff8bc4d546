import SqlTemplate.Proofs.StatementRuns
import SqlTemplate.Connection.Script
import SqlTemplate.Session.Request

/-! What a session reports of its last statement. A call that runs a statement prepares it, runs it
and makes its answer of the result; what the session reports afterwards is of this call, unless the
rows of an insertion could not be built, and then it is what was reported before. -/
namespace SqlTemplate.LastResult
open Session StatementRuns

/-- A call that runs one statement. -/
inductive StatementCall
  | query (shape : Shape) (template : String) (arguments : List Value)
  | insert (mode : InsertMode) (table rows : Value) (columns : Option Value)

namespace StatementCall

def request : StatementCall → Request
  | query shape template arguments => .query shape template arguments
  | insert mode table rows columns => .insert mode table rows columns

/-- What is done before the statement is run. Only a template makes the session forget the last
result first. -/
def prologue : StatementCall → Action Session Compiled
  | query _ template arguments => do
    keepResult none
    compile template arguments
  | insert mode table rows columns => do
    let session ← .state
    buildInsert (mode.verb session.config) table rows columns

def statement (connection : Connection) (call : StatementCall) : Action Session StatementResult := do
  let compiled ← call.prologue
  runStatement connection compiled

/-- What the result of the statement is answered with. -/
def reply : StatementCall → StatementResult → Except Error Reply
  | query shape _ _, result => shaped shape result
  | insert .., result => .ok (.value result.rowsAffected)

/-- Whether there are rows to insert, if rows are asked for. -/
def Builds (session : Session) : StatementCall → Prop
  | query .. => True
  | insert mode table rows columns =>
    ∃ built, Insert.build (mode.verb session.config) table rows columns = .ok built

end StatementCall

/-- The session reports an outcome as that of its last statement. -/
def Reports (session : Session) : Except Error StatementResult → Prop
  | .ok result =>
    session.lastResult = some result ∧ session.affectedRows = result.rowsAffected
  | .error _ => session.lastResult = none ∧ session.affectedRows = .null

theorem reports_iff (session : Session) (outcome : Except Error StatementResult) :
    Reports session outcome ↔ session.lastResult = outcome.toOption := by
  cases outcome with
  | ok result =>
    refine ⟨And.left, fun last => ⟨last, ?_⟩⟩
    rw [affectedRows, last]
    rfl
  | error error =>
    refine ⟨And.left, fun last => ⟨last, ?_⟩⟩
    rw [affectedRows, last]
    rfl

/-- A call answers with what its statement gives, and does nothing else. -/
theorem perform_statement (connection : Connection) (call : StatementCall) :
    perform connection call.request =
      call.statement connection >>= fun result => .ofExcept (call.reply result) := by
  cases call with
  | query shape template arguments =>
    simp only [StatementCall.request, perform, query, StatementCall.statement,
      StatementCall.prologue, StatementCall.reply, bind_assoc]
  | insert mode table rows columns =>
    simp only [StatementCall.request, perform, insertRows, StatementCall.statement,
      StatementCall.prologue, StatementCall.reply, bind_assoc]
    rfl

/-! ## Before the statement -/

/-- Compiling leaves the last result alone. -/
theorem compile_keeps_result (template : String) (arguments : List Value) (session : Session) :
    (compile template arguments session).2.lastResult = session.lastResult := by
  simp only [compile, bind, Action.andThen, Action.state, Action.change, Action.ofExcept]
  cases (session.compiler.compile template arguments).1 <;> rfl

theorem query_prologue_forgets (shape : Shape) (template : String) (arguments : List Value)
    (session : Session) :
    ((StatementCall.query shape template arguments).prologue session).2.lastResult = none :=
  compile_keeps_result template arguments (cleared session)

/-- An insertion whose rows cannot be built ends there, and nothing is changed. -/
theorem insert_prologue_fails (mode : InsertMode) (table rows : Value) (columns : Option Value)
    (session : Session)
    (fails : Insert.build (mode.verb session.config) table rows columns = .error fault) :
    (StatementCall.insert mode table rows columns).prologue session =
      (.error fault.toError, session) := by
  simp only [StatementCall.prologue, buildInsert, bind, Action.andThen, Action.state,
    Action.ofExcept, fails]
  rfl

theorem insert_prologue_succeeds (mode : InsertMode) (table rows : Value) (columns : Option Value)
    (session : Session)
    (built : Insert.build (mode.verb session.config) table rows columns = .ok (sql, queue)) :
    ((StatementCall.insert mode table rows columns).prologue session).1 =
      .ok (session.compiler.fromQueue sql queue) := by
  simp only [StatementCall.prologue, buildInsert, bind, Action.andThen, Action.state,
    Action.ofExcept, built]
  rfl

/-! ## After the statement -/

/-- What is reported after a call is of that call, if a call that fails before its statement leaves
nothing to report. -/
theorem statement_reports (connection : Connection) (call : StatementCall) (session : Session)
    (forgets : ∀ error, (call.prologue session).1 = .error error →
      (call.prologue session).2.lastResult = none) :
    Reports (call.statement connection session).2 (call.statement connection session).1 := by
  rw [reports_iff]
  simp only [StatementCall.statement, bind, Action.andThen]
  cases prologue : call.prologue session with
  | mk outcome after =>
    rw [prologue] at forgets
    cases outcome with
    | error error => exact forgets error rfl
    | ok compiled => exact run_keeps_outcome connection compiled after

theorem built_call_reports (connection : Connection) {call : StatementCall}
    (builds : call.Builds session) :
    Reports (call.statement connection session).2 (call.statement connection session).1 := by
  apply statement_reports
  cases call with
  | query shape template arguments =>
    intro _ _
    exact query_prologue_forgets shape template arguments session
  | insert mode table rows columns =>
    obtain ⟨⟨sql, queue⟩, built⟩ := builds
    intro error failed
    rw [insert_prologue_succeeds mode table rows columns session built] at failed
    cases failed

theorem unbuilt_call_does_nothing (connection : Connection) {call : StatementCall}
    (unbuilt : ¬ call.Builds session) :
    ∃ error, call.statement connection session = (.error error, session) := by
  cases call with
  | query shape template arguments => exact absurd trivial unbuilt
  | insert mode table rows columns =>
    cases built : Insert.build (mode.verb session.config) table rows columns with
    | ok pair => exact absurd ⟨pair, built⟩ unbuilt
    | error fault =>
      refine ⟨fault.toError, ?_⟩
      simp only [StatementCall.statement, bind, Action.andThen,
        insert_prologue_fails mode table rows columns session built]

theorem perform_leaves (connection : Connection) (call : StatementCall) (session : Session) :
    (perform connection call.request session).2 = (call.statement connection session).2 := by
  simp only [perform_statement, bind, Action.andThen]
  cases call.statement connection session with
  | mk outcome after => cases outcome <;> rfl

theorem unbuilt_call_is_refused (connection : Connection) {call : StatementCall}
    (unbuilt : ¬ call.Builds session) :
    ∃ error, perform connection call.request session = (.error error, session) := by
  obtain ⟨error, refused⟩ := unbuilt_call_does_nothing connection unbuilt
  refine ⟨error, ?_⟩
  simp only [perform_statement, bind, Action.andThen, refused]

/-- A session after some calls, whatever became of each. -/
def afterCalls (connection : Connection) (session : Session) (calls : List StatementCall) : Session :=
  calls.foldl (fun session call => (perform connection call.request session).2) session

/-- Any number of refused insertions leaves the report of the call before them as it is. -/
theorem refused_calls_keep_report (connection : Connection) {call : StatementCall}
    (builds : call.Builds session) (refused : List StatementCall)
    (unbuilt : ∀ later ∈ refused, ¬ later.Builds (perform connection call.request session).2) :
    Reports (afterCalls connection session (call :: refused))
      (call.statement connection session).1 := by
  have still : afterCalls connection session (call :: refused) =
      (perform connection call.request session).2 := by
    simp only [afterCalls, List.foldl_cons]
    -- The first refusal leaves the session that the others are refused by.
    induction refused with
    | nil => rfl
    | cons later rest ih =>
      obtain ⟨error, same⟩ := unbuilt_call_is_refused connection (unbuilt later (.head rest))
      rw [List.foldl_cons, same]
      exact ih fun other member => unbuilt other (.tail later member)
  rw [still, perform_leaves]
  exact built_call_reports connection builds

/-- A call is reported as the last statement, whether it gave a result or an error, unless it was to
insert rows that could not be built: it then leaves the session as it was, and what is reported is
of an earlier statement, if there was any. -/
theorem call_is_reported_unless_unbuilt (connection : Connection) (call : StatementCall)
    (session : Session) :
    perform connection call.request =
        (call.statement connection >>= fun result => .ofExcept (call.reply result)) ∧
      (Reports (perform connection call.request session).2 (call.statement connection session).1 ↔
        call.Builds session ∨ session.lastResult = none) ∧
      (call.Builds session ∨
        ∃ error, perform connection call.request session = (.error error, session)) := by
  refine ⟨perform_statement connection call, ?_⟩
  rw [perform_leaves]
  by_cases builds : call.Builds session
  · exact ⟨⟨fun _ => .inl builds, fun _ => built_call_reports connection builds⟩, .inl builds⟩
  · refine ⟨?_, .inr (unbuilt_call_is_refused connection builds)⟩
    obtain ⟨error, nothing⟩ := unbuilt_call_does_nothing connection builds
    rw [nothing, reports_iff]
    simp only [builds, false_or]
    rfl

/-- A connection that counts three rows for its first statement and fails at the next. -/
def failing : Connection :=
  .scripted "Connection" []
    [{ ScriptReply.none with rowCount := .int 3 },
      { ScriptReply.none with raises := some (.fault ⟨.database .sqlite "OperationalError", []⟩) }]

/-- After a deletion of three rows, an insertion that fails on the connection leaves no count. -/
theorem failed_insertion_reports_nothing :
    ∃ opened deleted,
      Session.start Operation.byLeadingKeyword .sqlite (.connection failing) none (.empty .debug) =
        .ok opened ∧
      perform failing (.query .affected "DELETE FROM a" []) opened =
        (.ok (.value (.int 3)), deleted) ∧
      deleted.affectedRows = .int 3 ∧
      (perform failing (.insert .insert (.str "a") (.list [.int 1]) (some (.list [.str "b"])))
        deleted).2.affectedRows = .null := by
  refine ⟨_, _, by rfl, by rfl, by rfl, ?_⟩
  let insertion : StatementCall :=
    .insert .insert (.str "a") (.list [.int 1]) (some (.list [.str "b"]))
  let deleted := (perform failing (.query .affected "DELETE FROM a" [])
    (Session.mk .sqlite .sqlite (.new Operation.byLeadingKeyword .sqlite) none (.empty .debug))).2
  obtain ⟨-, reported, -⟩ := call_is_reported_unless_unbuilt failing insertion deleted
  have builds : insertion.Builds deleted := ⟨_, by rfl⟩
  have failed : ∃ error, (insertion.statement failing deleted).1 = .error error := ⟨_, by rfl⟩
  obtain ⟨error, failed⟩ := failed
  rw [failed] at reported
  exact (reported.mpr (.inl builds)).2

/-- After a deletion of three rows, an insertion without rows is refused and three rows are still
reported as affected. -/
theorem refused_insertion_reports_earlier_count :
    ∃ opened deleted error,
      Session.start Operation.byLeadingKeyword .sqlite (.connection failing) none (.empty .debug) =
        .ok opened ∧
      perform failing (.query .affected "DELETE FROM a" []) opened =
        (.ok (.value (.int 3)), deleted) ∧
      perform failing (.insert .insert (.str "a") (.list []) none) deleted =
        (.error error, deleted) ∧
      deleted.lastResult.isSome ∧ deleted.affectedRows = .int 3 :=
  ⟨_, _, _, by rfl, by rfl, by rfl, by rfl, by rfl⟩

end SqlTemplate.LastResult
