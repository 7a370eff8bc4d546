import SqlTemplate.Proofs.StrictDelivery
import SqlTemplate.Proofs.ValidatedSending

/-! Cursors over the life of a session. Whatever is asked of a session, in any order and with any
answers, one cursor is done with before the next is asked for, and before anything else is done on
the connection. -/
namespace SqlTemplate.CursorOrder
open Session Dialogue CursorUse StatementWork ValidatedSending

/-- A call on the connection itself, and not to open a cursor. -/
def besideCursors : Call → Bool
  | .statement _ | .fetchOne | .begin | .commit | .rollback | .insertId | .close => true
  | _ => false

/-- One whole use of a cursor comes after the other, with calls beside cursors in between. -/
inductive Orderly : List Exchange → Prop where
  | nil : Orderly []
  | beside (other : besideCursors exchange.call = true) (rest : Orderly later) :
    Orderly (exchange :: later)
  | used (follows : Follows sql parameters exchanges last) (ended : last.Over)
    (rest : Orderly later) : Orderly (exchanges ++ later)

theorem Orderly.append (first : Orderly exchanges) (second : Orderly later) :
    Orderly (exchanges ++ later) := by
  induction first with
  | nil => exact second
  | beside other _ ih => exact .beside other ih
  | used follows ended _ ih =>
    rw [List.append_assoc]
    exact .used follows ended ih

/-- As many cursors were closed as were had. -/
theorem Orderly.closed (orderly : Orderly exchanges) :
    exchanges.countP closing = exchanges.countP obtaining := by
  induction orderly with
  | nil => rfl
  | @beside later exchange other _ ih =>
    have neither : closing exchange = obtaining exchange := by
      obtain ⟨call, answer⟩ := exchange
      cases call with
      | openCursor | closeCursor => cases other
      | _ => rfl
    rw [List.countP_cons, List.countP_cons, ih, neither]
  | used follows ended _ ih =>
    rw [List.countP_append, List.countP_append, (follows.used_once ended).closed, ih]

/-- An action adds to what was said in an orderly way, whether or not it fails. -/
def KeepsOrder (connection : Connection) (action : Action Session α) : Prop :=
  Leads connection Orderly action (fun _ => Orderly) (fun _ => Orderly)

variable {connection : Connection}

theorem quiet_keeps_order {action : Action Session α}
    (quiet : ∀ session, (action session).2.journal.calls = session.journal.calls) :
    KeepsOrder connection action := by
  refine quiet_leads quiet fun session exchanges start => ?_
  rwa [ends_alike]

theorem ask_keeps_order {call : Call} (beside : besideCursors call = true) :
    KeepsOrder connection (connection.ask call) := by
  refine ask_leads (fun _ _ start => start) fun exchanges answer start => ?_
  rw [ends_alike]
  exact start.append (.beside beside .nil)

theorem bind_keeps_order {first : Action Session α} {next : α → Action Session β}
    (begins : KeepsOrder connection first) (goes_on : ∀ a, KeepsOrder connection (next a)) :
    KeepsOrder connection (first >>= next) :=
  bind_leads begins goes_on

/-- With the state at hand an action is one of several. -/
theorem state_keeps_order {next : Session → Action Session α}
    (goes_on : ∀ session, KeepsOrder connection (next session)) :
    KeepsOrder connection (Action.state >>= next) :=
  bind_keeps_order (quiet_keeps_order fun _ => rfl) goes_on

theorem classifying_keeps_order {body : Action Session α} (sql : Option String)
    (keeps : KeepsOrder connection body) : KeepsOrder connection (classifying sql body) :=
  state_keeps_order fun _ => map_error_leads keeps

theorem work_keeps_order (work : Work) :
    KeepsOrder connection (work.operation.perform connection) := by
  intro session before calls made start
  have added : ∃ more,
      (work.operation.perform connection session).2.journal.calls =
        session.journal.calls ++ more ∧
      Orderly (dialogue connection session.journal.calls more) := by
    cases work_goes connection work session with
    | unready _ same _ => exact ⟨[], by rw [same, List.append_nil], .nil⟩
    | @sent _ _ _ more _ _ _ reached executes =>
      obtain ⟨last, follows, ended, -⟩ := executes.whole
      refine ⟨more, reached, ?_⟩
      rw [← List.append_nil (dialogue ..)]
      exact .used follows ended .nil
  obtain ⟨more, reached, orderly⟩ := added
  refine ⟨more, ?_, ?_⟩
  · rw [← List.append_assoc, ← made]
    exact reached
  · rw [ends_alike, dialogue_append, ← made]
    exact start.append orderly

theorem run_statement_keeps_order (compiled : Compiled) :
    KeepsOrder connection (runStatement connection compiled) := by
  intro session before calls made start
  obtain ⟨more, reached, orderly⟩ :=
    work_keeps_order (.run compiled) session before calls made start
  have same : ((Work.run compiled).operation.perform connection session).2 =
      (runStatement connection compiled session).2 :=
    congrArg Prod.snd (bind_of_except _ _ session)
  rw [same] at reached
  rw [ends_alike] at orderly
  refine ⟨more, reached, ?_⟩
  rwa [ends_alike]

theorem begin_keeps_order : KeepsOrder connection (begin connection) := by
  refine state_keeps_order fun session => ?_
  cases session.adapter with
  | sqlite =>
    exact bind_keeps_order (classifying_keeps_order _ (ask_keeps_order rfl)) fun _ =>
      quiet_keeps_order fun _ => rfl
  | mysql =>
    exact bind_keeps_order (classifying_keeps_order _ (ask_keeps_order rfl)) fun _ =>
      quiet_keeps_order fun _ => rfl
  | plain => exact ask_keeps_order rfl

theorem end_transaction_keeps_order (sql : String) {body : Action Session Unit}
    (keeps : KeepsOrder connection body) : KeepsOrder connection (endTransaction sql body) := by
  refine state_keeps_order fun session => ?_
  cases session.adapter with
  | plain => exact keeps
  | sqlite => exact classifying_keeps_order _ keeps
  | mysql => exact classifying_keeps_order _ keeps

theorem last_insert_id_keeps_order : KeepsOrder connection (lastInsertId connection) := by
  refine state_keeps_order fun session => ?_
  cases session.adapter with
  | sqlite =>
    refine bind_keeps_order (classifying_keeps_order _ ?_) fun row => ?_
    · exact bind_keeps_order (ask_keeps_order rfl) fun _ => ask_keeps_order rfl
    · split
      · exact quiet_keeps_order fun _ => rfl
      · exact quiet_keeps_order fun _ => rfl
      · exact bind_keeps_order (quiet_keeps_order fun _ => rfl) fun _ =>
          quiet_keeps_order fun _ => rfl
  | mysql =>
    refine bind_keeps_order (classifying_keeps_order _ (ask_keeps_order rfl)) fun id => ?_
    split
    · exact quiet_keeps_order fun _ => rfl
    · exact quiet_keeps_order fun _ => rfl
  | plain => exact ask_keeps_order rfl

theorem compile_keeps_order (template : String) (arguments : List Value) :
    KeepsOrder connection (compile template arguments) :=
  quiet_keeps_order fun session => (compile_keeps template arguments session).2.calls

theorem request_keeps_order (request : Request) :
    KeepsOrder connection (perform connection request) := by
  have alone {body : Action Session Unit} (keeps : KeepsOrder connection body) :
      KeepsOrder connection (silently body) :=
    bind_keeps_order keeps fun _ => quiet_keeps_order fun _ => rfl
  cases request with
  | query shape template arguments =>
    exact work_keeps_order (.call (.query shape template arguments))
  | runTwice template arguments =>
    refine bind_keeps_order ?_ fun _ => quiet_keeps_order fun _ => rfl
    refine bind_keeps_order (compile_keeps_order template arguments) fun compiled => ?_
    exact bind_keeps_order (run_statement_keeps_order compiled) fun first =>
      run_statement_keeps_order first.statement
  | compile template arguments =>
    exact bind_keeps_order (compile_keeps_order template arguments) fun _ =>
      quiet_keeps_order fun _ => rfl
  | insert mode table rows columns =>
    exact work_keeps_order (.call (.insert mode table rows columns))
  | buildInsert verb table rows columns =>
    refine bind_keeps_order (quiet_keeps_order ?_) fun _ => quiet_keeps_order fun _ => rfl
    exact fun session => (build_insert_keeps verb table rows columns session).2.calls
  | lock tables => exact work_keeps_order (.lock tables)
  | unlock => exact work_keeps_order .unlock
  | begin => exact alone begin_keeps_order
  | commit => exact alone (end_transaction_keeps_order _ (ask_keeps_order rfl))
  | rollback => exact alone (end_transaction_keeps_order _ (ask_keeps_order rfl))
  | close => exact alone (map_error_leads (ask_keeps_order rfl))
  | lastInsertId =>
    exact bind_keeps_order last_insert_id_keeps_order fun _ => quiet_keeps_order fun _ => rfl
  | affectedRows => exact quiet_keeps_order fun _ => rfl
  | lastResult => exact quiet_keeps_order fun _ => rfl
  | correlate id => exact quiet_keeps_order fun _ => rfl

theorem operation_keeps_order (operation : Operation) :
    KeepsOrder connection (operation.perform connection) := by
  cases operation with
  | request request => exact request_keeps_order request
  | run compiled => exact work_keeps_order (.run compiled)

/-- A session after some operations, whatever became of each. -/
def afterOperations (connection : Connection) (session : Session) (operations : List Operation) :
    Session :=
  operations.foldl (fun session operation => (operation.perform connection session).2) session

theorem operations_keep_order (connection : Connection) (session : Session)
    (operations : List Operation) :
    ∃ calls,
      (afterOperations connection session operations).journal.calls =
        session.journal.calls ++ calls ∧
      Orderly (dialogue connection session.journal.calls calls) := by
  induction operations generalizing session with
  | nil => exact ⟨[], (List.append_nil _).symm, .nil⟩
  | cons operation rest ih =>
    obtain ⟨calls, reached, orderly⟩ :=
      operation_keeps_order operation session session.journal.calls [] (List.append_nil _).symm .nil
    rw [List.nil_append] at reached orderly
    rw [ends_alike] at orderly
    obtain ⟨more, finished, later⟩ := ih (operation.perform connection session).2
    refine ⟨calls ++ more, ?_, ?_⟩
    · rw [← List.append_assoc, ← reached]
      exact finished
    · rw [dialogue_append, ← reached]
      exact orderly.append later

/-- An operation that sends nothing uses no cursor, and one that does uses one. -/
theorem work_uses_one_cursor (connection : Connection) (work : Work) (session : Session) :
    ∃ calls,
      (work.operation.perform connection session).2.journal.calls =
        session.journal.calls ++ calls ∧
      UsedOnce (dialogue connection session.journal.calls calls) ∧
      (work.Succeeded (work.operation.perform connection session) →
        (dialogue connection session.journal.calls calls).countP executing = 1) := by
  cases work_goes connection work session with
  | unready _ same unsuccessful =>
    have unused : Follows "" none [] .idle := .start
    exact ⟨[], by rw [same, List.append_nil], unused.used_once trivial,
      fun success => absurd success unsuccessful⟩
  | @sent _ _ _ calls _ _ _ reached executes done =>
    obtain ⟨last, follows, ended, -⟩ := executes.whole
    exact ⟨calls, reached, follows.used_once ended, fun success => executes.done (done success)⟩

/-- An operation that runs a statement asks for one cursor at most, executes one statement at most
and leaves no cursor open; it has executed one if it succeeded. Over the life of a session one
cursor is closed before the next is asked for, and as many were closed as were had. -/
theorem cursors_are_used_in_order (connection : Connection) :
    (∀ (work : Work) (session : Session),
      ∃ calls,
        (work.operation.perform connection session).2.journal.calls =
          session.journal.calls ++ calls ∧
        UsedOnce (dialogue connection session.journal.calls calls) ∧
        (work.Succeeded (work.operation.perform connection session) →
          (dialogue connection session.journal.calls calls).countP executing = 1)) ∧
    ∀ (session : Session) (operations : List Operation),
      ∃ calls,
        (afterOperations connection session operations).journal.calls =
          session.journal.calls ++ calls ∧
        Orderly (dialogue connection session.journal.calls calls) ∧
        (dialogue connection session.journal.calls calls).countP closing =
          (dialogue connection session.journal.calls calls).countP obtaining := by
  refine ⟨work_uses_one_cursor connection, fun session operations => ?_⟩
  obtain ⟨calls, reached, orderly⟩ := operations_keep_order connection session operations
  exact ⟨calls, reached, orderly, orderly.closed⟩

/-- A connection that has one row for the first statement. -/
def telling : Connection :=
  .scripted "Connection" []
    [{ ScriptReply.none with columns := some [.str "a"], rows := .list [.list [.int 1]] }]

/-- A selection that succeeds has executed one statement on one cursor. -/
theorem selection_executes_once :
    let work : Work := .call (.query .whole "SELECT a FROM b" [])
    let ran := work.operation.perform telling (StrictDelivery.opened true)
    work.Succeeded ran ∧
      ∃ calls, ran.2.journal.calls = calls ∧ UsedOnce (dialogue telling [] calls) ∧
        (dialogue telling [] calls).countP executing = 1 := by
  intro work ran
  obtain ⟨calls, reached, once, executed⟩ :=
    (cursors_are_used_in_order telling).1 work (StrictDelivery.opened true)
  have success : work.Succeeded ran := ⟨⟨_, by rfl⟩, _, by rfl, by rfl⟩
  exact ⟨success, calls, reached, once, executed success⟩

end SqlTemplate.CursorOrder
