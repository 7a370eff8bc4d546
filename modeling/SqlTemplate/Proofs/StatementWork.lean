import SqlTemplate.Proofs.Bindings
import SqlTemplate.Proofs.LastResult

/-! The operations that run a statement have one course. The statement is made before the connection
is touched, it is attempted once, and what is answered is decided by what came of that attempt and
by the strictness of the session. -/
namespace SqlTemplate.StatementWork
open Session StatementRuns LastResult Bindings

/-- Something that is asked of a session. -/
inductive Operation
  | request (request : Request)
  /-- Runs a statement that was compiled before. -/
  | run (compiled : Compiled)

def Operation.perform (connection : Connection) : Operation → Action Session Reply
  | request asked => Session.perform connection asked
  | run compiled => do
    let result ← runStatement connection compiled
    return .result (some result)

/-- A statement is run and its result answered with. -/
def answered (connection : Connection) (compiled : Compiled)
    (reply : StatementResult → Except Error Reply) : Action Session Reply := do
  let result ← runStatement connection compiled
  .ofExcept (reply result)

/-- What runs a statement. -/
inductive Work
  | call (call : StatementCall)
  | run (compiled : Compiled)
  | lock (tables : Value)
  | unlock

namespace Work

def operation : Work → Operation
  | call made => .request made.request
  | run compiled => .run compiled
  | lock tables => .request (.lock tables)
  | unlock => .request .unlock

/-- What comes before the statement, and makes it. -/
def prologue : Work → Action Session Compiled
  | call made => made.prologue
  | run compiled => .value compiled
  | lock tables => do
    requireLocks
    let sql ← .ofExcept ((Lock.build tables).mapError Lock.LockFault.toError)
    let session ← .state
    return session.compiler.fromQueue sql []
  | unlock => do
    requireLocks
    let session ← .state
    return session.compiler.fromQueue "UNLOCK TABLES" []

/-- What is done with the statement. -/
def course (connection : Connection) (compiled : Compiled) : Work → Action Session Reply
  | call made => answered connection compiled made.reply
  | run _ => answered connection compiled fun result => .ok (.result (some result))
  | lock _ | unlock => truth (executeUnbound connection compiled.sql)

/-- The statement that a session makes, if it can. -/
def statement (session : Session) (work : Work) : Except Error Compiled := (work.prologue session).1

/-- What is sent: the SQL of the statement in the style of the database, and the parameters that its
entries were bound to. -/
def payload (session : Session) (work : Work) : Except Error (String × Option Value) := do
  let compiled ← work.statement session
  let prepared ← ((session.prepare compiled.sql).bindQueue 1 compiled.queue).1
  prepared.render

/-- An operation answered, and its statement was successful: a lock says so by its answer, all else
by the result that is kept. -/
def Succeeded (ran : Except Error Reply × Session) : Work → Prop
  | call _ | run _ =>
    (∃ reply, ran.1 = .ok reply) ∧
      ∃ result, ran.2.lastResult = some result ∧ result.isSuccess = true
  | lock _ | unlock => ran.1 = .ok (.value (.bool true))

theorem not_succeeded (work : Work) (failed : ran.1 = .error error) : ¬ work.Succeeded ran := by
  cases work with
  | call _ | run _ =>
    rintro ⟨⟨reply, answered⟩, -⟩
    cases failed.symm.trans answered
  | lock _ | unlock =>
    intro answered
    cases failed.symm.trans answered

end Work

/-- Whether a session answers with something empty instead of raising an error. -/
def swallows (session : Session) (error : Error) : Bool :=
  error.isStatementError && !session.config.strict.isTruthy

/-- An operation made the calls of one attempt at a statement and no others, and what came of that
attempt decided how it ended. -/
structure Delivers (connection : Connection) (session : Session) (compiled : Compiled)
    (ran : Except Error Reply × Session) (succeeded : Prop) : Prop where
  calls : ran.2.journal.calls = (attempt connection compiled session).2.journal.calls
  raised : ∀ error, (attempt connection compiled session).1.1 = .error error →
    swallows session error = false → ran.1 = .error error
  swallowed : ∀ error, (attempt connection compiled session).1.1 = .error error →
    swallows session error = true → ∃ reply, ran.1 = .ok reply
  succeeded : succeeded → ∃ prepared, (attempt connection compiled session).1.1 = .ok prepared

theorem perform_course (connection : Connection) (work : Work) :
    work.operation.perform connection =
      work.prologue >>= fun compiled => work.course connection compiled := by
  cases work with
  | call made =>
    simp only [Work.operation, Operation.perform, perform_statement, StatementCall.statement,
      StatementRuns.bind_assoc]
    rfl
  | run compiled => rfl
  | lock tables =>
    simp only [Work.operation, Operation.perform, perform, lock, truth, Work.prologue,
      StatementRuns.bind_assoc]
    rfl
  | unlock =>
    simp only [Work.operation, Operation.perform, perform, unlock, truth, Work.prologue,
      StatementRuns.bind_assoc]
    rfl

/-! ## Before the attempt -/

theorem require_locks_cases (session : Session) :
    requireLocks session = (.ok (), session) ∨
      ∃ error, requireLocks session = (.error error, session) := by
  simp only [requireLocks, bind, Action.andThen, Action.state]
  split
  · exact .inl rfl
  · exact .inr ⟨_, rfl⟩

theorem compile_keeps (template : String) (arguments : List Value) (session : Session) :
    (compile template arguments session).2.config = session.config ∧
      Alike session (compile template arguments session).2 := by
  simp only [compile, bind, Action.andThen, Action.state, Action.change, Action.ofExcept]
  cases (session.compiler.compile template arguments).1 <;> exact ⟨rfl, rfl, rfl, rfl⟩

theorem build_insert_keeps (verb : String) (table rows : Value) (columns : Option Value)
    (session : Session) :
    (buildInsert verb table rows columns session).2.config = session.config ∧
      Alike session (buildInsert verb table rows columns session).2 := by
  simp only [buildInsert, bind, Action.andThen, Action.state, Action.ofExcept]
  cases Insert.build verb table rows columns <;> exact ⟨rfl, rfl, rfl, rfl⟩

theorem prologue_keeps (work : Work) (session : Session) :
    (work.prologue session).2.config = session.config ∧
      Alike session (work.prologue session).2 := by
  cases work with
  | call made =>
    cases made with
    | query shape template arguments =>
      obtain ⟨config, alike⟩ := compile_keeps template arguments (cleared session)
      exact ⟨config, alike.adapter, alike.coercions, alike.calls⟩
    | insert mode table rows columns =>
      exact build_insert_keeps (mode.verb session.config) table rows columns session
  | run compiled => exact ⟨rfl, .refl session⟩
  | lock tables =>
    obtain there | ⟨error, lacking⟩ := require_locks_cases session
    · simp only [Work.prologue, bind, Action.andThen, Action.ofExcept, Action.state, there]
      cases Lock.build tables <;> exact ⟨rfl, .refl session⟩
    · simp only [Work.prologue, bind, Action.andThen, lacking]
      exact ⟨trivial, .refl session⟩
  | unlock =>
    obtain there | ⟨error, lacking⟩ := require_locks_cases session
    · simp only [Work.prologue, bind, Action.andThen, Action.state, there]
      exact ⟨rfl, .refl session⟩
    · simp only [Work.prologue, bind, Action.andThen, lacking]
      exact ⟨trivial, .refl session⟩

/-- Without a statement the connection is not touched. -/
theorem unmade_ends (connection : Connection) {work : Work} {session : Session}
    (unmade : work.statement session = .error error) :
    (work.operation.perform connection session).1 = .error error ∧
      (work.operation.perform connection session).2.journal.calls = session.journal.calls := by
  have kept := (prologue_keeps work session).2.calls
  simp only [perform_course, bind, Action.andThen]
  unfold Work.statement at unmade
  cases began : work.prologue session with
  | mk outcome after =>
    rw [began] at unmade kept
    subst unmade
    exact ⟨rfl, kept⟩

/-! ## The attempt -/

/-- A result that stands for a failed statement can always be answered with. -/
theorem failed_replies (call : StatementCall) (statement : Compiled) (error : Error) :
    ∃ reply, call.reply (.failed statement error) = .ok reply := by
  cases call with
  | query shape template arguments => cases shape <;> exact ⟨_, rfl⟩
  | insert mode table rows columns => exact ⟨_, rfl⟩

/-- An action whose value is made into an answer, or an error, ends where the action ended. -/
theorem bind_of_except (action : Action σ α) (answer : α → Except Error β) (state : σ) :
    (action >>= fun a => .ofExcept (answer a)) state =
      ((action state).1 >>= answer, (action state).2) := by
  simp only [bind, Action.andThen]
  cases action state with
  | mk outcome after => cases outcome <;> rfl

theorem delivered_error (session : Session) (empty : Error → α) (error : Error) :
    delivered session empty (.error error) =
      if swallows session error then .ok (empty error) else .error error := rfl

/-- What an attempt came to is delivered and then answered with, by a session of the same
strictness. -/
theorem delivers_of_attempt {calls : List Call} {succeeded : Prop} {empty : Error → α}
    {reply : α → Except Error Reply}
    (attempted : attempt connection compiled session = ((tried, left), withCalls session calls))
    (made : ran.2.journal.calls = calls) (config : after.config = session.config)
    (ended : ran.1 = (delivered after empty (tried.map f) >>= reply))
    (replies : ∀ error, ∃ answer, reply (empty error) = .ok answer)
    (fails : ∀ error, tried = .error error → ¬ succeeded) :
    Delivers connection session compiled ran succeeded := by
  have same (error : Error) : swallows after error = swallows session error := by
    simp only [swallows, config]
  refine ⟨?_, ?_, ?_, ?_⟩ <;> rw [attempted]
  · exact made
  · rintro error rfl loud
    rw [ended]
    simp only [Except.map, delivered_error, same, loud]
    rfl
  · rintro error rfl silent
    obtain ⟨answer, replied⟩ := replies error
    refine ⟨answer, ?_⟩
    rw [ended, ← replied]
    simp only [Except.map, delivered_error, same, silent]
    rfl
  · intro success
    cases tried with
    | ok prepared => exact ⟨prepared, rfl⟩
    | error error => exact absurd success (fails error rfl)

/-- Running a statement delivers what came of the attempt, if a failed statement can be answered
with. The session may be one that was prepared for it. -/
theorem answered_delivers {reply : StatementResult → Except Error Reply}
    (replies : ∀ statement error, ∃ answer, reply (.failed statement error) = .ok answer)
    (config : after.config = session.config) (alike : Alike session after)
    (connection : Connection) (compiled : Compiled) :
    let ran := answered connection compiled reply after
    Delivers connection session compiled ran
      (∃ result, ran.2.lastResult = some result ∧ result.isSuccess = true) := by
  intro ran
  -- A run forgets the last result first, which no attempt looks at.
  have alike : Alike session (cleared after) := ⟨alike.adapter, alike.coercions, alike.calls⟩
  obtain ⟨tried, left, calls, attempted, across⟩ := attempt_alike alike connection compiled
  obtain ⟨log, delivers⟩ := run_delivers across
  have ended : ran = ((runStatement connection compiled after).1 >>= reply,
      (runStatement connection compiled after).2) :=
    bind_of_except _ reply after
  simp only [runStatement, delivers] at ended
  refine delivers_of_attempt attempted (congrArg (·.2.journal.calls) ended) config
    (congrArg Prod.fst ended) (replies _) ?_
  rintro error rfl ⟨result, last, success⟩
  rw [ended] at last
  simp only [Except.map, delivered_error] at last
  split at last <;> cases last
  cases success

/-- SQL without values delivers what came of an attempt at it, as whether it went well. -/
theorem unbound_work_delivers (config : after.config = session.config)
    (alike : Alike session after) (connection : Connection) {compiled : Compiled}
    (unbound : compiled.queue = []) :
    let ran := truth (executeUnbound connection compiled.sql) after
    Delivers connection session compiled ran (ran.1 = .ok (.value (.bool true))) := by
  intro ran
  obtain ⟨tried, calls, executed, across⟩ :=
    execute_alike alike connection (session.prepare compiled.sql)
  rw [← prepare_alike alike] at across
  obtain ⟨log, delivers⟩ := unbound_delivers across
  have attempted : attempt connection compiled session =
      ((tried, []), withCalls session calls) := by
    simp only [attempt, unbound, Prepared.bindQueue, executed]
  have ended : ran = ((executeUnbound connection compiled.sql after).1 >>= fun done =>
      .ok (.value (.bool done)), (executeUnbound connection compiled.sql after).2) :=
    bind_of_except _ _ after
  simp only [delivers] at ended
  refine delivers_of_attempt attempted (congrArg (·.2.journal.calls) ended) config
    (congrArg Prod.fst ended) (fun _ => ⟨_, rfl⟩) ?_
  rintro error rfl success
  rw [ended] at success
  simp only [Except.map, delivered_error] at success
  split at success <;> cases success

theorem lock_statement_unbound {tables : Value}
    (made : (Work.lock tables).statement session = .ok compiled) : compiled.queue = [] := by
  obtain there | ⟨error, lacking⟩ := require_locks_cases session
  · simp only [Work.statement, Work.prologue, bind, Action.andThen, Action.ofExcept,
      Action.state, there] at made
    cases built : Lock.build tables with
    | error fault =>
      rw [built] at made
      cases made
    | ok sql =>
      rw [built] at made
      cases made
      rfl
  · simp only [Work.statement, Work.prologue, bind, Action.andThen, lacking] at made
    cases made

theorem unlock_statement_unbound (made : Work.unlock.statement session = .ok compiled) :
    compiled.queue = [] := by
  obtain there | ⟨error, lacking⟩ := require_locks_cases session
  · simp only [Work.statement, Work.prologue, bind, Action.andThen, Action.state, there] at made
    cases made
    rfl
  · simp only [Work.statement, Work.prologue, bind, Action.andThen, lacking] at made
    cases made

/-- With a statement an operation is one attempt at it. -/
theorem made_delivers (connection : Connection) {work : Work} {session : Session}
    (made : work.statement session = .ok compiled) :
    let ran := work.operation.perform connection session
    Delivers connection session compiled ran (work.Succeeded ran) := by
  obtain ⟨config, alike⟩ := prologue_keeps work session
  intro ran
  have ended : ran = work.course connection compiled (work.prologue session).2 := by
    simp only [ran, perform_course, bind, Action.andThen]
    unfold Work.statement at made
    cases began : work.prologue session with
    | mk outcome after =>
      rw [began] at made
      subst made
      rfl
  rw [ended]
  cases work with
  | call call =>
    have delivers := answered_delivers (failed_replies call) config alike connection compiled
    exact { delivers with succeeded := fun success => delivers.succeeded success.2 }
  | run statement =>
    let reply (result : StatementResult) : Except Error Reply := .ok (.result (some result))
    have replies (statement : Compiled) (error : Error) :
        ∃ answer, reply (.failed statement error) = .ok answer := ⟨_, rfl⟩
    have delivers := answered_delivers replies config alike connection compiled
    exact { delivers with succeeded := fun success => delivers.succeeded success.2 }
  | lock tables =>
    exact unbound_work_delivers config alike connection (lock_statement_unbound made)
  | unlock => exact unbound_work_delivers config alike connection (unlock_statement_unbound made)

/-! ## Inside the attempt -/

/-- Values that cannot be bound end an attempt without a call. -/
theorem unbound_attempt (connection : Connection) {session : Session}
    (unbound : ((session.prepare compiled.sql).bindQueue 1 compiled.queue).1 = .error error) :
    (attempt connection compiled session).1.1 =
        .error (session.adapter.classify (some compiled.sql) error) ∧
      (attempt connection compiled session).2 = session := by
  unfold attempt
  cases ended : (session.prepare compiled.sql).bindQueue 1 compiled.queue with
  | mk outcome left =>
    rw [ended] at unbound
    subst unbound
    exact ⟨rfl, rfl⟩

/-- With all values bound an attempt is one execution. -/
theorem bound_attempt (connection : Connection) {session : Session}
    (bound : ((session.prepare compiled.sql).bindQueue 1 compiled.queue).1 = .ok prepared) :
    let executed := Prepared.execute connection { prepared, journal := session.journal }
    (attempt connection compiled session).1.1 =
        (executed.1.map fun _ => executed.2.prepared).mapError
          (session.adapter.classify (some compiled.sql)) ∧
      (attempt connection compiled session).2.journal = executed.2.journal := by
  intro executed
  cases ended : (session.prepare compiled.sql).bindQueue 1 compiled.queue with
  | mk outcome left =>
    rw [ended] at bound
    subst bound
    have sql : prepared.sql = compiled.sql := congrArg Prepared.sql (bind_queue_frame ended)
    simp only [attempt, ended, executePrepared, sql]
    exact ⟨rfl, rfl⟩

end SqlTemplate.StatementWork
