import SqlTemplate.Proofs.Dialogue

/-! What becomes of cursors. A statement is executed on a cursor of its own, and whatever fails in
between, the cursor is closed before anything else is done on the connection. Where the use of a
cursor stands is told by the calls so far and their answers. -/
namespace SqlTemplate.CursorUse
open Dialogue

/-- Where the use of a cursor stands. -/
inductive Stage
  | idle
  /-- There is no cursor, since it could not be had. -/
  | denied
  | opened
  | executed
  /-- The statement has columns, and its rows are still to be fetched. -/
  | described
  /-- Nothing is left but to close the cursor. -/
  | spent (fetched : Bool)
  | closed (fetched : Bool)

/-- No cursor is open. -/
def Stage.Over : Stage → Prop
  | idle | denied | closed _ => True
  | _ => False

/-- What may be done with a cursor that is to execute some SQL: rows are fetched once, and only if
the execution succeeded and gave columns; nothing is done on a cursor that is closed. -/
inductive Step (sql : String) (parameters : Option Value) : Stage → Exchange → Stage → Prop where
  | opens : Step sql parameters .idle ⟨.openCursor, .ok answer⟩ .opened
  | denies : Step sql parameters .idle ⟨.openCursor, .error error⟩ .denied
  | executes : Step sql parameters .opened ⟨.execute sql parameters, .ok answer⟩ .executed
  | refuses :
    Step sql parameters .opened ⟨.execute sql parameters, .error error⟩ (.spent false)
  | describes (columns : (Prepared.resultColumns names).isEmpty = false) :
    Step sql parameters .executed ⟨.description, .ok names⟩ .described
  | describes_nothing (none : (Prepared.resultColumns names).isEmpty = true) :
    Step sql parameters .executed ⟨.description, .ok names⟩ (.spent false)
  | refuses_description : Step sql parameters .executed ⟨.description, .error error⟩ (.spent false)
  | fetches : Step sql parameters .described ⟨.fetchAll, answer⟩ (.spent true)
  | counts : Step sql parameters (.spent fetched) ⟨.rowCount, answer⟩ (.spent fetched)
  | identifies : Step sql parameters (.spent fetched) ⟨.lastRowId, answer⟩ (.spent fetched)
  | closes : Step sql parameters (.spent fetched) ⟨.closeCursor, answer⟩ (.closed fetched)

/-- Exchanges follow the use of one cursor, and this is where it stands after them. -/
inductive Follows (sql : String) (parameters : Option Value) : List Exchange → Stage → Prop where
  | start : Follows sql parameters [] .idle
  | step (so_far : Follows sql parameters exchanges stage)
      (goes : Step sql parameters stage exchange next) :
    Follows sql parameters (exchanges ++ [exchange]) next

/-! ## Counting -/

def opening : Exchange → Bool
  | ⟨.openCursor, _⟩ => true
  | _ => false

/-- The answer is a cursor. -/
def obtaining : Exchange → Bool
  | ⟨.openCursor, .ok _⟩ => true
  | _ => false

def executing : Exchange → Bool
  | ⟨.execute .., _⟩ => true
  | _ => false

def fetching : Exchange → Bool
  | ⟨.fetchAll, _⟩ => true
  | _ => false

def closing : Exchange → Bool
  | ⟨.closeCursor, _⟩ => true
  | _ => false

/-- What each step adds to a count shows at the stage it reaches. -/
theorem Follows.count {value : Stage → Nat} {counted : Exchange → Bool} (start : value .idle = 0)
    (steps : ∀ stage exchange next, Step sql parameters stage exchange next →
      value next = value stage + (counted exchange).toNat)
    (follows : Follows sql parameters exchanges stage) :
    exchanges.countP counted = value stage := by
  induction follows with
  | start => exact start.symm
  | step so_far goes ih =>
    rw [List.countP_append, ih, steps _ _ _ goes, List.countP_singleton]
    split <;> simp_all

def Stage.openings : Stage → Nat
  | idle => 0
  | _ => 1

def Stage.cursors : Stage → Nat
  | idle | denied => 0
  | _ => 1

def Stage.executions : Stage → Nat
  | idle | denied | opened => 0
  | _ => 1

def Stage.fetches : Stage → Nat
  | spent fetched | closed fetched => fetched.toNat
  | _ => 0

def Stage.closings : Stage → Nat
  | closed _ => 1
  | _ => 0

section Counts

variable {sql : String} {parameters : Option Value} {exchanges : List Exchange} {stage : Stage}

theorem Follows.count_opening (follows : Follows sql parameters exchanges stage) :
    exchanges.countP opening = stage.openings :=
  follows.count rfl fun _ _ _ goes => by cases goes <;> rfl

theorem Follows.count_obtaining (follows : Follows sql parameters exchanges stage) :
    exchanges.countP obtaining = stage.cursors :=
  follows.count rfl fun _ _ _ goes => by cases goes <;> rfl

theorem Follows.count_executing (follows : Follows sql parameters exchanges stage) :
    exchanges.countP executing = stage.executions :=
  follows.count rfl fun _ _ _ goes => by cases goes <;> rfl

theorem Follows.count_fetching (follows : Follows sql parameters exchanges stage) :
    exchanges.countP fetching = stage.fetches :=
  follows.count rfl fun _ _ _ goes => by cases goes <;> rfl

theorem Follows.count_closing (follows : Follows sql parameters exchanges stage) :
    exchanges.countP closing = stage.closings :=
  follows.count rfl fun _ _ _ goes => by cases goes <;> rfl

end Counts

/-- All that was said, if anything, was about one cursor, which is closed if there was one. On it
no more than one statement was executed and no more than once rows were fetched. -/
structure UsedOnce (exchanges : List Exchange) : Prop where
  life : ∃ sql parameters last, Follows sql parameters exchanges last ∧ last.Over
  opened : exchanges.countP opening ≤ 1
  executed : exchanges.countP executing ≤ 1
  fetched : exchanges.countP fetching ≤ 1
  closed : exchanges.countP closing = exchanges.countP obtaining

theorem Follows.used_once (follows : Follows sql parameters exchanges last) (ended : last.Over) :
    UsedOnce exchanges where
  life := ⟨sql, parameters, last, follows, ended⟩
  opened := by rw [follows.count_opening]; cases last <;> simp [Stage.openings]
  executed := by rw [follows.count_executing]; cases last <;> simp [Stage.executions]
  fetched := by
    rw [follows.count_fetching]
    cases last with
    | spent fetched | closed fetched => exact Bool.toNat_le fetched
    | _ => exact Nat.zero_le 1
  closed := by
    rw [follows.count_closing, follows.count_obtaining]
    cases last <;> first | rfl | cases ended

/-! ## Executions -/

/-- The use of a cursor stands somewhere, and nothing failed. -/
def At (sql : String) (parameters : Option Value) (stage : Stage) (exchanges : List Exchange) :
    Prop :=
  Follows sql parameters exchanges stage ∧ lastFailure? exchanges = none

/-- The failure of a call is what an action fails with. Without such a failure it may fail with
anything. -/
def FailsWith (error : Error) (exchanges : List Exchange) : Prop :=
  ∀ call failure, lastFailure? exchanges = some (call, failure) → failure = error

theorem FailsWith.of_clean (clean : lastFailure? exchanges = none) : FailsWith error exchanges := by
  intro call failure last
  cases clean.symm.trans last

theorem FailsWith.of_last (exchanges : List Exchange) (call : Call) (error : Error) :
    FailsWith error (exchanges ++ [⟨call, .error error⟩]) := by
  intro call failure last
  rw [last_failure_snoc] at last
  cases last
  rfl

theorem FailsWith.goes_on (fails : FailsWith error exchanges) (answer : Call.Answer call) :
    FailsWith error (exchanges ++ [⟨call, .ok answer⟩]) := by
  intro call failure last
  rw [last_failure_snoc] at last
  exact fails call failure last

/-- Nothing is left but to close the cursor. -/
def Broken (sql : String) (parameters : Option Value) (error : Error) (exchanges : List Exchange) :
    Prop :=
  (∃ fetched, Follows sql parameters exchanges (.spent fetched)) ∧ FailsWith error exchanges

/-- Exchanges are the whole use of a cursor. Where cursors can be asked for, one was asked for. -/
def Whole (connection : Connection) (sql : String) (parameters : Option Value)
    (exchanges : List Exchange) : Prop :=
  ∃ last, Follows sql parameters exchanges last ∧ last.Over ∧
    (connection.offers .cursor = true → last ≠ .idle)

theorem Whole.closed (follows : Follows sql parameters exchanges (.closed fetched)) :
    Whole connection sql parameters exchanges :=
  ⟨.closed fetched, follows, trivial, fun _ same => by cases same⟩

section Executions

variable {connection : Connection} {sql : String} {parameters : Option Value}

theorem ask_uses {call : Call} {stage : Stage} {next : call.Answer → Stage}
    (free : call.method? = none)
    (answers : ∀ answer, Step sql parameters stage ⟨call, .ok answer⟩ (next answer))
    (fails : ∀ error, ∃ fetched,
      Step sql parameters stage ⟨call, .error error⟩ (.spent fetched)) :
    Leads connection (At sql parameters stage)
      (connection.ask call : Action Prepared.Running call.Answer)
      (fun answer => At sql parameters (next answer)) (Broken sql parameters) := by
  apply ask_leads
  · intro missing
    simp [Connection.canAnswer, free] at missing
  · rintro exchanges (error | answer) ⟨follows, clean⟩
    · obtain ⟨fetched, step⟩ := fails error
      exact ⟨⟨fetched, follows.step step⟩, .of_last exchanges call error⟩
    · refine ⟨follows.step (answers answer), ?_⟩
      rw [last_failure_snoc, clean]
      rfl

theorem note_uses (change : Prepared → Prepared) (stage : Stage) :
    Leads connection (At sql parameters stage) (Prepared.note change)
      (fun _ => At sql parameters stage) (Broken sql parameters) :=
  quiet_leads (fun _ => rfl) fun _ _ start => start

/-- Where a use stands when the names of the columns are known. -/
def afterNames (names : List Value) : Stage :=
  if names.isEmpty then .spent false else .described

theorem description_uses :
    Leads connection (At sql parameters .executed)
      (connection.ask .description : Action Prepared.Running _)
      (fun description => At sql parameters (afterNames (Prepared.resultColumns description)))
      (Broken sql parameters) := by
  refine ask_uses rfl (fun description => ?_) fun error => ⟨false, .refuses_description⟩
  unfold afterNames
  cases columns : (Prepared.resultColumns description).isEmpty with
  | true => exact .describes_nothing columns
  | false => exact .describes columns

/-- Whatever ends an action that calls nobody, no call failed. -/
theorem of_except_uses (outcome : Except Error α) (fetched : Bool) :
    Leads connection (At sql parameters (.spent fetched))
      (.ofExcept outcome : Action Prepared.Running α)
      (fun _ => At sql parameters (.spent fetched)) (Broken sql parameters) := by
  refine quiet_leads (fun _ => rfl) ?_
  rintro _ exchanges ⟨follows, clean⟩
  cases outcome with
  | ok a => exact ⟨follows, clean⟩
  | error error => exact ⟨⟨fetched, follows⟩, .of_clean clean⟩

theorem keep_rows_uses (names : List Value) :
    Leads connection (At sql parameters (afterNames names)) (Prepared.keepRows connection names)
      (fun _ => At sql parameters (.spent !names.isEmpty)) (Broken sql parameters) := by
  unfold Prepared.keepRows afterNames
  cases names.isEmpty with
  | true =>
    simp only [↓reduceIte]
    exact note_uses _ (.spent false)
  | false =>
    simp only [Bool.false_eq_true, ↓reduceIte]
    refine bind_leads (note_uses _ .described) fun _ => ?_
    refine bind_leads (ask_uses rfl (fun _ => .fetches) fun _ => ⟨true, .fetches⟩) fun _ => ?_
    exact bind_leads (of_except_uses _ true) fun _ => note_uses _ (.spent true)

theorem keep_count_uses (names : List Value) (fetched : Bool) :
    Leads connection (At sql parameters (.spent fetched)) (Prepared.keepCount connection names)
      (fun _ => At sql parameters (.spent fetched)) (Broken sql parameters) :=
  bind_leads (ask_uses rfl (fun _ => .counts) fun _ => ⟨fetched, .counts⟩) fun _ => note_uses _ _

theorem execute_on_uses :
    Leads connection (At sql parameters .opened) (Prepared.executeOn connection sql parameters)
      (fun _ exchanges => ∃ fetched, At sql parameters (.spent fetched) exchanges)
      (Broken sql parameters) := by
  refine bind_leads (ask_uses rfl (fun _ => .executes) fun _ => ⟨false, .refuses⟩) fun _ => ?_
  -- From here on what may be done hangs on the names of the columns.
  refine bind_leads description_uses fun description => ?_
  refine bind_leads (keep_rows_uses _) fun _ => ?_
  refine bind_leads (keep_count_uses _ _) fun _ => ?_
  refine bind_leads (ask_uses rfl (fun _ => .identifies) fun _ => ⟨_, .identifies⟩) fun _ => ?_
  exact (note_uses _ _).done_weaker fun _ _ stands => ⟨_, stands⟩

/-- What an execution that failed leaves. -/
def Left (connection : Connection) (sql : String) (parameters : Option Value) (error : Error)
    (exchanges : List Exchange) : Prop :=
  Whole connection sql parameters exchanges ∧ FailsWith error exchanges

theorem open_leads :
    Leads connection (· = []) (connection.ask .openCursor : Action Prepared.Running _)
      (fun _ => At sql parameters .opened) (Left connection sql parameters) := by
  apply ask_leads
  · rintro absent _ rfl
    refine ⟨⟨.idle, .start, trivial, fun offers => ?_⟩, .of_clean rfl⟩
    simp [Connection.canAnswer, Call.method?, offers] at absent
  · rintro _ (error | answer) rfl
    · have denied : Follows sql parameters [⟨.openCursor, .error error⟩] .denied :=
        .step .start .denies
      exact ⟨⟨.denied, denied, trivial, fun _ same => by cases same⟩, .of_last [] _ error⟩
    · exact ⟨.step .start .opens, rfl⟩

/-- Whether or not something failed on a cursor, it is closed. A failure to close it is the last. -/
theorem close_leads (outcome : Except Error Unit) :
    Leads connection
      (Ends (fun _ exchanges => ∃ fetched, At sql parameters (.spent fetched) exchanges)
        (Broken sql parameters) outcome)
      (connection.ask .closeCursor : Action Prepared.Running _)
      (fun _ => Ends (fun _ exchanges => ∃ fetched, At sql parameters (.closed fetched) exchanges)
        (Left connection sql parameters) outcome)
      (Left connection sql parameters) := by
  have whole {exchanges fetched} (answer : Except Error Unit)
      (follows : Follows sql parameters exchanges (.spent fetched)) :
      Whole connection sql parameters (exchanges ++ [⟨.closeCursor, answer⟩]) :=
    .closed (follows.step .closes)
  apply ask_leads
  · intro absent
    cases absent
  · rintro exchanges (error | answer) start
    · cases outcome with
      | ok _ =>
        obtain ⟨fetched, follows, -⟩ := start
        exact ⟨whole _ follows, .of_last exchanges _ error⟩
      | error _ =>
        obtain ⟨⟨fetched, follows⟩, -⟩ := start
        exact ⟨whole _ follows, .of_last exchanges _ error⟩
    · cases outcome with
      | ok _ =>
        obtain ⟨fetched, follows, clean⟩ := start
        refine ⟨fetched, follows.step .closes, ?_⟩
        rw [last_failure_snoc, clean]
        rfl
      | error _ =>
        obtain ⟨⟨fetched, follows⟩, fails⟩ := start
        exact ⟨whole _ follows, fails.goes_on answer⟩

/-- Once there are parameters to send, an execution is the whole use of a cursor. It succeeds only
on one that was executed, and if a call failed, it fails as the last of those that did. -/
structure Executes (connection : Connection) (sql : String) (parameters : Option Value)
    (exchanges : List Exchange) (outcome : Except Error Unit) : Prop where
  whole : Whole connection sql parameters exchanges
  done : outcome = .ok () → exchanges.countP executing = 1
  fails : ∀ call failure, lastFailure? exchanges = some (call, failure) → outcome = .error failure

theorem send_leads :
    Leads connection (· = [])
      (do
        connection.ask .openCursor
        (Prepared.executeOn connection sql parameters).ensuring (connection.ask .closeCursor) :
        Action Prepared.Running Unit)
      (fun _ exchanges => ∃ fetched, At sql parameters (.closed fetched) exchanges)
      (Left connection sql parameters) :=
  bind_leads open_leads fun _ => ensuring_leads execute_on_uses close_leads

/-- With parameters to send, an execution is what is done on a cursor of its own. -/
theorem rendered_execute (connection : Connection) (running : Prepared.Running)
    (rendered : running.prepared.render = .ok (sql, parameters)) :
    Prepared.execute connection running =
      (do
        connection.ask .openCursor
        (Prepared.executeOn connection sql parameters).ensuring (connection.ask .closeCursor) :
        Action Prepared.Running Unit) running := by
  simp only [Prepared.execute, bind, Action.andThen, Action.state, Action.ofExcept, rendered]

theorem execute_executes (connection : Connection) (running : Prepared.Running)
    (rendered : running.prepared.render = .ok (sql, parameters)) :
    ∃ calls,
      (Prepared.execute connection running).2.journal.calls = running.journal.calls ++ calls ∧
      Executes connection sql parameters (dialogue connection running.journal.calls calls)
        (Prepared.execute connection running).1 := by
  obtain ⟨calls, reached, ends⟩ :=
    send_leads running running.journal.calls [] (List.append_nil _).symm rfl
  rw [← rendered_execute connection running rendered, List.nil_append] at reached ends
  refine ⟨calls, reached, ?_⟩
  cases outcome : (Prepared.execute connection running).1 with
  | ok _ =>
    rw [outcome] at ends
    obtain ⟨fetched, follows, clean⟩ := ends
    refine ⟨.closed follows, fun _ => follows.count_executing, ?_⟩
    intro call failure last
    cases clean.symm.trans last
  | error error =>
    rw [outcome] at ends
    obtain ⟨whole, fails⟩ := ends
    refine ⟨whole, ?_, ?_⟩
    · intro done
      cases done
    · intro call failure last
      rw [fails call failure last]

/-- Without parameters to send nothing is done. -/
theorem unrendered_execute (connection : Connection) (running : Prepared.Running)
    (unrendered : running.prepared.render = .error error) :
    Prepared.execute connection running = (.error error, running) := by
  simp only [Prepared.execute, bind, Action.andThen, Action.state, Action.ofExcept, unrendered]

end Executions

end SqlTemplate.CursorUse
