import SqlTemplate.Connection.Script
import SqlTemplate.Proofs.Bindings
import SqlTemplate.Proofs.CursorUse

/-! What a statement has of its executions. Names, rows, count and id of a result are kept one by
one as they are told, so an execution that breaks off leaves those it was told until then beside
the older ones. -/
namespace SqlTemplate.BufferedRows
open Dialogue Bindings
open CursorUse (rendered_execute unrendered_execute)

/-! ## What an execution is told -/

/-- What answers told of a result, each part if it was told. -/
structure Told where
  names : Option (List Value)
  rows : Option (List Value)
  /-- The number of affected rows, as it was reported. -/
  count : Option Value
  id : Option Value

def Told.nothing : Told := { names := none, rows := none, count := none, id := none }

/-- Without columns there are no rows to ask for. -/
def Told.ofNames (names : List Value) : Told :=
  { Told.nothing with names := some names, rows := if names.isEmpty then some [] else none }

def Told.ofRows (names rows : List Value) : Told :=
  { Told.nothing with names := some names, rows := some rows }

/-- What one answer tells. Rows that cannot be walked through are not told. -/
def toldBy : Exchange → Told
  | ⟨.description, .ok description⟩ => .ofNames (Prepared.resultColumns description)
  | ⟨.fetchAll, .ok fetched⟩ => { Told.nothing with rows := fetched.walk.toOption }
  | ⟨.rowCount, .ok reported⟩ => { Told.nothing with count := some reported }
  | ⟨.lastRowId, .ok id⟩ => { Told.nothing with id := some id }
  | _ => .nothing

/-- What is told first is kept to. -/
def Told.and (told more : Told) : Told where
  names := told.names.or more.names
  rows := told.rows.or more.rows
  count := told.count.or more.count
  id := told.id.or more.id

theorem Told.and_nothing (told : Told) : told.and .nothing = told := by
  simp only [Told.and, Told.nothing, Option.or_none]

def told (exchanges : List Exchange) : Told :=
  exchanges.foldl (fun so_far exchange => so_far.and (toldBy exchange)) .nothing

theorem told_snoc (exchanges : List Exchange) (exchange : Exchange) :
    told (exchanges ++ [exchange]) = (told exchanges).and (toldBy exchange) := by
  simp only [told, List.foldl_append, List.foldl_cons, List.foldl_nil]

theorem told_closed (exchanges : List Exchange) (answer : Except Error Call.closeCursor.Answer) :
    told (exchanges ++ [⟨.closeCursor, answer⟩]) = told exchanges := by
  have silent : toldBy ⟨.closeCursor, answer⟩ = .nothing := by cases answer <;> rfl
  rw [told_snoc, silent, Told.and_nothing]

/-- The number of affected rows of a result that has these names and rows. -/
def countOf (names rows : List Value) (reported : Value) : Value :=
  let count := Prepared.reportedCount reported
  if !names.isEmpty && count.equals (.int 0) then .int rows.length else count

/-- A statement that keeps what was told, and the rest as it was. -/
def Told.kept (told : Told) (before : Prepared) : Prepared :=
  let names := told.names.getD before.columnNames
  let rows := told.rows.getD before.rows
  { before with
    columnNames := names, rows := rows,
    rowCount := (told.count.map (countOf names rows)).getD before.rowCount,
    lastRowId := told.id.getD before.lastRowId }

/-- Nothing is told before what it belongs to. -/
structure Told.InOrder (told : Told) : Prop where
  rows : told.names = none → told.rows = none
  count : told.rows = none → told.count = none
  id : told.count = none → told.id = none

/-- Everything of a result was told. -/
structure Told.Whole (told : Told) : Prop where
  names : told.names.isSome
  rows : told.rows.isSome
  count : told.count.isSome
  id : told.id.isSome

theorem nothing_in_order : Told.nothing.InOrder := ⟨fun _ => rfl, fun _ => rfl, fun _ => rfl⟩

theorem Told.InOrder.nothing_of_unnamed {told : Told} (ordered : told.InOrder)
    (unnamed : told.names = none) : told = .nothing := by
  have rows := ordered.rows unnamed
  have count := ordered.count rows
  have id := ordered.id count
  obtain ⟨_, _, _, _⟩ := told
  cases unnamed
  cases rows
  cases count
  cases id
  rfl

/-! ## Executions -/

section Executions

variable {connection : Connection} {start : Prepared} {sofar noted : Told}

/-- So much was told, and so much of it is noted on the statement. -/
def Stands (start : Prepared) (sofar noted : Told) (running : Prepared.Running)
    (exchanges : List Exchange) : Prop :=
  told exchanges = sofar ∧ running.prepared = noted.kept start

/-- A statement has what was told and nothing else. -/
def HasTold (start : Prepared) (running : Prepared.Running) (exchanges : List Exchange) : Prop :=
  running.prepared = (told exchanges).kept start ∧ (told exchanges).InOrder

/-- A statement has a whole result. -/
def HasWhole (start : Prepared) (running : Prepared.Running) (exchanges : List Exchange) : Prop :=
  HasTold start running exchanges ∧ (told exchanges).Whole

theorem Stands.has_told {running : Prepared.Running} (ordered : sofar.InOrder)
    (stands : Stands start sofar sofar running exchanges) : HasTold start running exchanges := by
  obtain ⟨same, noted⟩ := stands
  subst same
  exact ⟨noted, ordered⟩

theorem ask_tells {call : Call} (ordered : sofar.InOrder)
    (silent : ∀ error, toldBy ⟨call, .error error⟩ = .nothing) :
    Carries connection (Stands start sofar sofar)
      (connection.ask call : Action Prepared.Running call.Answer)
      (fun answer => Stands start (sofar.and (toldBy ⟨call, .ok answer⟩)) sofar)
      (fun _ => HasTold start) := by
  refine ask_carries (fun _ _ _ stands => stands.has_told ordered) ?_
  rintro running exchanges (error | answer) stands
  · refine Stands.has_told ordered ⟨?_, stands.2⟩
    rw [told_snoc, silent, stands.1, Told.and_nothing]
  · refine ⟨?_, stands.2⟩
    rw [told_snoc, stands.1]

/-- A call whose answer tells nothing. -/
theorem ask_quietly {call : Call} (ordered : sofar.InOrder)
    (silent : ∀ answer, toldBy ⟨call, answer⟩ = .nothing) :
    Carries connection (Stands start sofar sofar)
      (connection.ask call : Action Prepared.Running call.Answer)
      (fun _ => Stands start sofar sofar) (fun _ => HasTold start) := by
  have tells : Carries connection (Stands start sofar sofar)
      (connection.ask call : Action Prepared.Running call.Answer)
      (fun answer => Stands start (sofar.and (toldBy ⟨call, .ok answer⟩)) sofar)
      (fun _ => HasTold start) :=
    ask_tells ordered fun error => silent (.error error)
  simpa only [silent, Told.and_nothing] using tells

theorem note_keeps {change : Prepared → Prepared}
    (keeps : change (noted.kept start) = sofar.kept start) :
    Carries connection (Stands start sofar noted) (Prepared.note change)
      (fun _ => Stands start sofar sofar) (fun _ => HasTold start) := by
  refine quiet_carries (fun _ => rfl) fun running exchanges stands => ⟨stands.1, ?_⟩
  simp only [Prepared.note, Action.change, stands.2, keeps]

/-- Names are noted before the rows are asked for. -/
theorem keep_rows_tells (names : List Value) :
    Carries connection (Stands start (.ofNames names) .nothing)
      (Prepared.keepRows connection names)
      (fun _ running exchanges => ∃ rows,
        Stands start (.ofRows names rows) (.ofRows names rows) running exchanges)
      (fun _ => HasTold start) := by
  unfold Prepared.keepRows
  cases empty : names.isEmpty with
  | true =>
    cases List.isEmpty_iff.mp empty
    simp only [↓reduceIte]
    refine (note_keeps ?_).done_weaker fun _ _ _ stands => ⟨[], stands⟩
    rfl
  | false =>
    have unfetched : Told.ofNames names = { Told.nothing with names := some names } := by
      simp only [Told.ofNames, empty, Bool.false_eq_true, ↓reduceIte, Told.nothing]
    have named : (Told.ofNames names).InOrder := by
      rw [unfetched]
      exact ⟨nofun, fun _ => rfl, fun _ => rfl⟩
    simp only [Bool.false_eq_true, ↓reduceIte]
    refine bind_carries (note_keeps ?_) fun _ => ?_
    · rw [unfetched]
      rfl
    refine bind_carries (ask_tells named fun _ => rfl) fun fetched => ?_
    cases walked : fetched.walk with
    | error kind =>
      have untold : toldBy ⟨.fetchAll, .ok fetched⟩ = .nothing := by
        simp only [toldBy, walked, Except.toOption, Told.nothing]
      rw [untold, Told.and_nothing]
      exact quiet_carries (fun _ => rfl) fun _ _ stands => stands.has_told named
    | ok rows =>
      have given : (Told.ofNames names).and (toldBy ⟨.fetchAll, .ok fetched⟩) =
          .ofRows names rows := by
        rw [unfetched]
        simp only [Told.and, toldBy, walked, Except.toOption, Told.nothing, Told.ofRows,
          Option.or_none, Option.none_or]
      rw [given]
      show Carries connection _ (Prepared.note fun prepared => { prepared with rows := rows }) _ _
      refine (note_keeps ?_).done_weaker fun _ _ _ stands => ⟨rows, stands⟩
      rw [unfetched]
      rfl

/-- The count and the id go to a result that is there. -/
theorem keep_count_tells (names rows : List Value) :
    Carries connection (Stands start (.ofRows names rows) (.ofRows names rows))
      (Prepared.keepCount connection names)
      (fun _ running exchanges => ∃ reported,
        Stands start { Told.ofRows names rows with count := some reported }
          { Told.ofRows names rows with count := some reported } running exchanges)
      (fun _ => HasTold start) := by
  refine bind_carries (ask_tells ⟨nofun, nofun, fun _ => rfl⟩ fun _ => rfl) fun reported => ?_
  refine (note_keeps ?_).done_weaker fun _ _ _ stands => ⟨reported, stands⟩
  rfl

theorem execute_on_tells (sql : String) (parameters : Option Value) :
    Carries connection (Stands start .nothing .nothing)
      (Prepared.executeOn connection sql parameters)
      (fun _ => HasWhole start) (fun _ => HasTold start) := by
  refine bind_carries (ask_quietly nothing_in_order ?_) fun _ => ?_
  · rintro (_ | _) <;> rfl
  refine bind_carries (ask_tells nothing_in_order fun _ => rfl) fun description => ?_
  refine bind_carries (keep_rows_tells _) fun _ => ?_
  refine carries_of_exists fun rows => ?_
  refine bind_carries (keep_count_tells _ rows) fun _ => ?_
  refine carries_of_exists fun reported => ?_
  refine bind_carries (ask_tells ⟨nofun, nofun, nofun⟩ fun _ => rfl) fun id => ?_
  have ordered : ({ Told.ofRows (Prepared.resultColumns description) rows with
      count := some reported, id := some id } : Told).InOrder := ⟨nofun, nofun, nofun⟩
  refine (note_keeps ?_).done_weaker fun _ _ _ stands => ⟨stands.has_told ordered, ?_⟩
  · rfl
  · rw [stands.1]
    exact ⟨rfl, rfl, rfl, rfl⟩

/-- Nothing is told when a cursor is opened and when it is closed. -/
theorem send_tells (sql : String) (parameters : Option Value) :
    Carries connection (Stands start .nothing .nothing)
      (do
        connection.ask .openCursor
        (Prepared.executeOn connection sql parameters).ensuring (connection.ask .closeCursor) :
        Action Prepared.Running Unit)
      (fun _ => HasWhole start) (fun _ => HasTold start) := by
  refine bind_carries (ask_quietly nothing_in_order ?_) fun _ => ?_
  · rintro (_ | _) <;> rfl
  refine ensuring_carries (execute_on_tells sql parameters) fun outcome => ?_
  refine ask_carries (fun absent => nomatch absent) fun running exchanges answer has => ?_
  have told_so_far : HasTold start running exchanges := by
    cases outcome with
    | ok _ => exact has.1
    | error _ => exact has
  cases answer with
  | error error =>
    rw [Ends, HasTold, told_closed]
    exact told_so_far
  | ok answer =>
    cases outcome with
    | ok _ =>
      rw [Ends, Ends, HasWhole, HasTold, told_closed]
      exact has
    | error _ =>
      rw [Ends, Ends, HasTold, told_closed]
      exact has

end Executions

/-! ## Lives -/

/-- What was said from one state to a later one. -/
def saidBetween (connection : Connection) (before after : Prepared.Running) : List Exchange :=
  dialogue connection before.journal.calls
    (after.journal.calls.drop before.journal.calls.length)

/-- What is said on the connection when a statement is executed. -/
def saidIn (connection : Connection) (running : Prepared.Running) : List Exchange :=
  saidBetween connection running (Prepared.execute connection running).2

theorem said_between_of_calls {connection : Connection} {before after : Prepared.Running}
    (made : after.journal.calls = before.journal.calls ++ calls) :
    saidBetween connection before after = dialogue connection before.journal.calls calls := by
  rw [saidBetween, made, List.drop_left]

/-- An execution leaves a statement with what was told, which is everything unless it failed. -/
theorem execute_has_told (connection : Connection) (running : Prepared.Running) :
    HasTold running.prepared (Prepared.execute connection running).2 (saidIn connection running) ∧
      ((Prepared.execute connection running).1 = .ok () →
        (told (saidIn connection running)).Whole) := by
  cases rendered : running.prepared.render with
  | error error =>
    have unsaid : saidIn connection running = [] := by
      rw [saidIn, unrendered_execute connection running rendered]
      exact said_between_of_calls (List.append_nil _).symm
    rw [unrendered_execute connection running rendered, unsaid]
    exact ⟨⟨rfl, nothing_in_order⟩, nofun⟩
  | ok sent =>
    obtain ⟨sql, parameters⟩ := sent
    obtain ⟨calls, reached, ends⟩ :=
      send_tells sql parameters running running.journal.calls [] (List.append_nil _).symm ⟨rfl, rfl⟩
    rw [← rendered_execute connection running rendered, List.nil_append] at reached ends
    rw [saidIn, said_between_of_calls reached]
    cases outcome : (Prepared.execute connection running).1 with
    | ok _ =>
      rw [outcome] at ends
      exact ⟨ends.1, fun _ => ends.2⟩
    | error error =>
      rw [outcome] at ends
      exact ⟨ends, nofun⟩

/-- What is asked of a prepared statement. -/
inductive Use
  | bind (key value : Value) (type : BindType)
  | execute
  | close

def Use.perform (connection : Connection) : Use → Action Prepared.Running Unit
  | bind key value type => fun running =>
    match running.prepared.bind key value type with
    | .ok prepared => (.ok (), { running with prepared := prepared })
    | .error error => (.error error, running)
  | execute => Prepared.execute connection
  | close => Prepared.note Prepared.close

/-- A statement in use, and what was said in the last execution that told it names, unless its rows
were let go since. -/
structure Life where
  running : Prepared.Running
  source : Option (List Exchange)

def Life.start (prepared : Prepared) (journal : Journal) : Life :=
  { running := { prepared := prepared, journal := journal }, source := none }

def Life.step (connection : Connection) (life : Life) (use : Use) : Life where
  running := (use.perform connection life.running).2
  source :=
    match use with
    | .bind .. => life.source
    | .close => none
    | .execute =>
      let said := saidIn connection life.running
      if (told said).names.isSome then some said else life.source

def Life.run (connection : Connection) (life : Life) (uses : List Use) : Life :=
  uses.foldl (Life.step connection) life

/-- The names are those that the source told, and so are the rows if it told any. Without a source
there are neither. -/
def Life.Sourced (life : Life) : Prop :=
  match life.source with
  | none => life.running.prepared.columnNames = [] ∧ life.running.prepared.rows = []
  | some said =>
    (told said).names = some life.running.prepared.columnNames ∧
      ∀ rows, (told said).rows = some rows → rows = life.running.prepared.rows

/-- What a statement has of its result did not change. -/
structure SameResult (before after : Prepared) : Prop where
  rows : after.rows = before.rows
  names : after.columnNames = before.columnNames
  count : after.rowCount = before.rowCount
  id : after.lastRowId = before.lastRowId

/-- What was told is what a statement has already. -/
structure Told.Repeats (told : Told) (prepared : Prepared) : Prop where
  names : ∀ names, told.names = some names → names = prepared.columnNames
  rows : ∀ rows, told.rows = some rows → rows = prepared.rows
  count : ∀ reported, told.count = some reported →
    countOf prepared.columnNames prepared.rows reported = prepared.rowCount
  id : ∀ id, told.id = some id → id = prepared.lastRowId

theorem stays_iff {told : Option α} {before : α} :
    told.getD before = before ↔ ∀ a, told = some a → a = before := by
  cases told <;> simp

theorem kept_same_iff (told : Told) (before : Prepared) :
    SameResult before (told.kept before) ↔ told.Repeats before := by
  -- Once names and rows are the same, the count is made of the same parts.
  have counts (names : told.names.getD before.columnNames = before.columnNames)
      (rows : told.rows.getD before.rows = before.rows) :
      (told.kept before).rowCount =
        (told.count.map (countOf before.columnNames before.rows)).getD before.rowCount := by
    simp only [Told.kept, names, rows]
  have repeats : (told.count.map (countOf before.columnNames before.rows)).getD before.rowCount =
      before.rowCount ↔ ∀ reported, told.count = some reported →
        countOf before.columnNames before.rows reported = before.rowCount := by
    cases told.count <;> simp
  constructor
  · rintro ⟨rows, names, count, id⟩
    rw [counts names rows] at count
    exact ⟨stays_iff.mp names, stays_iff.mp rows, repeats.mp count, stays_iff.mp id⟩
  · rintro ⟨names, rows, count, id⟩
    have names := stays_iff.mpr names
    have rows := stays_iff.mpr rows
    exact ⟨rows, names, (counts names rows).trans (repeats.mpr count), stays_iff.mpr id⟩

theorem step_sourced {life : Life} (connection : Connection) (sourced : life.Sourced) (use : Use) :
    (life.step connection use).Sourced := by
  cases use with
  | bind key value type =>
    simp only [Life.Sourced, Life.step, Use.perform]
    cases bound : life.running.prepared.bind key value type with
    | error error => exact sourced
    | ok prepared =>
      rw [bind_frame bound]
      exact sourced
  | close => exact ⟨rfl, rfl⟩
  | execute =>
    obtain ⟨⟨has, ordered⟩, -⟩ := execute_has_told connection life.running
    simp only [Life.Sourced, Life.step, Use.perform, has]
    cases named : (told (saidIn connection life.running)).names with
    | none =>
      rw [ordered.nothing_of_unnamed named]
      exact sourced
    | some names =>
      refine ⟨by simp [Told.kept, named], fun rows given => ?_⟩
      simp [Told.kept, given]

theorem run_sourced {life : Life} (connection : Connection) (sourced : life.Sourced)
    (uses : List Use) : (life.run connection uses).Sourced := by
  induction uses generalizing life with
  | nil => exact sourced
  | cons use rest ih => exact ih (step_sourced connection sourced use)

/-- The sequel of a statement's life when it is executed once more. A success gives it a whole new
result. In any case it keeps the result that it had just when all that it was told repeats it, as
it does when no description was answered: then nothing of the statement changes. Its names are
always those of the last execution that told any, and its rows are of the same one unless that
broke off before it gave them. -/
theorem failed_execution_keeps_result_unless_described (connection : Connection)
    (typeName : String) (style : MarkerStyle) (sql : String) (coercions : Option Coercions)
    (journal : Journal) (uses : List Use) :
    let life := (Life.start (.new typeName style sql coercions) journal).run connection uses
    let ran := Prepared.execute connection life.running
    let heard := told (saidIn connection life.running)
    (ran.1 = .ok () → heard.Whole) ∧
    (SameResult life.running.prepared ran.2.prepared ↔ heard.Repeats life.running.prepared) ∧
    (heard.names = none → ran.2.prepared = life.running.prepared) ∧
    life.Sourced := by
  intro life ran heard
  obtain ⟨⟨has, ordered⟩, whole⟩ := execute_has_told connection life.running
  have kept : ran.2.prepared = heard.kept life.running.prepared := has
  have fresh : (Life.start (.new typeName style sql coercions) journal).Sourced := ⟨rfl, rfl⟩
  refine ⟨whole, ?_, ?_, run_sourced connection fresh uses⟩
  · rw [kept]
    exact kept_same_iff heard life.running.prepared
  · intro unnamed
    have unheard : heard = .nothing := ordered.nothing_of_unnamed unnamed
    rw [kept, unheard]
    rfl

/-- A connection that has a row for the first statement and then plays another reply. -/
def telling (next : ScriptReply) : Connection :=
  .scripted "Connection" []
    [{ ScriptReply.none with columns := some [.str "a"], rows := .list [.list [.int 1]] }, next]

/-- A selection that was executed once. -/
def executedOnce (next : ScriptReply) : Life :=
  (Life.start (.new "SqliteStatement" .colon "SELECT 1" none) (.empty .debug)).run
    (telling next) [.execute]

/-- A second execution that the database refuses leaves the row of the first. -/
theorem refused_execution_keeps_rows :
    let next := { ScriptReply.none with raises := some (.ofKind .wrongType) }
    let before := (executedOnce next).running
    let after := (Prepared.execute (telling next) before).2
    (told (saidIn (telling next) before)).names = none ∧
      after.prepared = before.prepared ∧ before.prepared.rows = [.list [.int 1]] := by
  intro next before after
  have unnamed : (told (saidIn (telling next) before)).names = none := by rfl
  obtain ⟨-, -, unchanged, -⟩ := failed_execution_keeps_result_unless_described (telling next)
    "SqliteStatement" .colon "SELECT 1" none (.empty .debug) [.execute]
  exact ⟨unnamed, unchanged unnamed, by rfl⟩

/-- A second execution whose rows cannot be walked through has put the name of its column over the
row of the first. -/
theorem unwalkable_rows_divide_the_result :
    let next := { ScriptReply.none with columns := some [.str "b"], rows := .int 5 }
    let before := (executedOnce next).running
    let ran := Prepared.execute (telling next) before
    ran.1 = .error (.ofKind .wrongType) ∧
      ¬ SameResult before.prepared ran.2.prepared ∧
      before.prepared.columnNames = [.str "a"] ∧ ran.2.prepared.columnNames = [.str "b"] ∧
      ran.2.prepared.rows = before.prepared.rows := by
  refine ⟨by rfl, fun same => ?_, by rfl, by rfl, by rfl⟩
  have names : [Value.str "b"] = [.str "a"] := same.names
  simp at names

end SqlTemplate.BufferedRows
