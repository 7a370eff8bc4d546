import Mathlib.Data.List.Basic
import Mathlib.Logic.Function.Basic
import SqlTemplate.Binding.Queue

/-! Drains that take turns at one queue while entries are still added. Whoever takes an entry, none
is lost and none is taken twice; each drain counts only what it took itself, and is over for good
once it has found the queue empty. -/
namespace SqlTemplate.DrainInterleaving

/-- What happens to a queue: entries are added, or one of its drains is asked for the next. -/
inductive Move
  | enqueue (entry : BindEntry)
  | enqueueNamed (markers : List (Value × Value))
  | next (drain : Nat)

/-- What a drain gave when it was asked: an entry with its place, or nothing because it is over. -/
structure Report where
  drain : Nat
  given : Option (Nat × BindEntry)

/-- A queue with its drains, of which there may be any number. -/
structure Shared where
  queue : Queue
  drains : Nat → Drain

/-- A queue of which no drain was asked yet. -/
def Shared.of (queue : Queue) : Shared := { queue := queue, drains := fun _ => .start }

/-- What is reported at a move, and what the move leaves. -/
def Shared.move (shared : Shared) : Move → List Report × Shared
  | .enqueue entry => ([], { shared with queue := shared.queue.enqueue entry })
  | .enqueueNamed markers => ([], { shared with queue := shared.queue.enqueueNamed markers })
  | .next drain =>
    let (given, after, left) := (shared.drains drain).next shared.queue
    ([{ drain := drain, given := given }],
      { queue := left, drains := Function.update shared.drains drain after })

/-- What is reported at some moves, one after the other, and what they leave. -/
def Shared.run (shared : Shared) : List Move → List Report × Shared
  | [] => ([], shared)
  | move :: moves =>
    let (here, after) := shared.move move
    let (later, final) := after.run moves
    (here ++ later, final)

/-- The entries that a move adds. -/
def added : Move → List BindEntry
  | .enqueue entry => [entry]
  | .enqueueNamed markers => markers.map fun (marker, value) => .inferred value marker
  | .next _ => []

/-- The entries that were given, by whichever drain. -/
def taken (reports : List Report) : List BindEntry :=
  reports.filterMap fun report => report.given.map Prod.snd

/-- The places that one drain gave its entries at. -/
def places (drain : Nat) (reports : List Report) : List Nat :=
  (reports.filter (·.drain == drain)).filterMap fun report => report.given.map Prod.fst

/-- A report that a drain is over is not followed by an entry from that drain. -/
def StaysOver (earlier later : Report) : Prop :=
  later.drain = earlier.drain → earlier.given = none → later.given = none

/-! ## One drain -/

/-- Everything that asking a drain can do: what it gives, and what it leaves of itself and of the
queue. -/
inductive Asked (drain : Drain) : Queue → Option (Nat × BindEntry) × Drain × Queue → Prop
  | ended (ended : drain.finished = true) : Asked drain queue (none, drain, queue)
  | empty (going : drain.finished = false) :
      Asked drain [] (none, { drain with finished := true }, [])
  | entry (going : drain.finished = false) :
      Asked drain (entry :: rest)
        (some (drain.taken + 1, entry), { drain with taken := drain.taken + 1 }, rest)

theorem next_asked (drain : Drain) (queue : Queue) : Asked drain queue (drain.next queue) := by
  unfold Drain.next
  split
  · rename_i ended
    exact .ended ended
  · rename_i going
    have going : drain.finished = false := Bool.eq_false_iff.mpr going
    cases queue with
    | nil => exact .empty going
    | cons entry rest => exact .entry going

theorem next_none_iff (drain : Drain) (queue : Queue) :
    (drain.next queue).1 = none ↔ queue = [] ∨ drain.finished = true := by
  have asked := next_asked drain queue
  generalize drain.next queue = outcome at asked ⊢
  cases asked with
  | ended ended => simp [ended]
  | empty => simp
  | entry going => simp [going]

/-! ## One move -/

variable {shared : Shared} {drain : Nat}

theorem move_balance (shared : Shared) (move : Move) :
    taken (shared.move move).1 ++ (shared.move move).2.queue = shared.queue ++ added move := by
  cases move with
  | enqueue entry => rfl
  | enqueueNamed markers => rfl
  | next drain =>
    obtain ⟨queue, drains⟩ := shared
    have asked := next_asked (drains drain) queue
    simp only [Shared.move, added, List.append_nil]
    -- With the answer as a variable, there is one case for each thing that asking can do.
    generalize (drains drain).next queue = outcome at asked ⊢
    cases asked with
    | ended => rfl
    | empty => rfl
    | entry => rfl

/-- The places that a drain gives go on from those that it has given. -/
theorem move_places (shared : Shared) (move : Move) (drain : Nat) :
    ∃ count, ((shared.move move).2.drains drain).taken = (shared.drains drain).taken + count ∧
      places drain (shared.move move).1 =
        List.range' ((shared.drains drain).taken + 1) count := by
  cases move with
  | enqueue entry => exact ⟨0, rfl, rfl⟩
  | enqueueNamed markers => exact ⟨0, rfl, rfl⟩
  | next other =>
    by_cases own : other = drain
    · subst own
      obtain ⟨queue, drains⟩ := shared
      have asked := next_asked (drains other) queue
      simp only [Shared.move, Function.update_self, places, beq_self_eq_true,
        List.filter_cons_of_pos, List.filter_nil]
      generalize (drains other).next queue = outcome at asked ⊢
      cases asked with
      | ended => exact ⟨0, rfl, rfl⟩
      | empty => exact ⟨0, rfl, rfl⟩
      | entry => exact ⟨1, rfl, rfl⟩
    · refine ⟨0, ?_, ?_⟩
      · simp [Shared.move, Function.update_of_ne (Ne.symm own)]
      · simp [Shared.move, places, own]

/-- A drain is over after a move exactly if it was over before or reports now that it is. -/
theorem move_finished_iff (shared : Shared) (move : Move) (drain : Nat) :
    ((shared.move move).2.drains drain).finished = true ↔
      (shared.drains drain).finished = true ∨
        ∃ report ∈ (shared.move move).1, report.drain = drain ∧ report.given = none := by
  cases move with
  | enqueue entry => simp [Shared.move]
  | enqueueNamed markers => simp [Shared.move]
  | next other =>
    by_cases own : other = drain
    · subst own
      obtain ⟨queue, drains⟩ := shared
      have asked := next_asked (drains other) queue
      simp only [Shared.move, Function.update_self, List.mem_singleton, exists_eq_left, true_and]
      generalize (drains other).next queue = outcome at asked ⊢
      cases asked with
      | ended ended => simp [ended]
      | empty => simp
      | entry going => simp
    · simp [Shared.move, Function.update_of_ne (Ne.symm own), own]

theorem move_finished_silent (ended : (shared.drains drain).finished = true) (move : Move) :
    ∀ report ∈ (shared.move move).1, report.drain = drain → report.given = none := by
  intro report member own
  cases move with
  | enqueue entry => cases member
  | enqueueNamed markers => cases member
  | next other =>
    cases List.mem_singleton.mp member
    subst own
    exact (next_none_iff _ _).mpr (.inr ended)

/-! ## Runs -/

theorem run_balance (shared : Shared) (moves : List Move) :
    taken (shared.run moves).1 ++ (shared.run moves).2.queue =
      shared.queue ++ moves.flatMap added := by
  induction moves generalizing shared with
  | nil => simp [Shared.run, taken]
  | cons move moves ih =>
    have here := move_balance shared move
    have later := ih (shared.move move).2
    calc taken (shared.run (move :: moves)).1 ++ (shared.run (move :: moves)).2.queue
        = taken (shared.move move).1 ++ (taken ((shared.move move).2.run moves).1 ++
            ((shared.move move).2.run moves).2.queue) := by
          simp only [Shared.run, taken, List.filterMap_append, List.append_assoc]
      _ = taken (shared.move move).1 ++ (shared.move move).2.queue ++ moves.flatMap added := by
          rw [later, List.append_assoc]
      _ = shared.queue ++ (move :: moves).flatMap added := by
          rw [here, List.flatMap_cons, List.append_assoc]

theorem run_places (shared : Shared) (moves : List Move) (drain : Nat) :
    ∃ count, places drain (shared.run moves).1 =
      List.range' ((shared.drains drain).taken + 1) count := by
  induction moves generalizing shared with
  | nil => exact ⟨0, rfl⟩
  | cons move moves ih =>
    obtain ⟨first, counted, here⟩ := move_places shared move drain
    obtain ⟨second, later⟩ := ih (shared.move move).2
    refine ⟨first + second, ?_⟩
    rw [counted, Nat.add_right_comm] at later
    simp only [Shared.run, places, List.filter_append, List.filterMap_append]
    rw [← List.range'_append_1, ← here, ← later]
    rfl

theorem run_finished_iff (shared : Shared) (moves : List Move) (drain : Nat) :
    ((shared.run moves).2.drains drain).finished = true ↔
      (shared.drains drain).finished = true ∨
        ∃ report ∈ (shared.run moves).1, report.drain = drain ∧ report.given = none := by
  induction moves generalizing shared with
  | nil => simp [Shared.run]
  | cons move moves ih =>
    simp only [Shared.run, ih, move_finished_iff, List.mem_append, or_and_right, exists_or,
      or_assoc]

theorem run_finished_silent (ended : (shared.drains drain).finished = true) (moves : List Move) :
    ∀ report ∈ (shared.run moves).1, report.drain = drain → report.given = none := by
  induction moves generalizing shared with
  | nil => exact nofun
  | cons move moves ih =>
    intro report member own
    rcases List.mem_append.mp member with here | later
    · exact move_finished_silent ended move report here own
    · exact ih ((move_finished_iff shared move drain).mpr (.inl ended)) report later own

/-- Once over, a drain stays over, whatever is added later. -/
theorem run_stays_over (shared : Shared) (moves : List Move) :
    (shared.run moves).1.Pairwise StaysOver := by
  induction moves generalizing shared with
  | nil => exact .nil
  | cons move moves ih =>
    refine List.pairwise_append.mpr ⟨?_, ih (shared.move move).2, ?_⟩
    · -- A move has one report at most.
      cases move with
      | enqueue entry => exact .nil
      | enqueueNamed markers => exact .nil
      | next drain => exact List.pairwise_singleton _ _
    · intro earlier here later there own none
      have ended := (move_finished_iff shared move earlier.drain).mpr
        (.inr ⟨earlier, here, rfl, none⟩)
      exact run_finished_silent ended moves later there own

/-- A drain that is asked by itself gives each entry at the next place. -/
theorem run_alone (queue : Queue) (drains : Nat → Drain)
    (going : (drains drain).finished = false) :
    (({ queue := queue, drains := drains } : Shared).run
        (List.replicate queue.length (.next drain))).1 =
      (queue.zipIdx ((drains drain).taken + 1)).map fun (entry, place) =>
        { drain := drain, given := some (place, entry) } := by
  induction queue generalizing drains with
  | nil => rfl
  | cons entry rest ih =>
    have step : (drains drain).next (entry :: rest) =
        (some ((drains drain).taken + 1, entry),
          { taken := (drains drain).taken + 1, finished := false }, rest) := by
      simp [Drain.next, going]
    have later := ih
      (Function.update drains drain { taken := (drains drain).taken + 1, finished := false })
      (by simp)
    simp only [Function.update_self] at later
    simp only [List.length_cons, List.replicate_succ, Shared.run, Shared.move, step, later,
      List.zipIdx_cons, List.map_cons, List.singleton_append]

/-- A new drain gives the whole queue, numbered. -/
theorem drain_numbered (queue : Queue) (drain : Nat) :
    ((Shared.of queue).run (List.replicate queue.length (.next drain))).1 =
      queue.numbered.map fun entry => { drain := drain, given := some entry } := by
  rw [Shared.of, run_alone queue (fun _ => .start) rfl, Queue.numbered, List.map_map]
  rfl

/-- Drains that share a queue lose nothing and double nothing. What they have given, in the order
of the moves, and what still waits are the entries at the start and the added ones, in order. Each
drain gives the places from one on without gaps. A drain that has reported that it is over gives
nothing any more; until then it gives an entry whenever there is one. -/
theorem drains_share_queue (initial : Queue) (moves : List Move) :
    taken ((Shared.of initial).run moves).1 ++ ((Shared.of initial).run moves).2.queue =
        initial ++ moves.flatMap added ∧
      (∀ drain, ∃ count, places drain ((Shared.of initial).run moves).1 = List.range' 1 count) ∧
      ((Shared.of initial).run moves).1.Pairwise StaysOver ∧
      ∀ drain,
        ((((Shared.of initial).run moves).2.drains drain).next
            ((Shared.of initial).run moves).2.queue).1 = none ↔
          ((Shared.of initial).run moves).2.queue = [] ∨
            ∃ report ∈ ((Shared.of initial).run moves).1,
              report.drain = drain ∧ report.given = none := by
  refine ⟨run_balance _ moves, run_places _ moves, run_stays_over _ moves, fun drain => ?_⟩
  have unasked : ((Shared.of initial).drains drain).finished ≠ true := Bool.false_ne_true
  rw [next_none_iff, run_finished_iff, or_iff_right unasked]

/-- Two drains share three entries, the last of which comes too late for the drain that had found
the queue empty. -/
example (a b c : BindEntry) :
    ((Shared.of [a, b]).run
      [.next 0, .next 1, .next 0, .enqueue c, .next 0, .next 1]).1 =
      [⟨0, some (1, a)⟩, ⟨1, some (1, b)⟩, ⟨0, none⟩, ⟨0, none⟩, ⟨1, some (2, c)⟩] := by rfl

end SqlTemplate.DrainInterleaving
