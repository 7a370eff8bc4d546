import SqlTemplate.Session.Basic

/-! What is said on a connection. The calls of an action and their answers are its dialogue. What
an action makes of the dialogue before it is followed along its steps, whatever is answered and
wherever it ends. -/
namespace SqlTemplate.Dialogue

/-- A call and what it was answered with. -/
structure Exchange where
  call : Call
  answer : Except Error call.Answer

/-- The call and its error, if it failed. -/
def Exchange.failure? : Exchange → Option (Call × Error)
  | ⟨call, .error error⟩ => some (call, error)
  | ⟨_, .ok _⟩ => none

/-- What a connection says to some calls after the calls before them. -/
def dialogue (connection : Connection) (before : List Call) : List Call → List Exchange
  | [] => []
  | call :: rest =>
    ⟨call, connection.answer before call⟩ :: dialogue connection (before ++ [call]) rest

/-- The failure that nothing failed after. If there is one failure only, it is that. -/
def lastFailure? (exchanges : List Exchange) : Option (Call × Error) :=
  exchanges.reverse.findSome? Exchange.failure?

theorem dialogue_append (connection : Connection) (before calls later : List Call) :
    dialogue connection before (calls ++ later) =
      dialogue connection before calls ++ dialogue connection (before ++ calls) later := by
  induction calls generalizing before with
  | nil => rw [List.append_nil]; rfl
  | cons call rest ih =>
    simp only [List.cons_append, dialogue, ih, List.append_assoc, List.nil_append]

theorem last_failure_snoc (exchanges : List Exchange) (exchange : Exchange) :
    lastFailure? (exchanges ++ [exchange]) = exchange.failure?.or (lastFailure? exchanges) := by
  simp only [lastFailure?, List.reverse_append, List.reverse_singleton, List.singleton_append,
    List.findSome?_cons]
  cases exchange.failure? <;> rfl

/-! ## What actions lead to -/

/-- A state whose journal is what its updates make of it. -/
class KeepsFaithfully (σ : Type) [Keeps σ] : Prop where
  journal_update : ∀ (change : Journal → Journal) (state : σ),
    Keeps.journal (Keeps.update change state) = change (Keeps.journal state)

instance : KeepsFaithfully Prepared.Running := ⟨fun _ _ => rfl⟩

instance : KeepsFaithfully Session := ⟨fun _ _ => rfl⟩

/-- The conditions on a dialogue for an action that is done and for one that failed. -/
def Ends (Done : α → List Exchange → Prop) (Failed : Error → List Exchange → Prop) :
    Except Error α → List Exchange → Prop
  | .ok a, exchanges => Done a exchanges
  | .error error, exchanges => Failed error exchanges

theorem ends_alike (P : List Exchange → Prop) (outcome : Except Error α) :
    Ends (fun _ => P) (fun _ => P) outcome = P := by
  cases outcome <;> rfl

/-- From wherever a state and its dialogue are as wanted, an action goes on with them and brings
them to one of its ends. -/
def Carries [Keeps σ] (connection : Connection) (Start : σ → List Exchange → Prop)
    (action : Action σ α) (Done : α → σ → List Exchange → Prop)
    (Failed : Error → σ → List Exchange → Prop) : Prop :=
  ∀ state before calls, (Keeps.journal state).calls = before ++ calls →
    Start state (dialogue connection before calls) →
    ∃ more, (Keeps.journal (action state).2).calls = before ++ (calls ++ more) ∧
      Ends (fun a => Done a (action state).2) (fun error => Failed error (action state).2)
        (action state).1 (dialogue connection before (calls ++ more))

/-- From wherever a dialogue started that is as wanted, an action goes on with it and brings it to
one of its ends. -/
def Leads [Keeps σ] (connection : Connection) (Start : List Exchange → Prop)
    (action : Action σ α) (Done : α → List Exchange → Prop)
    (Failed : Error → List Exchange → Prop) : Prop :=
  ∀ state before calls, (Keeps.journal state).calls = before ++ calls →
    Start (dialogue connection before calls) →
    ∃ more, (Keeps.journal (action state).2).calls = before ++ (calls ++ more) ∧
      Ends Done Failed (action state).1 (dialogue connection before (calls ++ more))

section Carrying

variable [Keeps σ] {connection : Connection} {Start : σ → List Exchange → Prop}
variable {Done : α → σ → List Exchange → Prop} {Failed : Error → σ → List Exchange → Prop}

/-- An action that calls nobody. -/
theorem quiet_carries {action : Action σ α}
    (quiet : ∀ state, (Keeps.journal (action state).2).calls = (Keeps.journal state).calls)
    (ends : ∀ state exchanges, Start state exchanges →
      Ends (fun a => Done a (action state).2) (fun error => Failed error (action state).2)
        (action state).1 exchanges) :
    Carries connection Start action Done Failed := by
  intro state before calls made start
  refine ⟨[], ?_, ?_⟩
  · rw [quiet, made, List.append_nil]
  · rw [List.append_nil]
    exact ends state _ start

/-- A call changes a state by its journal alone. -/
theorem ask_carries [KeepsFaithfully σ] {call : Call}
    {Done : call.Answer → σ → List Exchange → Prop}
    (absent : connection.canAnswer call = false →
      ∀ state exchanges, Start state exchanges → Failed (.ofKind .missingMethod) state exchanges)
    (answered : ∀ state exchanges answer, Start state exchanges →
      let noted :=
        Keeps.update (fun journal => { journal with calls := journal.calls ++ [call] }) state
      Ends (fun a => Done a noted) (fun error => Failed error noted) answer
        (exchanges ++ [⟨call, answer⟩])) :
    Carries connection Start (connection.ask call : Action σ call.Answer) Done Failed := by
  intro state before calls made start
  unfold Connection.ask
  split
  · refine ⟨[call], ?_, ?_⟩
    · simp only [KeepsFaithfully.journal_update, made, List.append_assoc]
    · simp only [made, dialogue_append]
      exact answered _ _ _ start
  · rename_i missing
    refine ⟨[], ?_, ?_⟩
    · rw [made, List.append_nil]
    · rw [List.append_nil]
      exact absent (Bool.eq_false_iff.mpr missing) _ _ start

theorem bind_carries {first : Action σ α} {next : α → Action σ β}
    {Between : α → σ → List Exchange → Prop} {Done : β → σ → List Exchange → Prop}
    (begins : Carries connection Start first Between Failed)
    (goes_on : ∀ a, Carries connection (Between a) (next a) Done Failed) :
    Carries connection Start (first >>= next) Done Failed := by
  intro state before calls made start
  obtain ⟨more, reached, ends⟩ := begins state before calls made start
  simp only [bind, Action.andThen]
  cases ran : first state with
  | mk outcome after =>
    rw [ran] at reached ends
    cases outcome with
    | error error => exact ⟨more, reached, ends⟩
    | ok a =>
      obtain ⟨rest, finished, last⟩ := goes_on a after before (calls ++ more) reached ends
      refine ⟨more ++ rest, ?_, ?_⟩
      · rw [finished, List.append_assoc]
      · rwa [List.append_assoc] at last

/-- The last step starts from both ends of the body, and a failure of its own is all that remains
of the outcome. -/
theorem ensuring_carries {body : Action σ α} {last : Action σ Unit}
    {Left : α → σ → List Exchange → Prop} {Broke : Error → σ → List Exchange → Prop}
    (begins : Carries connection Start body Left Broke)
    (finishes : ∀ outcome, Carries connection
      (fun state => Ends (fun a => Left a state) (fun error => Broke error state) outcome) last
      (fun _ state => Ends (fun a => Done a state) (fun error => Failed error state) outcome)
      Failed) :
    Carries connection Start (body.ensuring last) Done Failed := by
  intro state before calls made start
  obtain ⟨more, reached, ends⟩ := begins state before calls made start
  simp only [Action.ensuring]
  cases ran : body state with
  | mk outcome after =>
    rw [ran] at reached ends
    obtain ⟨rest, finished, closed⟩ := finishes outcome after before (calls ++ more) reached ends
    rw [List.append_assoc] at finished closed
    refine ⟨more ++ rest, ?_⟩
    cases ended : last after with
    | mk closing final =>
      rw [ended] at finished closed
      cases closing with
      | ok _ => exact ⟨finished, closed⟩
      | error error => exact ⟨finished, closed⟩

theorem Carries.done_weaker {action : Action σ α} {Weaker : α → σ → List Exchange → Prop}
    (carries : Carries connection Start action Done Failed)
    (weaker : ∀ a state exchanges, Done a state exchanges → Weaker a state exchanges) :
    Carries connection Start action Weaker Failed := by
  intro state before calls made start
  obtain ⟨more, reached, ends⟩ := carries state before calls made start
  refine ⟨more, reached, ?_⟩
  cases outcome : (action state).1 with
  | ok a =>
    rw [outcome] at ends
    exact weaker a _ _ ends
  | error error =>
    rw [outcome] at ends
    exact ends

theorem carries_of_exists {Start : ι → σ → List Exchange → Prop} {action : Action σ α}
    (carries : ∀ i, Carries connection (Start i) action Done Failed) :
    Carries connection (fun state exchanges => ∃ i, Start i state exchanges) action Done Failed :=
  fun state before calls made ⟨i, start⟩ => carries i state before calls made start

end Carrying

section Rules

variable [Keeps σ] {connection : Connection} {Start : List Exchange → Prop}
variable {Done : α → List Exchange → Prop} {Failed : Error → List Exchange → Prop}

/-- Where the state does not matter. -/
theorem leads_iff_carries {action : Action σ α} :
    Leads connection Start action Done Failed ↔
      Carries connection (fun _ => Start) action (fun a _ => Done a) (fun error _ => Failed error) :=
  Iff.rfl

theorem quiet_leads {action : Action σ α}
    (quiet : ∀ state, (Keeps.journal (action state).2).calls = (Keeps.journal state).calls)
    (ends : ∀ state exchanges, Start exchanges → Ends Done Failed (action state).1 exchanges) :
    Leads connection Start action Done Failed :=
  leads_iff_carries.mpr (quiet_carries quiet ends)

theorem ask_leads [KeepsFaithfully σ] {call : Call} {Done : call.Answer → List Exchange → Prop}
    (absent : connection.canAnswer call = false →
      ∀ exchanges, Start exchanges → Failed (.ofKind .missingMethod) exchanges)
    (answered : ∀ exchanges answer, Start exchanges →
      Ends Done Failed answer (exchanges ++ [⟨call, answer⟩])) :
    Leads connection Start (connection.ask call : Action σ call.Answer) Done Failed :=
  leads_iff_carries.mpr
    (ask_carries (fun missing _ => absent missing) fun _ exchanges answer =>
      answered exchanges answer)

theorem bind_leads {first : Action σ α} {next : α → Action σ β}
    {Between : α → List Exchange → Prop} {Done : β → List Exchange → Prop}
    (begins : Leads connection Start first Between Failed)
    (goes_on : ∀ a, Leads connection (Between a) (next a) Done Failed) :
    Leads connection Start (first >>= next) Done Failed :=
  leads_iff_carries.mpr (bind_carries (leads_iff_carries.mp begins) fun a =>
    leads_iff_carries.mp (goes_on a))

theorem ensuring_leads {body : Action σ α} {last : Action σ Unit}
    {Left : α → List Exchange → Prop} {Broke : Error → List Exchange → Prop}
    (begins : Leads connection Start body Left Broke)
    (finishes : ∀ outcome, Leads connection (Ends Left Broke outcome) last
      (fun _ => Ends Done Failed outcome) Failed) :
    Leads connection Start (body.ensuring last) Done Failed :=
  leads_iff_carries.mpr (ensuring_carries (leads_iff_carries.mp begins) fun outcome =>
    leads_iff_carries.mp (finishes outcome))

theorem Leads.done_weaker {action : Action σ α} {Weaker : α → List Exchange → Prop}
    (leads : Leads connection Start action Done Failed)
    (weaker : ∀ a exchanges, Done a exchanges → Weaker a exchanges) :
    Leads connection Start action Weaker Failed :=
  leads_iff_carries.mpr ((leads_iff_carries.mp leads).done_weaker fun a _ => weaker a)

theorem map_error_leads {action : Action σ α} {f : Error → Error}
    (leads : Leads connection Start action Done fun error => Failed (f error)) :
    Leads connection Start (action.mapError f) Done Failed := by
  intro state before calls made start
  obtain ⟨more, reached, ends⟩ := leads state before calls made start
  refine ⟨more, ?_⟩
  simp only [Action.mapError]
  cases ran : action state with
  | mk outcome after =>
    rw [ran] at reached ends
    cases outcome with
    | ok a => exact ⟨reached, ends⟩
    | error error => exact ⟨reached, ends⟩

end Rules

end SqlTemplate.Dialogue
