import SqlTemplate.Proofs.Bindings
import SqlTemplate.Proofs.CompilerHistory
import SqlTemplate.Proofs.PlaceKeys
import SqlTemplate.Session.Adapter

/-! Binding of a queue to a new statement. Entries without markers take the places from one on, and
the parameters are read back place by place; entries with markers take their markers. Both orders
are the order of the queue. -/
namespace SqlTemplate.QueueBinding
open Template Compilation CompilerHistory KeyEquality GatheredItems PlaceKeys Bindings Outcomes

/-- The values that the entries of a queue are bound as, in the order of the queue. -/
def CoercedTo (coercions : Option Coercions) (queue : Queue) (values : List Value) : Prop :=
  List.Forall₂ (fun entry value => coerce entry.value entry.type coercions = .ok value) queue values

/-- When no entry is refused, the queue is coerced. -/
theorem coerced_of_each {coercions : Option Coercions} {queue : Queue}
    (each : ∀ entry ∈ queue, ∃ value, coerce entry.value entry.type coercions = .ok value) :
    ∃ values, CoercedTo coercions queue values := by
  induction queue with
  | nil => exact ⟨[], .nil⟩
  | cons entry queue ih =>
    obtain ⟨value, coerced⟩ := each entry List.mem_cons_self
    obtain ⟨values, rest⟩ := ih fun entry member => each entry (List.mem_cons_of_mem _ member)
    exact ⟨value :: values, .cons coerced rest⟩

/-! ## Keys and values -/

section Assigning
variable {bound pairs : List (String × Value)} {key : String}

/-- A new key goes to the end. -/
theorem assign_new (fresh : key ∉ bound.map Prod.fst) (value : Value) :
    Prepared.assign bound key value = bound ++ [(key, value)] := by
  induction bound with
  | nil => rfl
  | cons entry bound ih =>
    obtain ⟨k, v⟩ := entry
    simp only [List.map_cons, List.mem_cons, not_or] at fresh
    have other : (k == key) = false := beq_eq_false_iff_ne.mpr (Ne.symm fresh.1)
    simp only [Prepared.assign, other, Bool.false_eq_true, ↓reduceIte, ih fresh.2,
      List.cons_append]

/-- A key that is there keeps its place among the keys. -/
theorem assign_old (there : key ∈ bound.map Prod.fst) (value : Value) :
    (Prepared.assign bound key value).map Prod.fst = bound.map Prod.fst := by
  induction bound with
  | nil => cases there
  | cons entry bound ih =>
    obtain ⟨k, v⟩ := entry
    simp only [Prepared.assign]
    split
    · rfl
    · rename_i other
      have later : key ∈ bound.map Prod.fst := by
        simpa [Ne.symm (bne_iff_ne.mp (by simpa using other) : k ≠ key)] using there
      simp only [List.map_cons, ih later]

theorem assign_keys_nodup (distinct : (bound.map Prod.fst).Nodup) (key : String) (value : Value) :
    ((Prepared.assign bound key value).map Prod.fst).Nodup := by
  by_cases there : key ∈ bound.map Prod.fst
  · rw [assign_old there]
    exact distinct
  · rw [assign_new there, List.map_append, List.nodup_append]
    refine ⟨distinct, by simp, ?_⟩
    rintro k old k' new rfl
    cases List.mem_singleton.mp new
    exact there old

/-- What is bound after some keys were assigned their values, one after the other. -/
def assigned (bound pairs : List (String × Value)) : List (String × Value) :=
  pairs.foldl (fun bound pair => Prepared.assign bound pair.1 pair.2) bound

/-- Distinct keys are bound in the order in which they were assigned. -/
theorem assigned_distinct (bound : List (String × Value))
    (distinct : ((bound ++ pairs).map Prod.fst).Nodup) : assigned bound pairs = bound ++ pairs := by
  induction pairs generalizing bound with
  | nil => simp [assigned]
  | cons pair pairs ih =>
    have fresh : pair.1 ∉ bound.map Prod.fst := by
      intro old
      simp only [List.map_append, List.map_cons, List.nodup_append] at distinct
      exact distinct.2.2 _ old _ List.mem_cons_self rfl
    have step := ih (bound ++ [pair]) (by simpa using distinct)
    simp only [assigned, List.foldl_cons, assign_new fresh] at step ⊢
    simpa using step

theorem assigned_keys_nodup (bound pairs : List (String × Value))
    (distinct : (bound.map Prod.fst).Nodup) : ((assigned bound pairs).map Prod.fst).Nodup := by
  induction pairs generalizing bound with
  | nil => exact distinct
  | cons pair pairs ih => exact ih _ (assign_keys_nodup distinct pair.1 pair.2)

/-- Something stays bound once something was assigned. -/
theorem assigned_given (given : bound ++ pairs ≠ []) : assigned bound pairs ≠ [] := by
  induction pairs generalizing bound with
  | nil => simpa [assigned] using given
  | cons pair pairs ih =>
    refine ih ?_
    cases bound with
    | nil => exact List.cons_ne_nil _ _
    | cons entry bound =>
      simp only [Prepared.assign]
      split <;> exact List.cons_ne_nil _ _

end Assigning

/-! ## Entries without markers -/

/-- The places from one to a number, as keys. -/
def placesTo (n : Nat) : List Value := (List.range' 1 n).map fun (place : Nat) => .int place

/-- Values at the places from one on. -/
def placed (values : List Value) : List (Value × Value) := (placesTo values.length).zip values

theorem placed_concat (values : List Value) (value : Value) :
    placed (values ++ [value]) = placed values ++ [(.int (values.length + 1 : Nat), value)] := by
  have length : (placesTo values.length).length = values.length := by simp [placesTo]
  rw [placed, List.length_append, List.length_singleton, placesTo, List.range'_concat,
    List.map_append, ← placesTo, List.zip_append length]
  simp [placed, Nat.add_comm]

theorem keys_of_placed (values : List Value) :
    (placed values).map Prod.fst = placesTo values.length := by
  simp [placed, placesTo, List.map_fst_zip]

theorem int_key_iff (place other : Nat) :
    (Value.int place).equals (.int other) = true ↔ place = other := by
  refine ⟨fun same => stands_unique (int_stands place) same, ?_⟩
  rintro rfl
  exact int_stands place

theorem places_apart (n : Nat) : Apart (placesTo n) := by
  rw [Apart, placesTo, List.pairwise_map]
  refine List.Pairwise.imp (fun differ => ?_) List.nodup_range'
  rw [Bool.eq_false_iff, Ne, int_key_iff]
  exact differ

theorem mem_places_to (n : Nat) (key : Value) :
    key ∈ placesTo n ↔ ∃ place : Nat, 1 ≤ place ∧ place ≤ n ∧ key = .int place := by
  simp only [placesTo, List.mem_map, List.mem_range'_1]
  constructor
  · rintro ⟨place, bounds, rfl⟩
    exact ⟨place, bounds.1, by omega, rfl⟩
  · rintro ⟨place, low, high, rfl⟩
    exact ⟨place, ⟨low, by omega⟩, rfl⟩

variable {prepared : Prepared}

/-- Binding at a place from one on puts the value there, as long as nothing is bound by marker. -/
theorem bind_place {n : Nat} (unnamed : prepared.named = []) (positive : 1 ≤ n)
    (coerced : coerce value type prepared.coercions = .ok bound) :
    prepared.bind (.int n) value type =
      .ok { prepared with positional := Value.put prepared.positional (.int n) bound } := by
  have notBelow : (Value.int n).isBelow 1 = .ok false := by
    have order : compare (n : Int) 1 ≠ .lt := by
      rw [Ne, Int.compare_eq_lt]
      omega
    rw [Value.isBelow, WholeNumbers.order_int]
    simp [Except.map, order]
  simp only [Prepared.bind, step_place coerced unnamed notBelow, Except.map]

/-- A queue without markers is bound from the first free place on, and nothing is left of it. -/
theorem bind_places (prepared : Prepared) (before : List Value) (unnamed : prepared.named = [])
    (sofar : prepared.positional = placed before)
    (bare : ∀ entry ∈ queue, entry.marker = .null)
    (coerced : CoercedTo prepared.coercions queue values) :
    prepared.bindQueue (before.length + 1) queue =
      (.ok { prepared with positional := placed (before ++ values) }, []) := by
  induction queue generalizing prepared before values with
  | nil =>
    cases coerced
    simp [Prepared.bindQueue, ← sofar]
  | cons entry queue ih =>
    cases coerced with
    | cons own rest =>
      rename_i value values
      have key : Prepared.keyOf (before.length + 1) entry = .int (before.length + 1 : Nat) := by
        simp only [Prepared.keyOf, bare entry List.mem_cons_self]
      have fresh : ∀ item ∈ prepared.positional,
          item.1.equals (.int (before.length + 1 : Nat)) = false := by
        intro item member
        have among := List.mem_map_of_mem (f := Prod.fst) member
        rw [sofar, keys_of_placed, mem_places_to] at among
        obtain ⟨place, -, last, same⟩ := among
        rw [same, Bool.eq_false_iff, Ne, int_key_iff]
        omega
      simp only [Prepared.bindQueue, key, bind_place unnamed (Nat.succ_pos _) own]
      -- The place just taken is the last of those taken before the rest of the queue.
      have step := ih
        { prepared with
          positional := Value.put prepared.positional (.int (before.length + 1 : Nat)) value }
        (before ++ [value]) unnamed (by rw [put_fresh fresh, sofar, placed_concat])
        (fun entry member => bare entry (List.mem_cons_of_mem _ member)) rest
      simpa using step

/-- Values at all places from one on are read back in their order. -/
theorem placed_parameters (filled : prepared.positional = placed values) :
    prepared.positionalParameters = .ok values := by
  have keys : keysOf prepared = placesTo values.length := by
    rw [keysOf, filled, keys_of_placed]
  have consistent : ∀ key ∈ keysOf prepared, Consistent key := by
    intro key member
    rw [keys, mem_places_to] at member
    obtain ⟨place, -, -, rfl⟩ := member
    exact single_consistent trivial
  have gapless : Gapless (keysOf prepared) values.length := by
    rw [keys]
    refine ⟨fun key member => ?_, fun place low high => ?_⟩
    · obtain ⟨place, low, high, rfl⟩ := (mem_places_to _ _).mp member
      exact ⟨place, low, high, int_stands place⟩
    · exact ⟨_, (mem_places_to _ _).mpr ⟨place, low, high, rfl⟩, int_stands place⟩
  have apart : Apart (keysOf prepared) := keys ▸ places_apart _
  obtain ⟨read, given, count, each⟩ := parameters_gapless apart consistent gapless
  have same : read = values := by
    refine List.ext_getElem? fun index => ?_
    by_cases inside : index < values.length
    · have here : prepared.positional[index]? =
          some (.int (index + 1 : Nat), values[index]) := by
        rw [filled, placed, List.getElem?_zip_eq_some]
        exact ⟨by simp [placesTo, inside, Nat.add_comm], List.getElem?_eq_getElem inside⟩
      rw [each index inside, lookup_apart apart here (int_stands _),
        List.getElem?_eq_getElem inside]
    · rw [List.getElem?_eq_none (by omega), List.getElem?_eq_none (by omega)]
  rw [given, same]

/-- What a new statement renders to once a queue without markers was bound: the parameters are the
values in the order of the queue, or none at all. -/
theorem render_placed (unnamed : prepared.named = [])
    (filled : prepared.positional = placed values) :
    prepared.render = .ok
      (if values.isEmpty then prepared.sql else prepared.renderPositional,
        if values.isEmpty then none else some (.tuple values)) := by
  simp only [Prepared.render, Prepared.hasBindings, Prepared.isNamed, unnamed,
    placed_parameters filled]
  cases values with
  | nil => simp [filled, placed]
  | cons value values => simp [filled, placed, placesTo, Except.map]

/-! ## Entries with markers -/

/-- Entries with the markers of some names, in order. -/
def Marked (queue : Queue) (names : List String) : Prop :=
  List.Forall₂ (fun entry name => entry.marker = .str name) queue names

theorem bind_marker (unplaced : prepared.positional = [])
    (coerced : coerce value type prepared.coercions = .ok bound) (name : String) :
    prepared.bind (.str name) value type =
      .ok { prepared with named := Prepared.assign prepared.named name bound } := by
  simp only [Prepared.bind, step_marker coerced unplaced, Except.map]

/-- A queue with markers is bound marker by marker, wherever it starts, and nothing is left of
it. -/
theorem bind_markers (prepared : Prepared) (start : Nat) (unplaced : prepared.positional = [])
    (marked : Marked queue names) (coerced : CoercedTo prepared.coercions queue values) :
    prepared.bindQueue start queue =
      (.ok { prepared with named := assigned prepared.named (names.zip values) }, []) := by
  induction marked generalizing prepared values start with
  | nil =>
    cases coerced
    rfl
  | cons marker _ ih =>
    cases coerced with
    | cons own rest =>
      simp only [Prepared.bindQueue, Prepared.keyOf, marker, bind_marker unplaced own]
      exact ih { prepared with named := Prepared.assign prepared.named _ _ } (start + 1) unplaced
        rest

/-- Building a mapping from names and values assigns them one after the other. -/
theorem entries_assigned (pairs : List (String × Value)) :
    Value.entriesOf (pairs.map fun (name, value) => (.str name, value)) =
      (assigned [] pairs).map fun (name, value) => (.str name, value) := by
  have kept (bound : List (String × Value)) :
      (pairs.map fun (name, value) => (Value.str name, value)).foldl
          (fun entries pair => Value.put entries pair.1 pair.2)
          (bound.map fun (name, value) => (.str name, value)) =
        (assigned bound pairs).map fun (name, value) => (.str name, value) := by
    induction pairs generalizing bound with
    | nil => rfl
    | cons pair pairs ih =>
      simp only [List.map_cons, List.foldl_cons, put_marker]
      exact ih _
  exact kept []

theorem pairs_of_names (names : List String) (values : List Value) :
    (names.zip values).map (fun (name, value) => (Value.str name, value)) =
      (names.map .str).zip values := by
  rw [List.zip_map_left]
  rfl

/-- The parameters of a queue with markers are the mapping of its names to their values; where a
name comes twice, its last value counts. -/
theorem named_assigned {names : List String} {values : List Value}
    (filled : prepared.named = assigned [] (names.zip values)) :
    prepared.namedParameters = .ofPairs ((names.map .str).zip values) := by
  have distinct := assigned_keys_nodup [] (names.zip values) List.nodup_nil
  have again : assigned [] (assigned [] (names.zip values)) = assigned [] (names.zip values) :=
    assigned_distinct [] distinct
  rw [Prepared.namedParameters, Prepared.mappingOf, Value.ofPairs, Value.ofPairs, filled,
    ← pairs_of_names, entries_assigned, entries_assigned, again]

/-- Distinct names are mapped to their own values. -/
theorem pairs_of_distinct {names : List String} {values : List Value} (distinct : names.Nodup)
    (count : names.length = values.length) :
    Value.ofPairs ((names.map .str).zip values) = .mapping ((names.map .str).zip values) := by
  have keys : (([] ++ names.zip values).map Prod.fst).Nodup := by
    rw [List.nil_append, List.map_fst_zip (Nat.le_of_eq count)]
    exact distinct
  rw [Value.ofPairs, ← pairs_of_names, entries_assigned, assigned_distinct [] keys]
  rfl

/-! ## Drains -/

/-- Binding a queue drains it: the entries come at the places that the drain gives them, and what
the drain leaves is what is left when an entry is refused. -/
theorem bind_queue_drains (prepared : Prepared) (drain : Drain) (going : drain.finished = false)
    (queue : Queue) :
    prepared.bindQueue (drain.taken + 1) queue =
      match drain.next queue with
      | (none, _, left) => (.ok prepared, left)
      | (some (place, entry), drain, left) =>
        match prepared.bind (Prepared.keyOf place entry) entry.value entry.type with
        | .error error => (.error error, left)
        | .ok prepared => prepared.bindQueue (drain.taken + 1) left := by
  have unfinished : ¬drain.finished = true := by simp [going]
  cases queue with
  | nil =>
    unfold Drain.next
    rw [if_neg unfinished]
    rfl
  | cons entry queue =>
    unfold Drain.next
    rw [if_neg unfinished]
    rfl

/-! ## Compiled queues -/

/-- No entry has a marker. -/
def Unmarked (queue : Queue) : Prop := ∀ entry ∈ queue, entry.marker = .null

/-- The keys of every mapping are texts. -/
def TextKeys (arguments : List Value) : Prop :=
  ∀ entries, Value.mapping entries ∈ arguments → ∀ entry ∈ entries, ∃ name, entry.1 = .str name

private theorem array_unmarked (filled : fillArray value type = .ok piece) :
    Unmarked piece.entries := by
  obtain ⟨-, rfl⟩ := guarded_ok_iff.mp filled
  unfold arrayPiece
  split
  · simp [Unmarked, Piece.bound, BindEntry.unnamed]
  · simp [Unmarked, BindEntry.unnamed]

private theorem columns_unmarked (filled : fillColumns value separator = .ok piece) :
    Unmarked piece.entries := by
  unfold fillColumns at filled
  split at filled
  · obtain ⟨-, rfl⟩ := guarded_ok_iff.mp filled
    intro entry member
    obtain ⟨column, -, rfl⟩ := List.mem_map.mp member
    rfl
  · split at filled
    · cases filled
    · cases filled
      simp [Unmarked, Piece.bound, BindEntry.unnamed]

theorem fill_token_unmarked (filled : fillToken token value = .ok piece) :
    Unmarked piece.entries := by
  unfold fillToken at filled
  cases known : token.kind with
  | none =>
    rw [known] at filled
    cases filled
  | some kind =>
    rw [known] at filled
    cases kind with
    | intArray => exact array_unmarked filled
    | stringArray => exact array_unmarked filled
    | columnsByComma => exact columns_unmarked filled
    | columnsByAnd => exact columns_unmarked filled
    | raw =>
      obtain ⟨-, rfl⟩ := guarded_ok_iff.mp filled
      simp [Unmarked, Piece.text]
    | strippedString =>
      obtain ⟨-, rfl⟩ := guarded_ok_iff.mp filled
      simp [Unmarked, Piece.bound, BindEntry.unnamed]
    | _ =>
      cases filled
      simp [Unmarked, Piece.bound, BindEntry.unnamed, BindEntry.inferred]

/-- Tokens make no markers. -/
theorem fill_unmarked (filled : Filled pieces arguments piece) : Unmarked piece.entries := by
  induction filled with
  | done => exact fun _ member => absurd member List.not_mem_nil
  | literal _ ih => exact ih
  | token own _ ih =>
    intro entry member
    rcases List.mem_append.mp member with here | later
    · exact fill_token_unmarked own entry here
    · exact ih entry later

/-- The entries of a mapping of markers are marked with its keys. -/
theorem named_queue_marked {entries : List (Value × Value)}
    (keyed : ∀ entry ∈ entries, ∃ name, entry.1 = .str name) :
    ∃ names : List String, entries.map Prod.fst = names.map .str ∧
      Marked (Queue.enqueueNamed [] entries) names := by
  induction entries with
  | nil => exact ⟨[], rfl, .nil⟩
  | cons entry entries ih =>
    obtain ⟨name, here⟩ := keyed entry List.mem_cons_self
    obtain ⟨names, same, marked⟩ :=
      ih fun entry member => keyed entry (List.mem_cons_of_mem _ member)
    exact ⟨name :: names, by simp [here, same], .cons here marked⟩

/-- What a queue without markers makes of a new statement. -/
theorem bind_new_places (typeName sql : String) (style : MarkerStyle)
    (unmarked : Unmarked queue) (coerced : CoercedTo coercions queue values) :
    ∃ bound, (Prepared.new typeName style sql coercions).bindQueue 1 queue = (.ok bound, []) ∧
      bound.render = .ok
        (if values.isEmpty then sql else bound.renderPositional,
          if values.isEmpty then none else some (.tuple values)) ∧
      bound.style = style ∧ bound.sql = sql := by
  refine ⟨_, bind_places (.new typeName style sql coercions) [] rfl rfl unmarked coerced, ?_, rfl,
    rfl⟩
  exact render_placed rfl rfl

/-- What a queue with markers, of which it has one at least, makes of a new statement. -/
theorem bind_new_markers (typeName sql : String) (style : MarkerStyle) (given : names ≠ [])
    (marked : Marked queue names) (coerced : CoercedTo coercions queue values) :
    ∃ bound, (Prepared.new typeName style sql coercions).bindQueue 1 queue = (.ok bound, []) ∧
      (∃ rendered parameters, bound.render = .ok (rendered, some parameters)) ∧
      bound.namedParameters = .ofPairs ((names.map Value.str).zip values) := by
  refine ⟨_, bind_markers (.new typeName style sql coercions) 1 rfl marked coerced, ?_,
    named_assigned rfl⟩
  have isNamed : (assigned [] (names.zip values)).isEmpty = false := by
    apply List.isEmpty_eq_false_iff.mpr
    apply assigned_given
    cases marked with
    | nil => exact absurd rfl given
    | cons _ _ =>
      cases coerced with
      | cons _ _ => exact List.cons_ne_nil _ _
  exact ⟨_, _, by simp only [Prepared.render, Prepared.isNamed, Prepared.new, isNamed]; rfl⟩

/-- Binding a compiled queue to a new statement cannot fail where no value is refused. Nothing is
left of the queue; the parameters are the coerced values in the order of the queue, and those of
named markers map each key to its own value. -/
theorem compiled_queue_binds (parser : Operation.Parser) (config : StatementConfig)
    (history : List Step) (template : String)
    (arguments : List Value) (statement : Compiled)
    (compiled : ((compilerAfter parser config history).compile template arguments).1 =
      .ok statement)
    (keyed : statement.mode = .named → TextKeys arguments)
    (adapter : Adapter) (coercions : Option Coercions)
    (coercible : ∀ entry ∈ statement.queue,
      ∃ value, coerce entry.value entry.type coercions = .ok value) :
    ∃ values bound sql parameters, CoercedTo coercions statement.queue values ∧
      (Prepared.new adapter.statementName adapter.markerStyle statement.sql coercions).bindQueue 1
        statement.queue = (.ok bound, []) ∧
      bound.render = .ok (sql, parameters) ∧
      (statement.mode ≠ .named →
        parameters = if statement.queue.isEmpty then none else some (.tuple values)) ∧
      (statement.mode = .named → ∃ entries, arguments = [.mapping entries] ∧
        bound.namedParameters = .ofPairs ((entries.map Prod.fst).zip values) ∧
        ((entries.map Prod.fst).Nodup →
          bound.namedParameters = .mapping ((entries.map Prod.fst).zip values))) := by
  obtain ⟨values, coerced⟩ := coerced_of_each coercible
  rw [compile_after_history] at compiled
  cases compiles_of_ok compiled with
  | static =>
    cases coerced
    exact ⟨[], _, _, none, .nil, rfl, rfl, fun _ => rfl, nofun⟩
  | named marked bare =>
    rename_i entries
    obtain ⟨names, keys, named⟩ := named_queue_marked (keyed rfl entries List.mem_cons_self)
    have given : names ≠ [] := by
      rintro rfl
      cases List.map_eq_nil_iff.mp keys
      cases marked
    obtain ⟨bound, binds, ⟨sql, parameters, renders⟩, mapped⟩ :=
      bind_new_markers adapter.statementName template adapter.markerStyle given named coerced
    refine ⟨values, bound, sql, some parameters, coerced, binds, renders, nofun, fun _ => ?_⟩
    rw [← keys] at mapped
    refine ⟨entries, rfl, mapped, fun distinct => ?_⟩
    rw [keys] at distinct mapped ⊢
    rw [mapped]
    exact pairs_of_distinct
      ((List.pairwise_map.mp distinct).imp fun differ same => differ (congrArg Value.str same))
      (named.length_eq.symm.trans coerced.length_eq)
  | filled given counted made =>
    obtain ⟨bound, binds, renders, -, -⟩ := bind_new_places adapter.statementName _
      adapter.markerStyle (fill_unmarked made) coerced
    refine ⟨values, bound, _, _, coerced, binds, renders, fun _ => ?_, nofun⟩
    have count := coerced.length_eq
    simp only [List.isEmpty_iff, ← List.length_eq_zero_iff, count]

/-- Two markers are bound to a statement for MySQL, the null value among them. -/
theorem compiled_queue_binds_markers :
    ∃ bound sql parameters,
      (Prepared.new "PyMysqlStatement" .percent "SELECT :a, ':b', :b" none).bindQueue 1
          [.inferred (.bool true) (.str ":a"), .inferred .null (.str ":b")] = (.ok bound, []) ∧
        bound.render = .ok (sql, parameters) ∧
        bound.namedParameters = .mapping [(.str ":a", .bool true), (.str ":b", .null)] := by
  have compiled : ((compilerAfter Operation.byLeadingKeyword .standard [.clear]).compile
      "SELECT :a, ':b', :b" [.mapping [(.str ":a", .bool true), (.str ":b", .null)]]).1 = .ok
        { sql := "SELECT :a, ':b', :b"
          queue := [.inferred (.bool true) (.str ":a"), .inferred .null (.str ":b")]
          mode := .named, operation := .select, template := "SELECT :a, ':b', :b" } := by rfl
  have keyed : TextKeys [.mapping [(.str ":a", .bool true), (.str ":b", .null)]] := by
    intro entries given entry member
    cases List.mem_singleton.mp given
    simp only [List.mem_cons, List.not_mem_nil, or_false] at member
    rcases member with rfl | rfl
    · exact ⟨":a", rfl⟩
    · exact ⟨":b", rfl⟩
  obtain ⟨values, bound, sql, parameters, coerced, binds, renders, -, mapped⟩ :=
    compiled_queue_binds Operation.byLeadingKeyword .standard [.clear] "SELECT :a, ':b', :b" _ _
      compiled (fun _ => keyed) .mysql none
      (by simp [coerce, BindEntry.inferred, BindType.infer, Coercions.inForce, Coercions.standard,
        Converter.apply, Converter.convertTo, Except.mapError])
  obtain ⟨entries, given, -, distinct⟩ := mapped rfl
  cases given
  cases coerced with
  | cons first rest =>
    cases rest with
    | cons second none =>
      cases first
      cases second
      cases none
      exact ⟨bound, sql, parameters, binds, renders, distinct (by simp)⟩

end SqlTemplate.QueueBinding
