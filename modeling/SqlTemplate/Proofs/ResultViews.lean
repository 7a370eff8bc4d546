import SqlTemplate.Proofs.GatheredItems
import SqlTemplate.Proofs.Outcomes
import SqlTemplate.Statement.Result

/-! The shapes in which a result gives its rows. They show the same rows: what is at a place of one
is at the same place of the others, for rows that are shorter or longer than the list of column
names and for indexes that some rows do not have. -/
namespace SqlTemplate.ResultViews
open GatheredItems KeyEquality Outcomes

/-- A sequence and what it holds, in order. Sets and mappings are not asked for places. -/
inductive Holds : Value → List Value → Prop
  | list : Holds (.collection .list items) items
  | tuple : Holds (.collection .tuple items) items
  | range : Holds (.range start stop step) ((Value.rangeItems start stop step).map .int)
  | text : Holds (.str text) (text.toList.map fun c => .str (String.singleton c))
  | bytes : Holds (.bytes kind content) (content.map fun b => .int b.toNat)

/-- What the shapes of a result have to do with each other, for rows that hold the given items. -/
structure ViewsAgree (result : StatementResult) (table : List (List Value)) : Prop where
  /-- Column names that can be keys give a mapping for every row. -/
  named : (∀ name ∈ result.columnNames, name.isHashable = true) →
    result.all =
      .ok (.list (table.map fun items => .ofPairs (result.columnNames.zip items)))
  /-- There are as many mappings as rows, they are met one by one, and the first stands alone. -/
  mapped : ∀ mappings, result.all = .ok (.list mappings) →
    result.length = mappings.length ∧ result.walk = .ok mappings ∧
      result.one = .ok (mappings.headD .null)
  /-- Rows without mappings cannot be walked through. -/
  unmapped : ∀ kind, result.all = .error kind → result.walk = .error kind
  /-- A column is given if every row has an item at its index, from the front or from the end. -/
  reached : ∀ index : Int, (∃ column, result.column (.int index) = .ok column) ↔
    ∀ items ∈ table, -(items.length : Int) ≤ index ∧ index < items.length
  /-- A column starts with the item of the first row. -/
  headed : ∀ index column, result.column index = .ok column →
    ∃ values, column = .list values ∧ values.length = result.length ∧
      result.scalar index = .ok (values.headD .null)
  /-- The mapping of a row has the items of the row under the names at their places, and the columns
  have them too. -/
  placed : Apart result.columnNames → ∀ mappings, result.all = .ok (.list mappings) →
    ∀ (row place : Nat) (items : List Value) (name value : Value), table[row]? = some items →
      items[place]? = some value → result.columnNames[place]? = some name →
      ∃ entries, mappings[row]? = some (.mapping entries) ∧ entries[place]? = some (name, value) ∧
        -- An undefined number is the only name that does not equal itself.
        (name.equals name = true → Value.item (.mapping entries) name = .ok value) ∧
        ∀ values, result.column (.int place) = .ok (.list values) → values[row]? = some value
  /-- The first two columns make a mapping if every row has items of both, the first a key. -/
  keyed : (∀ items ∈ table, ∃ key value rest, items = key :: value :: rest ∧ IsKey key) →
    ∃ keys values items places,
      result.column (.int 0) = .ok (.list keys) ∧ result.column (.int 1) = .ok (.list values) ∧
      result.keyValue = .ok (.mapping items) ∧ Gathers (keys.zip values) items places

/-! ## Sequences -/

theorem walk_holds (holds : Holds row items) : row.walk = .ok items := by
  cases holds <;> rfl

/-- An index counts from the front or from the end. -/
theorem place_of_ok_iff (index : Int) (length place : Nat) :
    Value.placeOf index length = .ok place ↔
      place < length ∧ (index = place ∨ index + length = place) := by
  simp only [Value.placeOf]
  rcases Int.lt_or_le index 0 with negative | positive
  · simp only [if_pos negative]
    split
    · rw [Except.ok.injEq]
      omega
    · simp only [reduceCtorEq, false_iff]
      omega
  · simp only [if_neg (Int.not_lt.mpr positive)]
    split
    · rw [Except.ok.injEq]
      omega
    · simp only [reduceCtorEq, false_iff]
      omega

/-- A sequence has its items at their places, and no others. -/
theorem item_holds (holds : Holds row items) (index : Int) :
    row.item (.int index) =
      (Value.placeOf index items.length).map fun place => items.getD place .null := by
  cases holds with
  | list | tuple | text | bytes => rfl
  | @range start stop step =>
    have length : ((Value.rangeItems start stop step).map Value.int).length =
        Value.rangeLength start stop step := by
      simp [Value.rangeItems]
    rw [length]
    simp only [Value.item, Value.itemAt]
    cases found : Value.placeOf index (Value.rangeLength start stop step) with
    | error kind => rfl
    | ok place =>
      obtain ⟨inside, -⟩ := (place_of_ok_iff ..).mp found
      simp [Except.map, Value.rangeItems, List.getD_eq_getElem?_getD, inside]

theorem item_at {place : Nat} (holds : Holds row items) (here : items[place]? = some value) :
    row.item (.int place) = .ok value := by
  have inside : place < items.length := (List.getElem?_eq_some_iff.mp here).1
  rw [item_holds holds, (place_of_ok_iff ..).mpr ⟨inside, .inl rfl⟩]
  simp [Except.map, List.getD_eq_getElem?_getD, here]

theorem item_given_iff (holds : Holds row items) (index : Int) :
    (∃ item, row.item (.int index) = .ok item) ↔
      -(items.length : Int) ≤ index ∧ index < items.length := by
  rw [item_holds holds]
  constructor
  · rintro ⟨item, given⟩
    obtain ⟨place, found, -⟩ := map_ok_iff.mp given
    have inside := (place_of_ok_iff ..).mp found
    omega
  · rintro ⟨lower, upper⟩
    have place : ∃ place, Value.placeOf index items.length = .ok place := by
      rcases Int.lt_or_le index 0 with negative | positive
      · exact ⟨(index + items.length).toNat, (place_of_ok_iff ..).mpr (by omega)⟩
      · exact ⟨index.toNat, (place_of_ok_iff ..).mpr (by omega)⟩
    obtain ⟨place, found⟩ := place
    exact ⟨_, map_ok_iff.mpr ⟨place, found, rfl⟩⟩

/-! ## Rows -/

/-- A step that may fail gives the values of one list for those of another, place by place. -/
def EachGives {ε α β : Type} (f : α → Except ε β) (xs : List α) (ys : List β) : Prop :=
  List.Forall₂ (fun x y => f x = .ok y) xs ys

theorem each_ok_iff {ε α β : Type} {f : α → Except ε β} {xs : List α} {ys : List β} :
    xs.mapM f = .ok ys ↔ EachGives f xs ys := mapM_ok_iff

theorem each_given_iff {ε α β : Type} {f : α → Except ε β} {xs : List α} :
    (∃ ys, EachGives f xs ys) ↔ ∀ x ∈ xs, ∃ y, f x = .ok y := by
  simp only [← each_ok_iff, mapM_given_iff]

theorem each_alike_iff {α β : Type} {R : α → β → Prop} {P : α → Prop} {Q : β → Prop} {xs : List α}
    {ys : List β} (each : List.Forall₂ R xs ys) (alike : ∀ x y, R x y → (P x ↔ Q y)) :
    (∀ x ∈ xs, P x) ↔ ∀ y ∈ ys, Q y := by
  induction each with
  | nil => exact ⟨fun _ => nofun, fun _ => nofun⟩
  | cons related rest ih => rw [List.forall_mem_cons, List.forall_mem_cons, alike _ _ related, ih]

theorem related_at {α β : Type} {R : α → β → Prop} {xs : List α} {ys : List β} {place : Nat} {x : α}
    (each : List.Forall₂ R xs ys) (here : xs[place]? = some x) :
    ∃ y, ys[place]? = some y ∧ R x y := by
  induction each generalizing place with
  | nil => cases here
  | cons related rest ih =>
    cases place with
    | zero =>
      cases here
      exact ⟨_, rfl, related⟩
    | succ place => exact ih here

variable {result : StatementResult} {table : List (List Value)} {mappings values : List Value}

theorem all_ok_iff :
    result.all = .ok (.list mappings) ↔
      EachGives (StatementResult.rowMapping result.columnNames) result.rows mappings := by
  rw [← each_ok_iff, StatementResult.all, map_ok_iff]
  constructor
  · rintro ⟨made, each, same⟩
    cases same
    exact each
  · exact fun each => ⟨mappings, each, rfl⟩

theorem column_ok_iff (index : Value) :
    result.column index = .ok (.list values) ↔
      EachGives (fun row => Value.item row index) result.rows values := by
  rw [← each_ok_iff, StatementResult.column, map_ok_iff]
  constructor
  · rintro ⟨made, each, same⟩
    cases same
    exact each
  · exact fun each => ⟨values, each, rfl⟩

theorem column_given_iff (index : Value) :
    (∃ column, result.column index = .ok column) ↔
      ∃ values, EachGives (fun row => Value.item row index) result.rows values := by
  constructor
  · rintro ⟨column, made⟩
    obtain ⟨values, -, rfl⟩ := map_ok_iff.mp made
    exact ⟨values, (column_ok_iff index).mp made⟩
  · rintro ⟨values, each⟩
    exact ⟨.list values, (column_ok_iff index).mpr each⟩

theorem key_value_of_each {pairs : List (Value × Value)}
    (each : EachGives StatementResult.keyValueOf result.rows pairs) :
    result.keyValue = .ok (.mapping (Value.entriesOf pairs)) := by
  rw [StatementResult.keyValue, each_ok_iff.mpr each]
  rfl

/-- The mapping of a row takes the names and the items as far as both go. -/
theorem row_mapping_holds (holds : Holds row items) (names : List Value) :
    StatementResult.rowMapping names row =
      if (names.zip items).all fun pair => pair.1.isHashable then .ok (.ofPairs (names.zip items))
      else .error .wrongType := by
  simp only [StatementResult.rowMapping, walk_holds holds]
  rfl

theorem row_mapping_made (holds : Holds row items)
    (hashable : ∀ name ∈ names, Value.isHashable name = true) :
    StatementResult.rowMapping names row = .ok (.ofPairs (names.zip items)) := by
  rw [row_mapping_holds holds, if_pos]
  rw [List.all_eq_true]
  exact fun pair member => hashable pair.1 (List.of_mem_zip member).1

theorem zip_apart (items : List Value) (apart : Apart names) :
    Apart ((names.zip items).map Prod.fst) := by
  induction apart generalizing items with
  | nil => exact .nil
  | cons differ rest ih =>
    cases items with
    | nil => exact .nil
    | cons item items =>
      refine .cons (fun name member => ?_) (ih items)
      obtain ⟨pair, among, rfl⟩ := List.mem_map.mp member
      exact differ pair.1 (List.of_mem_zip among).1

/-- With distinct names, the mapping of a row has the items of the row at their places, and finds
them by their names. -/
theorem entry_named (holds : Holds row items) (apart : Apart names)
    (made : StatementResult.rowMapping names row = .ok mapping) {place : Nat}
    (there : names[place]? = some name) (here : items[place]? = some value) :
    ∃ entries, mapping = .mapping entries ∧ entries[place]? = some (name, value) ∧
      (name.equals name = true → Value.item (.mapping entries) name = .ok value) := by
  rw [row_mapping_holds holds] at made
  split at made
  · rename_i hashable
    cases made
    have apart := zip_apart items apart
    have pair : (names.zip items)[place]? = some (name, value) :=
      List.getElem?_zip_eq_some.mpr ⟨there, here⟩
    have key : name.isHashable = true :=
      List.all_eq_true.mp hashable (name, value) (List.mem_of_getElem? pair)
    rw [Value.ofPairs, entries_of_apart apart]
    refine ⟨names.zip items, rfl, pair, fun self => ?_⟩
    rw [Value.item, if_pos key, lookup_apart apart pair self]
    rfl
  · cases made

/-- Rows that begin with a key give the first two columns and their pairs. -/
theorem leading_pairs {rows : List Value} (holds : List.Forall₂ Holds rows table)
    (leading : ∀ items ∈ table, ∃ key value rest, items = key :: value :: rest ∧ IsKey key) :
    ∃ keys values,
      EachGives (fun row => Value.item row (.int 0)) rows keys ∧
      EachGives (fun row => Value.item row (.int 1)) rows values ∧
      EachGives StatementResult.keyValueOf rows (keys.zip values) ∧
      ∀ pair ∈ keys.zip values, IsKey pair.1 := by
  induction holds with
  | nil => exact ⟨[], [], .nil, .nil, .nil, nofun⟩
  | @cons row items rows table held holds ih =>
    obtain ⟨keys, values, first, second, pairs, all⟩ :=
      ih fun items member => leading items (List.mem_cons_of_mem _ member)
    obtain ⟨key, value, rest, rfl, own⟩ := leading items List.mem_cons_self
    have front : row.item (.int 0) = .ok key := item_at held (List.getElem?_cons_zero ..)
    have next : row.item (.int 1) = .ok value := item_at held (List.getElem?_cons_succ ..)
    have pair : StatementResult.keyValueOf row = .ok (key, value) := by
      simp only [StatementResult.keyValueOf, front, next]
      exact if_pos own.hashable
    refine ⟨key :: keys, value :: values, .cons front first, .cons next second, .cons pair pairs, ?_⟩
    intro pair member
    rw [List.zip_cons_cons, List.mem_cons] at member
    rcases member with rfl | later
    · exact own
    · exact all pair later

/-! ## Views -/

/-- What a step gives for the first row is the first of what it gives for all. -/
theorem first_given {f : Value → Except FaultKind Value} {rows : List Value}
    (each : EachGives f rows values) :
    (match rows with
      | [] => Except.ok Value.null
      | row :: _ => f row) = .ok (values.headD .null) := by
  cases each with
  | nil => rfl
  | cons first rest => exact first

theorem walk_all (outcome : Except FaultKind (List Value))
    (all : result.all = outcome.map .list) : result.walk = outcome := by
  rw [StatementResult.walk, all]
  cases outcome <;> rfl

/-- The shapes of a result whose rows are sequences agree with each other. -/
theorem views_agree (holds : List.Forall₂ Holds result.rows table) : ViewsAgree result table where
  named hashable := by
    rw [all_ok_iff, EachGives, List.forall₂_map_right_iff]
    exact holds.imp fun row items held => row_mapping_made held hashable
  mapped mappings made := by
    have each := all_ok_iff.mp made
    exact ⟨List.Forall₂.length_eq each, walk_all (.ok mappings) made, first_given each⟩
  unmapped kind failed := walk_all (.error kind) failed
  reached index := by
    rw [column_given_iff, each_given_iff]
    exact each_alike_iff holds fun row items held => item_given_iff held index
  headed index column made := by
    obtain ⟨values, -, rfl⟩ := map_ok_iff.mp made
    have each := (column_ok_iff index).mp made
    exact ⟨values, rfl, (List.Forall₂.length_eq each).symm, first_given each⟩
  placed apart mappings made row place items name value within here there := by
    obtain ⟨held, among, holds⟩ := related_at holds.flip within
    obtain ⟨mapping, shown, mapped⟩ := related_at (all_ok_iff.mp made) among
    obtain ⟨entries, rfl, entry, named⟩ := entry_named holds apart mapped there here
    refine ⟨entries, shown, entry, named, fun values column => ?_⟩
    obtain ⟨other, listed, found⟩ := related_at ((column_ok_iff _).mp column) among
    cases found.symm.trans (item_at holds here)
    exact listed
  keyed leading := by
    obtain ⟨keys, values, first, second, pairs, all⟩ := leading_pairs holds leading
    obtain ⟨places, gathers⟩ := entries_gather fun pair member => (all pair member).consistent
    exact ⟨keys, values, _, places, (column_ok_iff _).mpr first, (column_ok_iff _).mpr second,
      key_value_of_each pairs, gathers⟩

/-- Two rows of different kinds and lengths whose first values are equal across types. The first key
is kept, with the last value. -/
theorem ragged_rows_agree :
    let names : List Value := [.str "id", .str "name"]
    let rows : List Value := [.tuple [.int 1, .str "a", .int 9], .list [.bool true, .str "b"]]
    let result := StatementResult.succeeded default rows names (.int 2) none false
    let first : Value := .mapping [(.str "id", .int 1), (.str "name", .str "a")]
    let second : Value := .mapping [(.str "id", .bool true), (.str "name", .str "b")]
    List.Forall₂ Holds result.rows [[.int 1, .str "a", .int 9], [.bool true, .str "b"]] ∧
      result.walk = .ok [first, second] ∧ result.one = .ok first ∧
      second.item (.str "name") = .ok (.str "b") ∧
      result.keyValue = .ok (.mapping [(.int 1, .str "b")]) ∧
      ∃ places, Gathers [(.int 1, .str "a"), (.bool true, .str "b")] [(.int 1, .str "b")] places := by
  intro names rows result first second
  have holds : List.Forall₂ Holds result.rows
      [[.int 1, .str "a", .int 9], [.bool true, .str "b"]] :=
    .cons .tuple (.cons .list .nil)
  have agree := views_agree holds
  have all : result.all = .ok (.list [first, second]) := rfl
  obtain ⟨-, walked, one⟩ := agree.mapped _ all
  have apart : Apart names := by
    unfold Apart
    decide
  obtain ⟨entries, shown, -, named, -⟩ :=
    agree.placed apart _ all 1 1 _ (.str "name") (.str "b") rfl rfl rfl
  rw [← Option.some.inj shown] at named
  have leading : ∀ items ∈ [[Value.int 1, .str "a", .int 9], [.bool true, .str "b"]],
      ∃ key value rest, items = key :: value :: rest ∧ IsKey key := by
    intro items member
    rw [List.mem_pair] at member
    rcases member with rfl | rfl
    · exact ⟨.int 1, .str "a", [.int 9], rfl, .single trivial rfl⟩
    · exact ⟨.bool true, .str "b", [], rfl, .single trivial rfl⟩
  obtain ⟨keys, values, items, places, front, next, keyed, gathers⟩ := agree.keyed leading
  have keys_are : result.column (.int 0) = .ok (.list [.int 1, .bool true]) := rfl
  have values_are : result.column (.int 1) = .ok (.list [.str "a", .str "b"]) := rfl
  have items_are : result.keyValue = .ok (.mapping [(.int 1, .str "b")]) := rfl
  cases keys_are.symm.trans front
  cases values_are.symm.trans next
  cases items_are.symm.trans keyed
  exact ⟨holds, walked, one, named rfl, keyed, places, gathers⟩

end SqlTemplate.ResultViews
