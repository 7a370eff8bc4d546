import SqlTemplate.Proofs.QueueBinding

/-! Names of markers as the adapters send them. SQLite is sent a marker without any of its colons,
MySQL a marker without its first character, whatever that is. Both are the marker without its
leading colon where there is exactly one; but only the first key of a mapping must have any. -/
namespace SqlTemplate.MarkerNames
open QueueBinding

/-- A text without its leading colon, if it has one. -/
def stemChars : List Char → List Char
  | ':' :: rest => rest
  | chars => chars

def stem (marker : String) : String := String.ofList (stemChars marker.toList)

/-- A marker starts with exactly one colon, unless there is nothing to start with. -/
def OneColon (marker : String) : Prop :=
  marker.toList = [] ∨ ∃ rest, marker.toList = ':' :: rest ∧ rest.head? ≠ some ':'

/-! ## Names -/

/-- Taking colons off changes nothing exactly when there is none in front. -/
theorem drop_colons_iff (chars : List Char) :
    chars.dropWhile (· = ':') = chars ↔ chars.head? ≠ some ':' := by
  rw [List.dropWhile_eq_self_iff]
  cases chars with
  | nil => simp
  | cons c rest => simp

/-- The two adapters name a marker by its stem exactly when it has one colon. -/
theorem one_colon_iff (marker : String) :
    OneColon marker ↔
      Prepared.withoutColons marker = stem marker ∧ Prepared.withoutFirst marker = stem marker := by
  simp only [OneColon, Prepared.withoutColons, Prepared.withoutFirst, stem, String.ofList_inj]
  cases marker.toList with
  | nil => simp [stemChars]
  | cons c rest =>
    by_cases colon : c = ':'
    · subst colon
      have dropped : (':' :: rest).dropWhile (· = ':') = rest.dropWhile (· = ':') := by simp
      rw [dropped, stemChars, drop_colons_iff]
      simp
    · have kept : stemChars (c :: rest) = c :: rest := by
        simp [stemChars, colon]
      simp [kept, colon]

/-! ## Mappings -/

section Assigning
variable {bound pairs : List (String × Value)}

theorem assign_length_le (bound : List (String × Value)) (key : String) (value : Value) :
    (Prepared.assign bound key value).length ≤ bound.length + 1 := by
  by_cases there : key ∈ bound.map Prod.fst
  · have kept := congrArg List.length (assign_old there value)
    simp only [List.length_map] at kept
    omega
  · simp [assign_new there]

theorem assigned_length_le (bound pairs : List (String × Value)) :
    (assigned bound pairs).length ≤ bound.length + pairs.length := by
  induction pairs generalizing bound with
  | nil => exact Nat.le_refl _
  | cons pair pairs ih =>
    have rest := ih (Prepared.assign bound pair.1 pair.2)
    have one := assign_length_le bound pair.1 pair.2
    simp only [assigned, List.foldl_cons, List.length_cons] at rest ⊢
    omega

/-- Keys that were all kept apart are bound in the order in which they were assigned. -/
theorem assigned_full (bound : List (String × Value))
    (full : (assigned bound pairs).length = bound.length + pairs.length) :
    assigned bound pairs = bound ++ pairs := by
  induction pairs generalizing bound with
  | nil => simp [assigned]
  | cons pair pairs ih =>
    have rest := assigned_length_le (Prepared.assign bound pair.1 pair.2) pairs
    have step : assigned bound (pair :: pairs) =
      assigned (Prepared.assign bound pair.1 pair.2) pairs := rfl
    rw [step, List.length_cons] at full
    have fresh : pair.1 ∉ bound.map Prod.fst := by
      intro there
      have kept := congrArg List.length (assign_old there pair.2)
      simp only [List.length_map] at kept
      omega
    rw [assign_new fresh] at full step
    rw [step, ih _ (by rw [full, List.length_append, List.length_singleton]; omega)]
    simp

end Assigning

/-- Pairs of names and values become a mapping with an item for each of them, under given names,
exactly when these are their names and differ from each other. -/
theorem of_pairs_iff {names given : List String} {values : List Value}
    (count : names.length = values.length) (count' : given.length = values.length) :
    Value.ofPairs ((names.map .str).zip values) = .mapping ((given.map .str).zip values) ↔
      names = given ∧ given.Nodup := by
  constructor
  · intro same
    rw [Value.ofPairs, ← pairs_of_names, ← pairs_of_names, entries_assigned,
      Value.mapping.injEq] at same
    have injective : Function.Injective fun pair : String × Value => (Value.str pair.1, pair.2) := by
      rintro ⟨a, v⟩ ⟨b, w⟩ alike
      cases alike
      rfl
    have kept : assigned [] (names.zip values) = given.zip values :=
      List.map_injective_iff.mpr injective same
    have full : (assigned [] (names.zip values)).length = 0 + (names.zip values).length := by
      rw [kept, List.length_zip, List.length_zip, count, count', Nat.zero_add]
    have whole : names.zip values = given.zip values := (assigned_full [] full).symm.trans kept
    have alike := congrArg (List.map Prod.fst) whole
    have distinct := assigned_keys_nodup [] (names.zip values) List.nodup_nil
    rw [kept] at distinct
    rw [List.map_fst_zip (Nat.le_of_eq count), List.map_fst_zip (Nat.le_of_eq count')] at alike
    rw [List.map_fst_zip (Nat.le_of_eq count')] at distinct
    exact ⟨alike, distinct⟩
  · rintro ⟨rfl, distinct⟩
    exact pairs_of_distinct distinct count

/-- The parameters of some markers, each under what a renaming makes of it. -/
def sent (rename : String → String) (names : List String) (values : List Value) : Value :=
  .ofPairs (((names.map rename).map .str).zip values)

/-- What a queue with distinct markers, of which there is one at least, makes of a new statement. -/
theorem bind_distinct_markers (typeName sql : String) (style : MarkerStyle) (given : names ≠ [])
    (distinct : names.Nodup) (marked : Marked queue names)
    (coerced : CoercedTo coercions queue values) :
    ∃ bound, (Prepared.new typeName style sql coercions).bindQueue 1 queue = (.ok bound, []) ∧
      bound.render = .ok (bound.renderNamed.1, some bound.renderNamed.2) ∧
      bound.named = names.zip values ∧ bound.style = style ∧ bound.sql = sql := by
  have binds := bind_markers (.new typeName style sql coercions) 1 rfl marked coerced
  have count : names.length = values.length := marked.length_eq.symm.trans coerced.length_eq
  have keys : (([] ++ names.zip values).map Prod.fst).Nodup := by
    rw [List.nil_append, List.map_fst_zip (Nat.le_of_eq count)]
    exact distinct
  refine ⟨_, binds, ?_, assigned_distinct [] keys, rfl, rfl⟩
  have filled : (assigned [] (names.zip values)).isEmpty = false := by
    apply List.isEmpty_eq_false_iff.mpr
    apply assigned_given
    cases marked with
    | nil => exact absurd rfl given
    | cons _ _ =>
      cases coerced with
      | cons _ _ => exact List.cons_ne_nil _ _
  simp only [Prepared.render, Prepared.isNamed, Prepared.new, filled, Bool.not_false, ↓reduceIte]

theorem sent_renamed (rename : String → String) (names : List String) (values : List Value) :
    Prepared.mappingOf ((names.zip values).map fun (marker, value) => (rename marker, value)) =
      sent rename names values := by
  rw [Prepared.mappingOf, sent, ← pairs_of_names, List.zip_map_left]
  rfl

/-- What the adapters send is the same, with an item for each marker under its stem, exactly when
every marker has one colon and the stems differ from each other. -/
theorem sent_alike_iff {names : List String} {values : List Value}
    (count : names.length = values.length) :
    sent Prepared.withoutColons names values = sent Prepared.withoutFirst names values ∧
        sent Prepared.withoutColons names values =
          .mapping (((names.map stem).map .str).zip values) ↔
      (∀ name ∈ names, OneColon name) ∧ (names.map stem).Nodup := by
  have stems (rename : String → String) :
      sent rename names values = .mapping (((names.map stem).map .str).zip values) ↔
        (∀ name ∈ names, rename name = stem name) ∧ (names.map stem).Nodup := by
    rw [sent, of_pairs_iff (by simpa using count) (by simpa using count), List.map_inj_left]
  have each : (∀ name ∈ names, OneColon name) ↔
      (∀ name ∈ names, Prepared.withoutColons name = stem name) ∧
        ∀ name ∈ names, Prepared.withoutFirst name = stem name := by
    simp only [one_colon_iff, forall_and]
  rw [each]
  constructor
  · rintro ⟨same, first⟩
    have second := (stems _).mp (same.symm.trans first)
    have first := (stems _).mp first
    exact ⟨⟨first.1, second.1⟩, first.2⟩
  · rintro ⟨⟨first, second⟩, distinct⟩
    have first := (stems _).mpr ⟨first, distinct⟩
    have second := (stems _).mpr ⟨second, distinct⟩
    exact ⟨first.trans second.symm, first⟩

/-- Both adapters accept the markers of a mapping, and both send one item for each of its keys,
under the key without its leading colon, exactly when every key has one colon and no two keys differ
in nothing else. The first key alone decides that a mapping is one of markers. -/
theorem adapters_agree_on_names (entries : List (Value × Value))
    (accepted : (Value.mapping entries).isNamedMapping = true)
    (keyed : TextKeys [.mapping entries]) (distinct : (entries.map Prod.fst).Nodup)
    (sql : String) (coercions : Option Coercions)
    (coercible : ∀ entry ∈ Queue.enqueueNamed [] entries,
      ∃ value, coerce entry.value entry.type coercions = .ok value) :
    ∃ (names : List String) (values : List Value) (sqlite mysql : Prepared) (text : String)
      (p q : Value),
      entries.map Prod.fst = names.map .str ∧
      CoercedTo coercions (Queue.enqueueNamed [] entries) values ∧
      (Prepared.new Adapter.sqlite.statementName Adapter.sqlite.markerStyle sql coercions).bindQueue 1
        (Queue.enqueueNamed [] entries) = (.ok sqlite, []) ∧
      (Prepared.new Adapter.mysql.statementName Adapter.mysql.markerStyle sql coercions).bindQueue 1
        (Queue.enqueueNamed [] entries) = (.ok mysql, []) ∧
      sqlite.render = .ok (sql, some p) ∧ mysql.render = .ok (text, some q) ∧
      (p = q ∧ p = .mapping (((names.map stem).map .str).zip values) ↔
        (∀ name ∈ names, OneColon name) ∧ (names.map stem).Nodup) := by
  obtain ⟨values, coerced⟩ := coerced_of_each coercible
  obtain ⟨names, keys, marked⟩ := named_queue_marked (keyed entries List.mem_cons_self)
  have given : names ≠ [] := by
    rintro rfl
    cases List.map_eq_nil_iff.mp keys
    cases accepted
  have apart : names.Nodup := by
    rw [keys] at distinct
    exact (List.pairwise_map.mp distinct).imp fun differ same => differ (congrArg Value.str same)
  have count : names.length = values.length := marked.length_eq.symm.trans coerced.length_eq
  obtain ⟨sqlite, binds, renders, named, style, own⟩ := bind_distinct_markers
    Adapter.sqlite.statementName sql Adapter.sqlite.markerStyle given apart marked coerced
  obtain ⟨mysql, binds', renders', named', style', -⟩ := bind_distinct_markers
    Adapter.mysql.statementName sql Adapter.mysql.markerStyle given apart marked coerced
  have first : sqlite.renderNamed = (sql, sent Prepared.withoutColons names values) := by
    simp only [Prepared.renderNamed, style, named, own, Adapter.markerStyle, sent_renamed]
  have second : mysql.renderNamed.2 = sent Prepared.withoutFirst names values := by
    simp only [Prepared.renderNamed, style', named', Adapter.markerStyle, sent_renamed]
  rw [first] at renders
  rw [second] at renders'
  refine ⟨names, values, sqlite, mysql, _, _, _, keys, coerced, binds, binds', renders, renders', ?_⟩
  exact sent_alike_iff count

/-- Two markers with one colon each, one of them bound to the null value. -/
theorem adapters_agree_on_two_names :
    ∃ sqlite mysql text,
      (Prepared.new Adapter.sqlite.statementName Adapter.sqlite.markerStyle "SELECT :id, :x"
        none).bindQueue 1 (Queue.enqueueNamed [] [(.str ":id", .int 1), (.str ":x", .null)]) =
          (.ok sqlite, []) ∧
      (Prepared.new Adapter.mysql.statementName Adapter.mysql.markerStyle "SELECT :id, :x"
        none).bindQueue 1 (Queue.enqueueNamed [] [(.str ":id", .int 1), (.str ":x", .null)]) =
          (.ok mysql, []) ∧
      sqlite.render = .ok ("SELECT :id, :x",
        some (.mapping [(.str "id", .int 1), (.str "x", .null)])) ∧
      mysql.render = .ok (text, some (.mapping [(.str "id", .int 1), (.str "x", .null)])) := by
  have keyed : TextKeys [.mapping [(.str ":id", .int 1), (.str ":x", .null)]] := by
    intro entries given entry member
    cases List.mem_singleton.mp given
    simp only [List.mem_cons, List.not_mem_nil, or_false] at member
    rcases member with rfl | rfl
    · exact ⟨":id", rfl⟩
    · exact ⟨":x", rfl⟩
  obtain ⟨names, values, sqlite, mysql, text, p, q, keys, coerced, binds, binds', renders, renders',
      agree⟩ :=
    adapters_agree_on_names [(.str ":id", .int 1), (.str ":x", .null)] rfl keyed (by simp)
      "SELECT :id, :x" none (by
        simp [Queue.enqueueNamed, coerce, BindEntry.inferred, BindType.infer, Coercions.inForce,
          Coercions.standard, Converter.apply, Converter.convertTo, Value.toInteger, Except.mapError,
          Except.map])
  have named : names = [":id", ":x"] := by
    apply List.map_injective_iff.mpr fun a b same => Value.str.inj same
    exact keys.symm
  subst named
  cases coerced with
  | cons first rest =>
    cases rest with
    | cons second none =>
      cases first
      cases second
      cases none
      obtain ⟨same, rfl⟩ := agree.mpr
        ⟨by simp [OneColon], by decide⟩
      subst same
      exact ⟨sqlite, mysql, text, binds, binds', renders, renders'⟩

/-- Only the first key is asked for a colon. MySQL is sent a later one without its first letter, and
its marker as it stands; SQLite is sent both as they are. -/
theorem bare_key_loses_its_letter :
    (Value.mapping [(.str ":id", .int 1), (.str "name", .int 2)]).isNamedMapping = true ∧
      (∃ sqlite,
        (Prepared.new Adapter.sqlite.statementName Adapter.sqlite.markerStyle "SELECT :id, :name"
          none).bindQueue 1
            (Queue.enqueueNamed [] [(.str ":id", .int 1), (.str "name", .int 2)]) =
          (.ok sqlite, []) ∧
        sqlite.render = .ok ("SELECT :id, :name",
          some (.mapping [(.str "id", .int 1), (.str "name", .int 2)]))) ∧
      ∃ mysql,
        (Prepared.new Adapter.mysql.statementName Adapter.mysql.markerStyle "SELECT :id, :name"
          none).bindQueue 1
            (Queue.enqueueNamed [] [(.str ":id", .int 1), (.str "name", .int 2)]) =
          (.ok mysql, []) ∧
        mysql.render = .ok ("SELECT %(id)s, :name",
          some (.mapping [(.str "id", .int 1), (.str "ame", .int 2)])) :=
  ⟨by rfl, ⟨_, by rfl, by rfl⟩, _, by rfl, by rfl⟩

end SqlTemplate.MarkerNames
