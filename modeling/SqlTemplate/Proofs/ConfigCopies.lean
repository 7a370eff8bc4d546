import SqlTemplate.Statement.Config

/-! Copies of a configuration with some attributes changed. All that is not changed stays, and so do
the conversions as long as none are given. Those that are given come on top of the usual ones and
not on top of those of the configuration, which are lost where they are not given again. -/
namespace SqlTemplate.ConfigCopies
open StatementConfig

/-- The attributes of a configuration that are single values, which are all but the conversions. -/
inductive Setting
  | dialect | strict | enableParsing | insertIgnoreVerb | supportsTableLocks | templateCacheSize

namespace Setting

def of (config : StatementConfig) : Setting → Value
  | dialect => config.dialect
  | strict => config.strict
  | enableParsing => config.enableParsing
  | insertIgnoreVerb => config.insertIgnoreVerb
  | supportsTableLocks => config.supportsTableLocks
  | templateCacheSize => config.templateCacheSize

/-- The value that a setting is given, if it is given one. -/
def given (changes : Changes) : Setting → Option Value
  | dialect => changes.dialect
  | strict => changes.strict
  | enableParsing => changes.enableParsing
  | insertIgnoreVerb => changes.insertIgnoreVerb
  | supportsTableLocks => changes.supportsTableLocks
  | templateCacheSize => changes.templateCacheSize

end Setting

/-- A copy has the settings that are given and the other ones of its configuration. Without given
conversions it has those of its configuration, too. -/
structure CopyOf (config : StatementConfig) (changes : Changes) (copy : StatementConfig) :
    Prop where
  settings : ∀ setting : Setting,
    setting.of copy = (setting.given changes).getD (setting.of config)
  kept : changes.coercions = none → copy.coercions = config.coercions
  merged : ∀ coercions, changes.coercions = some coercions →
    copy.coercions = mergeCoercions coercions

variable {config : StatementConfig} {changes : Changes}

theorem replace_known (known : changes.unknown = []) :
    ∃ copy, config.replace changes = .ok copy ∧ CopyOf config changes copy := by
  refine ⟨_, if_neg (not_not_intro known), ⟨?_, ?_, ?_⟩⟩
  · intro setting
    cases setting <;> rfl
  · intro absent
    simp only [absent, Option.map_none, Option.getD_none]
  · intro coercions given
    simp only [given, Option.map_some, Option.getD_some]

/-- A conversion that is given is used, whatever the configuration has. -/
theorem merge_given {map : Coercions} (own : map type = some converter) :
    mergeCoercions (some map) type = converter := by
  simp only [mergeCoercions, Option.bind_some, own, Option.getD_some]

/-- A conversion that is not given is the usual one, whatever the configuration has. -/
theorem merge_absent {map : Coercions} (absent : map type = none) :
    mergeCoercions (some map) type = .standard type := by
  simp only [mergeCoercions, Option.bind_some, absent, Option.getD_none]

/-- Changing known attributes gives a copy with the given values, which agrees with the
configuration on all that is not named. When conversions are given for some bind types, the copy has
these; it has those of the configuration for the other types just when they are the usual ones
there. -/
theorem copy_keeps_unnamed_iff_usual (config : StatementConfig) (known : changes.unknown = []) :
    ∃ copy, config.replace changes = .ok copy ∧
      (∀ setting : Setting,
        (∀ value, setting.given changes = some value → setting.of copy = value) ∧
        (setting.given changes = none → setting.of copy = setting.of config)) ∧
      (changes.coercions = none → copy.coercions = config.coercions) ∧
      (changes.coercions = some none → copy.coercions = .standard) ∧
      ∀ map, changes.coercions = some (some map) →
        (∀ type converter, map type = some converter → copy.coercions type = converter) ∧
        ((∀ type, map type = none → copy.coercions type = config.coercions type) ↔
          ∀ type, map type = none → config.coercions type = .standard type) := by
  obtain ⟨copy, replaced, of_copy⟩ : ∃ copy, config.replace changes = .ok copy ∧
      CopyOf config changes copy := replace_known known
  refine ⟨copy, replaced, fun setting => ⟨fun value given => ?_, fun absent => ?_⟩, of_copy.kept,
    of_copy.merged none, fun map given => ?_⟩
  · rw [of_copy.settings, given, Option.getD_some]
  · rw [of_copy.settings, absent, Option.getD_none]
  · rw [of_copy.merged (some map) given]
    refine ⟨fun type converter own => merge_given own, ?_⟩
    constructor
    · intro same type absent
      rw [← same type absent, merge_absent absent]
    · intro usual type absent
      rw [usual type absent, merge_absent absent]

/-- Changes of the conversions alone. -/
def converting (map : Coercions) : Changes :=
  { dialect := none, strict := none, enableParsing := none, coercions := some (some map),
    insertIgnoreVerb := none, supportsTableLocks := none, templateCacheSize := none, unknown := [] }

/-- Integers are bound as they come, and nothing is said of the other types. -/
def bareIntegers : Coercions
  | .integer => some (.custom .ok)
  | _ => none

/-- The conversions of SQLite, but with integers as they come. -/
def bareIntegersForSqlite : Coercions := fun type => (bareIntegers type).or (Coercions.sqlite type)

/-- A lenient copy of the configuration for SQLite is given the conversions of SQLite again. -/
theorem lenient_copy_keeps_given_conversions :
    let changes := { converting bareIntegersForSqlite with strict := some (.bool false) }
    changes.unknown = [] ∧
      ∃ copy, sqlite.replace changes = .ok copy ∧ copy.strict = .bool false ∧
        copy.dialect = .str "sqlite" ∧ copy.coercions .boolean = .flag := by
  intro changes
  have known : changes.unknown = [] := rfl
  obtain ⟨copy, replaced, settings, -, -, conversions⟩ := copy_keeps_unnamed_iff_usual sqlite known
  obtain ⟨own, -⟩ := conversions bareIntegersForSqlite rfl
  exact ⟨known, copy, replaced, (settings .strict).1 _ rfl, (settings .dialect).2 rfl,
    own .boolean .flag rfl⟩

/-- A copy that is given a conversion of integers has lost the conversion of truth values that
SQLite has, and binds a truth value as it is. -/
theorem integer_conversion_displaces_flag :
    bareIntegers .boolean = none ∧
      ∃ copy, sqlite.replace (converting bareIntegers) = .ok copy ∧
        copy.coercions .boolean ≠ sqlite.coercions .boolean ∧
        coerce (.bool true) .boolean sqlite.statementCoercions = .ok (.int 1) ∧
        coerce (.bool true) .boolean copy.statementCoercions = .ok (.bool true) := by
  refine ⟨rfl, _, rfl, ?_, rfl, rfl⟩
  intro same
  have displaced : Converter.standard .boolean = .flag := same
  cases displaced

end SqlTemplate.ConfigCopies
