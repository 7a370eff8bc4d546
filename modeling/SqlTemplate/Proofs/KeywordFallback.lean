import Mathlib.Data.List.Infix
import SqlTemplate.Statement.Operation

/-! The operation of a statement whose first word is a main keyword. A parser reads the word
wherever it ends, but the rule that stands in for a parser cuts words at blanks only, so it misses a
keyword that anything else follows. -/
namespace SqlTemplate.KeywordFallback
open Operation Text

/-- The operations of the four main statements. -/
def mainOperations : List OperationType := [.select, .insert, .update, .delete]

/-- The first word of a text, behind blanks and opening parentheses, is the keyword of a main
operation in letters of any case. What is behind the word does not go on with it. -/
structure StartsWith (operation : OperationType) (sql : String) (behind : List Char) : Prop where
  main : operation ∈ mainOperations
  written : ∃ front word, sql.toList = front ++ (word ++ behind) ∧
    (∀ c ∈ front, isLeading c = true) ∧ word.map Char.toUpper = operation.text.toList
  ends : ∀ c ∈ behind.head?, isNameChar c = false

/-- Nothing or a blank is behind a word. -/
def Parted (behind : List Char) : Prop := ∀ c ∈ behind.head?, isBlank c = true

/-- A parser tells an operation of a text. -/
def Told (parser : Parser) (dialect : Option String) (sql : String) (operation : OperationType) :
    Prop :=
  parser dialect sql = some operation ∧ operation ≠ .unknown

/-- What a parser tells of texts that start with main keywords is what the keywords say. -/
def TellsByKeyword (parser : Parser) : Prop :=
  ∀ dialect sql operation behind named, StartsWith operation sql behind →
    Told parser dialect sql named → named = operation

/-! ## Letters of keywords -/

def IsLetter (c : Char) : Prop := 65 ≤ c.toNat ∧ c.toNat ≤ 90 ∨ 97 ≤ c.toNat ∧ c.toNat ≤ 122

theorem to_upper_code (c : Char) :
    c.toUpper.toNat = if 97 ≤ c.toNat ∧ c.toNat ≤ 122 then c.toNat - 32 else c.toNat := by
  unfold Char.toUpper
  simp only [UInt32.le_iff_toNat_le, Char.toNat]
  split
  · rename_i small
    have first : 'a'.val.toNat = 97 := rfl
    have last : 'z'.val.toNat = 122 := rfl
    have distance : ('A'.val - 'a'.val).toNat = 2 ^ 32 - 32 := rfl
    rw [if_pos (by omega), UInt32.toNat_add]
    omega
  · rename_i other
    exact (if_neg other).symm

variable {operation : OperationType} {word behind : List Char} {c : Char}

theorem keyword_letters (main : operation ∈ mainOperations)
    (same : word.map Char.toUpper = operation.text.toList) : ∀ c ∈ word, IsLetter c := by
  have each : mainOperations.all (fun operation => operation.text.toList.all
      fun c => decide (65 ≤ c.toNat ∧ c.toNat ≤ 90)) = true := by decide
  have capitals : ∀ operation ∈ mainOperations, ∀ c ∈ operation.text.toList,
      65 ≤ c.toNat ∧ c.toNat ≤ 90 := by
    simpa only [List.all_eq_true, decide_eq_true_eq] using each
  intro c member
  have upper := capitals operation main c.toUpper (same ▸ List.mem_map_of_mem member)
  rw [to_upper_code] at upper
  unfold IsLetter
  split at upper <;> omega

theorem keyword_given (main : operation ∈ mainOperations)
    (same : word.map Char.toUpper = operation.text.toList) : word ≠ [] := by
  have given : ∀ operation ∈ mainOperations, operation.text.toList ≠ [] := by decide
  rintro rfl
  exact given operation main same.symm

theorem letter_differs (letter : IsLetter c) (below : d.toNat < 65) : c ≠ d := by
  rintro rfl
  unfold IsLetter at letter
  omega

theorem letter_not_blank (letter : IsLetter c) : isBlank c = false := by
  unfold IsLetter at letter
  simp only [isBlank, Bool.or_eq_false_iff, Bool.and_eq_false_iff, decide_eq_false_iff_not,
    beq_eq_false_iff_ne]
  omega

theorem letter_not_leading (letter : IsLetter c) : isLeading c = false := by
  have differs {d : Char} (below : d.toNat < 65) : (c == d) = false :=
    beq_eq_false_iff_ne.mpr (letter_differs letter below)
  rw [isLeading, differs (by decide), differs (by decide), differs (by decide),
    differs (by decide), differs (by decide)]
  rfl

theorem letter_alpha (letter : IsLetter c) : c.isAlpha = true := by
  unfold Char.isAlpha Char.isUpper Char.isLower
  simp only [Bool.or_eq_true, Bool.and_eq_true, decide_eq_true_eq, UInt32.le_iff_toNat_le,
    ge_iff_le]
  exact letter

theorem letter_capital (letter : IsLetter c) : capital c = c.toUpper := by
  unfold IsLetter at letter
  rw [capital, if_neg (by omega), if_neg (by omega)]

/-! ## The first word -/

theorem first_word_behind (front : List Char) (leading : ∀ c ∈ front, isLeading c = true)
    (given : word ≠ []) (letters : ∀ c ∈ word, IsLetter c) :
    firstWord ((front ++ (word ++ behind)).dropWhile isLeading) =
      word ++ behind.takeWhile fun c => !isBlank c := by
  obtain ⟨c, more, rfl⟩ := List.exists_cons_of_ne_nil given
  have letter := letters c List.mem_cons_self
  rw [List.dropWhile_append_of_pos leading, List.cons_append,
    List.dropWhile_cons_of_neg (by simp [letter_not_leading letter]), firstWord,
    List.dropWhile_cons_of_neg (by simp [letter_not_blank letter]), ← List.cons_append]
  refine List.takeWhile_append_of_pos fun d member => ?_
  simp [letter_not_blank (letters d member)]

theorem own_keyword (main : operation ∈ mainOperations) :
    keywords.lookup operation.text = some operation := by
  have own : ∀ operation ∈ mainOperations, keywords.lookup operation.text = some operation := by
    decide
  exact own operation main

/-- No keyword is longer than the keyword of a main operation that it starts with. -/
theorem no_longer_keyword (main : operation ∈ mainOperations) (longer : behind ≠ []) :
    keywords.lookup (String.ofList (operation.text.toList ++ behind)) = none := by
  have shortest : ∀ operation ∈ mainOperations, ∀ keyword ∈ keywords,
      operation.text.toList <+: keyword.1.toList → keyword.1 = operation.text := by decide
  refine List.lookup_eq_none_iff.mpr fun keyword member => ?_
  rw [bne_iff_ne]
  intro same
  have text : operation.text.toList ++ behind = keyword.1.toList := by rw [← same]; simp
  have whole := shortest operation main keyword member ⟨behind, text⟩
  rw [whole] at text
  exact longer (List.append_right_eq_self.mp text)

theorem take_word_parted (parted : Parted behind) :
    behind.takeWhile (fun c => !isBlank c) = [] := by
  cases behind with
  | nil => rfl
  | cons c rest => simp [parted c rfl]

theorem take_word_unparted (unparted : ¬Parted behind) :
    behind.takeWhile (fun c => !isBlank c) ≠ [] := by
  cases behind with
  | nil => exact absurd nofun unparted
  | cons c rest =>
    have solid : isBlank c = false := by
      rw [← Bool.not_eq_true]
      intro blank
      exact unparted fun d first => Option.mem_some.mp first ▸ blank
    simp [solid]

/-- The first word is the keyword with all that follows it up to a blank. -/
theorem of_first_word (starts : StartsWith operation sql behind) :
    ofFirstWord sql = (keywords.lookup (String.ofList
      (operation.text.toList ++ (behind.takeWhile fun c => !isBlank c).map capital))).getD
        .execute := by
  obtain ⟨main, ⟨front, word, parts, leading, same⟩, -⟩ := starts
  have letters := keyword_letters main same
  have given := keyword_given main same
  have capitals : word.map capital = operation.text.toList := by
    rw [← same]
    exact List.map_congr_left fun c member => letter_capital (letters c member)
  rw [ofFirstWord, parts, first_word_behind front leading given letters]
  obtain ⟨c, more, rfl⟩ := List.exists_cons_of_ne_nil given
  simp only [List.cons_append, Text.capitals, ← capitals, List.map_cons, List.map_append]

theorem first_word_parted (starts : StartsWith operation sql behind) (parted : Parted behind) :
    ofFirstWord sql = operation := by
  rw [of_first_word starts, take_word_parted parted, List.map_nil, List.append_nil,
    String.ofList_toList, own_keyword starts.main, Option.getD_some]

theorem first_word_unparted (starts : StartsWith operation sql behind)
    (unparted : ¬Parted behind) : ofFirstWord sql = .execute := by
  have longer := take_word_unparted unparted
  rw [of_first_word starts, no_longer_keyword starts.main (by simpa using longer),
    Option.getD_none]

theorem execute_not_main (main : operation ∈ mainOperations) : .execute ≠ operation := by
  rintro rfl
  revert main
  decide

theorem first_word_iff (starts : StartsWith operation sql behind) :
    ofFirstWord sql = operation ↔ Parted behind := by
  refine ⟨fun found => ?_, first_word_parted starts⟩
  by_contra unparted
  exact execute_not_main starts.main ((first_word_unparted starts unparted).symm.trans found)

/-! ## Parsers -/

theorem detect_told (told : Told parser dialect sql named) :
    detectWith parser sql dialect true = named := by
  obtain ⟨reads, known⟩ := told
  simp only [detectWith, reads, Bool.not_true, Bool.false_eq_true, ↓reduceIte]

theorem detect_untold (untold : ∀ named : OperationType, ¬Told parser dialect sql named) :
    detectWith parser sql dialect true = ofFirstWord sql := by
  simp only [detectWith, Bool.not_true, Bool.false_eq_true, ↓reduceIte]
  split
  · rfl
  · rfl
  · rename_i named known reads
    exact absurd ⟨reads, known⟩ (untold named)

theorem skip_front (dialect : Dialect) {front : List Char}
    (leading : ∀ c ∈ front, isLeading c = true) (text : List Char) (fuel : Nat) :
    skipLeading dialect (front.length + fuel) (front ++ text) = skipLeading dialect fuel text := by
  induction front with
  | nil => simp
  | cons c front ih =>
    have rest := ih fun d member => leading d (List.mem_cons_of_mem _ member)
    have first := leading c List.mem_cons_self
    simp only [isLeading, Bool.or_eq_true, beq_iff_eq] at first
    rw [List.length_cons, Nat.add_right_comm, List.cons_append]
    rcases first with (((rfl | rfl) | rfl) | rfl) | rfl <;>
      simpa [skipLeading, isBlank] using rest

theorem skip_word (dialect : Dialect) (letter : IsLetter c) (fuel : Nat) (rest : List Char) :
    skipLeading dialect fuel (c :: rest) = c :: rest := by
  cases fuel with
  | zero => rfl
  | succ fuel =>
    have dash : c ≠ '-' := letter_differs letter (by decide)
    have slash : c ≠ '/' := letter_differs letter (by decide)
    have sharp : c ≠ '#' := letter_differs letter (by decide)
    have bracket : c ≠ '(' := letter_differs letter (by decide)
    simp [skipLeading, dash, slash, sharp, bracket, letter_not_blank letter]

theorem span_keyword (letters : ∀ c ∈ word, IsLetter c)
    (ends : ∀ c ∈ behind.head?, isNameChar c = false) :
    (word ++ behind).span isNameChar = (word, behind) := by
  have inside : ∀ c ∈ word, isNameChar c = true := fun c member => by
    simp [isNameChar, Char.isAlphanum, letter_alpha (letters c member)]
  rw [List.span_eq_takeWhile_dropWhile, List.takeWhile_append_of_pos inside,
    List.dropWhile_append_of_pos inside]
  cases behind with
  | nil => simp
  | cons c rest => simp [ends c rfl]

/-- The leading keyword is read where a text starts with a main keyword. -/
theorem leading_keyword (starts : StartsWith operation sql behind) (dialect : Dialect) :
    ofLeadingKeyword? dialect sql.toList = some operation := by
  obtain ⟨main, ⟨front, word, parts, leading, same⟩, ends⟩ := starts
  have letters := keyword_letters main same
  have given := keyword_given main same
  have skipped : skipLeading dialect sql.toList.length sql.toList = word ++ behind := by
    obtain ⟨c, more, rfl⟩ := List.exists_cons_of_ne_nil given
    rw [parts, List.length_append, skip_front dialect leading, List.cons_append,
      skip_word dialect (letters c List.mem_cons_self)]
  have alphabetic : word.all Char.isAlpha = true :=
    List.all_eq_true.mpr fun c member => letter_alpha (letters c member)
  have found : mainOperation? word = some operation := by
    have own : ∀ operation ∈ mainOperations,
        mainOperations.find? (fun other => other.text.toList == operation.text.toList) =
          some operation := by decide
    rw [mainOperation?, same]
    exact own operation main
  simp only [ofLeadingKeyword?, skipped, span_keyword letters ends, alphabetic, found,
    Bool.not_true, Bool.false_eq_true, ↓reduceIte]

theorem by_leading_keyword_tells : TellsByKeyword byLeadingKeyword := by
  intro dialect sql operation behind named starts told
  obtain ⟨known, -, told⟩ := Option.bind_eq_some_iff.mp told.1
  exact Option.some.inj (told.symm.trans (leading_keyword starts known))

/-- Without parsing, a main keyword at the start of a text decides just when a blank or nothing is
behind it. Then it decides with parsing, too; otherwise the text counts as something to execute
unless the parser tells the operation. -/
theorem keyword_decides_iff_parted (parser : Parser) (tells : TellsByKeyword parser)
    (starts : StartsWith operation sql behind) (dialect : Option String) :
    (detectWith parser sql dialect false = operation ↔ Parted behind) ∧
    (Parted behind → ∀ parsing, detectWith parser sql dialect parsing = operation) ∧
    (¬Parted behind → detectWith parser sql dialect false = .execute ∧
      (detectWith parser sql dialect true = operation ↔
        ∃ named, Told parser dialect sql named)) := by
  have told_operation {named : OperationType} (told : Told parser dialect sql named) :
      detectWith parser sql dialect true = operation := by
    rw [detect_told told]
    exact tells dialect sql operation behind named starts told
  refine ⟨first_word_iff starts, fun parted parsing => ?_, fun unparted => ⟨?_, ?_⟩⟩
  · cases parsing with
    | false => exact first_word_parted starts parted
    | true =>
      by_cases told : ∃ named, Told parser dialect sql named
      · obtain ⟨named, told⟩ := told
        exact told_operation told
      · rw [detect_untold fun named reads => told ⟨named, reads⟩]
        exact first_word_parted starts parted
  · exact first_word_unparted starts unparted
  · refine ⟨fun found => ?_, fun ⟨named, told⟩ => told_operation told⟩
    by_contra silent
    rw [detect_untold fun named told => silent ⟨named, told⟩,
      first_word_unparted starts unparted] at found
    exact execute_not_main starts.main found

/-- A tab is behind the keyword of a selection, whatever its letters. -/
theorem parted_selection_is_found :
    TellsByKeyword byLeadingKeyword ∧ StartsWith .select "\r\n sElEcT\t1" "\t1".toList ∧
      Parted "\t1".toList ∧
      ∀ parsing,
        detectWith byLeadingKeyword "\r\n sElEcT\t1" (some "mysql") parsing = .select := by
  have starts : StartsWith .select "\r\n sElEcT\t1" "\t1".toList :=
    { main := by decide
      written := ⟨"\r\n ".toList, "sElEcT".toList, by decide, List.all_eq_true.mp (by decide),
        by decide⟩
      ends := by rintro c ⟨⟩; rfl }
  have parted : Parted "\t1".toList := by rintro c ⟨⟩; rfl
  exact ⟨by_leading_keyword_tells, starts, parted,
    (keyword_decides_iff_parted byLeadingKeyword by_leading_keyword_tells starts _).2.1 parted⟩

/-- A star is behind the keyword, and without parsing nothing is seen of the selection. -/
theorem starred_selection_is_missed :
    StartsWith .select "SELECT*FROM t" "*FROM t".toList ∧
      detectWith byLeadingKeyword "SELECT*FROM t" (some "mysql") true = .select ∧
      detectWith byLeadingKeyword "SELECT*FROM t" (some "mysql") false = .execute :=
  ⟨{ main := by decide
     written := ⟨[], "SELECT".toList, by decide, List.forall_mem_nil _, by decide⟩
     ends := by rintro c ⟨⟩; rfl }, by decide, by decide⟩

end SqlTemplate.KeywordFallback
