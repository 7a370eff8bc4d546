import Mathlib
import SqlTemplate.Value.Text

/-! Where a literal ends. In a literal every bracket that is opened is closed and every quote too,
and outside of brackets and quotes there is no separator. So the first separator or closing bracket
after a literal that is not inside of it is its end, whatever comes behind. -/
namespace SqlTemplate.LiteralCutting
open Text

/-- What a character outside of quotes is for. -/
inductive Role
  | quote | opening | closing | separating | plain
  deriving DecidableEq

def role (c : Char) : Role :=
  if c = apostrophe ∨ c = quotationMark then .quote
  else if c = '(' ∨ c = '[' ∨ c = '\x7b' then .opening
  else if c = ')' ∨ c = ']' ∨ c = '\x7d' then .closing
  else if c = ',' ∨ c = ':' then .separating
  else .plain

/-- Where a reader of literals stands: outside of quotes, inside of them, or inside of them behind
a backslash; in any case inside of so many brackets. -/
inductive Place
  | outside (depth : Nat)
  | inside (quote : Char) (depth : Nat)
  | escaped (quote : Char) (depth : Nat)

/-- Reads a character. Outside of all brackets a literal has neither separators nor brackets to
close. -/
def step : Place → Char → Option Place
  | .outside depth, c =>
    match role c, depth with
    | .quote, _ => some (.inside c depth)
    | .opening, _ => some (.outside (depth + 1))
    | .closing, 0 => none
    | .closing, depth + 1 => some (.outside depth)
    | .separating, 0 => none
    | .separating, depth + 1 => some (.outside (depth + 1))
    | .plain, _ => some (.outside depth)
  | .inside quote depth, c =>
    if c = quote then some (.outside depth)
    else if c = backslash then some (.escaped quote depth)
    else some (.inside quote depth)
  | .escaped quote depth, _ => some (.inside quote depth)

def read (place : Place) (text : List Char) : Option Place := text.foldlM step place

theorem read_append (place : Place) (text more : List Char) :
    read place (text ++ more) = (read place text).bind fun reached => read reached more :=
  List.foldlM_append

theorem read_cons (place : Place) (c : Char) (text : List Char) :
    read place (c :: text) = (step place c).bind fun reached => read reached text :=
  List.foldlM_cons

/-- A text that leaves a reader outside of quotes where it was, at any depth. -/
def Closed (text : List Char) : Prop :=
  ∀ depth, read (.outside depth) text = some (.outside depth)

/-- The same inside of brackets, where there may be separators. -/
def Enclosed (text : List Char) : Prop :=
  ∀ depth, read (.outside (depth + 1)) text = some (.outside (depth + 1))

/-- The same inside of quotes. -/
def Quotable (quote : Char) (text : List Char) : Prop :=
  ∀ depth, read (.inside quote depth) text = some (.inside quote depth)

section Texts

variable {text more : List Char}

theorem Closed.enclosed (closed : Closed text) : Enclosed text := fun depth => closed (depth + 1)

theorem Closed.append (first : Closed text) (second : Closed more) : Closed (text ++ more) := by
  intro depth
  rw [read_append, first, Option.bind_some, second]

theorem Enclosed.append (first : Enclosed text) (second : Enclosed more) :
    Enclosed (text ++ more) := by
  intro depth
  rw [read_append, first, Option.bind_some, second]

theorem Quotable.append (first : Quotable quote text) (second : Quotable quote more) :
    Quotable quote (text ++ more) := by
  intro depth
  rw [read_append, first, Option.bind_some, second]

theorem Enclosed.bracketed (enclosed : Enclosed text) {opening closing : Char}
    (opens : role opening = .opening) (closes : role closing = .closing) :
    Closed (opening :: text ++ [closing]) := by
  intro depth
  have enters : step (.outside depth) opening = some (.outside (depth + 1)) := by
    simp only [step, opens]
  have leaves : step (.outside (depth + 1)) closing = some (.outside depth) := by
    simp only [step, closes]
  rw [List.cons_append, read_cons, enters, Option.bind_some, read_append, enclosed,
    Option.bind_some, read_cons, leaves]
  rfl

theorem Quotable.quoted (quotable : Quotable quote text) (quotes : role quote = .quote) :
    Closed (quote :: text ++ [quote]) := by
  intro depth
  have enters : step (.outside depth) quote = some (.inside quote depth) := by
    simp only [step, quotes]
  have leaves : step (.inside quote depth) quote = some (.outside depth) := by
    simp only [step, ↓reduceIte]
  rw [List.cons_append, read_cons, enters, Option.bind_some, read_append, quotable,
    Option.bind_some, read_cons, leaves]
  rfl

/-- A closed text does not go on behind its end. -/
theorem not_closed_beyond (closed : Closed text) (ends : step (.outside 0) c = none)
    (rest : List Char) : ¬ Closed (text ++ c :: rest) := by
  intro beyond
  have reached := beyond 0
  rw [read_append, closed, Option.bind_some, read_cons, ends] at reached
  cases reached

/-- Closed texts end where something comes that is not read outside of brackets. -/
theorem closed_cut (closed : Closed text) (closed' : Closed more)
    (ends : step (.outside 0) c = none) (ends' : step (.outside 0) c' = none)
    (same : text ++ c :: rest = more ++ c' :: rest') : text = more ∧ c = c' ∧ rest = rest' := by
  obtain ⟨between, rfl, left⟩ | ⟨between, rfl, left⟩ := List.append_eq_append_iff.mp same
  · cases between with
    | nil =>
      rw [List.nil_append, List.cons.injEq] at left
      exact ⟨(List.append_nil text).symm, left⟩
    | cons d between =>
      rw [List.cons_append, List.cons.injEq] at left
      rw [← left.1] at closed'
      exact absurd closed' (not_closed_beyond closed ends between)
  · cases between with
    | nil =>
      rw [List.nil_append, List.cons.injEq] at left
      exact ⟨List.append_nil more, left.1.symm, left.2.symm⟩
    | cons d between =>
      rw [List.cons_append, List.cons.injEq] at left
      rw [← left.1] at closed
      exact absurd closed (not_closed_beyond closed' ends' between)

theorem enclosed_joined {texts : List String} (enclosed : ∀ text ∈ texts, Enclosed text.toList) :
    Enclosed (", ".intercalate texts).toList := by
  induction texts with
  | nil => exact fun _ => rfl
  | cons first rest ih =>
    have begins := enclosed first List.mem_cons_self
    cases rest with
    | nil => simpa using begins
    | cons second rest =>
      have goes_on := ih fun text member => enclosed text (List.mem_cons_of_mem _ member)
      rw [String.intercalate_cons_cons, String.toList_append, String.toList_append]
      exact (begins.append fun _ => rfl).append goes_on

end Texts

/-! ## Bare texts -/

/-- A text whose characters mean nothing to a reader, in quotes or outside. -/
def Bare (text : List Char) : Prop := ∀ c ∈ text, role c = .plain ∧ c ≠ backslash

instance : DecidablePred Bare := fun text => List.decidableBAll _ text

section Bare

variable {text more : List Char}

theorem Bare.append (first : Bare text) (second : Bare more) : Bare (text ++ more) :=
  List.forall_mem_append.mpr ⟨first, second⟩

theorem Bare.closed (bare : Bare text) : Closed text := by
  intro depth
  induction text with
  | nil => rfl
  | cons c rest ih =>
    have stays : step (.outside depth) c = some (.outside depth) := by
      simp only [step, (bare c List.mem_cons_self).1]
    rw [read_cons, stays, Option.bind_some]
    exact ih fun _ member => bare _ (List.mem_cons_of_mem _ member)

theorem Bare.quotable (bare : Bare text) (quotes : role quote = .quote) : Quotable quote text := by
  intro depth
  induction text with
  | nil => rfl
  | cons c rest ih =>
    obtain ⟨plain, unescaped⟩ := bare c List.mem_cons_self
    have other : c ≠ quote := by
      rintro rfl
      cases plain.symm.trans quotes
    have stays : step (.inside quote depth) c = some (.inside quote depth) := by
      simp only [step, other, unescaped, ↓reduceIte]
    rw [read_cons, stays, Option.bind_some]
    exact ih fun _ member => bare _ (List.mem_cons_of_mem _ member)

end Bare

/-! ## Quoted texts -/

section Quotes

variable {quote : Char}

theorem quote_for_quotes (text : List Char) : role (quoteFor text) = .quote := by
  unfold quoteFor
  split <;> decide

theorem escape_quotable (quotes : role quote = .quote) (c : Char) :
    Quotable quote [backslash, c] := by
  intro depth
  have other : backslash ≠ quote := by
    rintro rfl
    cases quotes
  simp only [read, List.foldlM_cons, List.foldlM_nil, step, other, ↓reduceIte]
  rfl

theorem character_quotable (ordinary : c ≠ quote) (unescaped : c ≠ backslash) :
    Quotable quote [c] := by
  intro depth
  simp only [read, List.foldlM_cons, List.foldlM_nil, step, ordinary, unescaped, ↓reduceIte]
  rfl

/-- What is escaped stands behind a backslash, and what is not is neither a quote nor a
backslash. -/
theorem escape_common_cases (quote c : Char) :
    (∃ d, escapeCommon? quote c = some [backslash, d]) ∨
      (escapeCommon? quote c = none ∧ c ≠ quote ∧ c ≠ backslash) := by
  unfold escapeCommon?
  split
  · exact .inl ⟨c, rfl⟩
  · rename_i ordinary
    obtain ⟨unquoted, unescaped⟩ := not_or.mp ordinary
    split
    · exact .inl ⟨_, rfl⟩
    · split
      · exact .inl ⟨_, rfl⟩
      · split
        · exact .inl ⟨_, rfl⟩
        · exact .inr ⟨rfl, unquoted, unescaped⟩

theorem hex_bare (width n : Nat) : Bare (hex width n) := by
  induction width generalizing n with
  | zero => exact fun c member => absurd member List.not_mem_nil
  | succ width ih =>
    have digits : Bare ((List.range 16).map hexDigit) := by decide
    have digit : hexDigit (n % 16) ∈ (List.range 16).map hexDigit :=
      List.mem_map_of_mem (List.mem_range.mpr (Nat.mod_lt _ (by decide)))
    exact (ih _).append (List.forall_mem_singleton.mpr (digits _ digit))

theorem hex_quotable (quotes : role quote = .quote) (mark : Char) (width n : Nat) :
    Quotable quote (backslash :: mark :: hex width n) :=
  (escape_quotable quotes mark).append ((hex_bare width n).quotable quotes)

theorem escape_char_quotable (quotes : role quote = .quote) (c : Char) :
    Quotable quote (escapeChar quote c) := by
  obtain ⟨d, escaped⟩ | ⟨unescaped, ordinary⟩ := escape_common_cases quote c
  · simp only [escapeChar, escaped]
    exact escape_quotable quotes d
  · simp only [escapeChar, unescaped]
    split
    · exact character_quotable ordinary.1 ordinary.2
    · split
      · exact hex_quotable quotes _ _ _
      · split <;> exact hex_quotable quotes _ _ _

theorem escape_byte_quotable (quotes : role quote = .quote) (byte : UInt8) :
    Quotable quote (escapeByte quote byte) := by
  obtain ⟨d, escaped⟩ | ⟨unescaped, ordinary⟩ := escape_common_cases quote (Char.ofNat byte.toNat)
  · simp only [escapeByte, escaped]
    exact escape_quotable quotes d
  · simp only [escapeByte, unescaped]
    split
    · exact character_quotable ordinary.1 ordinary.2
    · exact hex_quotable quotes _ _ _

theorem quotable_flat_map {write : α → List Char} (items : List α)
    (quotable : ∀ item, Quotable quote (write item)) : Quotable quote (items.flatMap write) := by
  induction items with
  | nil => exact fun _ => rfl
  | cons item rest ih =>
    rw [List.flatMap_cons]
    exact (quotable item).append ih

theorem quoted_closed (text : String) : Closed (quoted text).toList := by
  have quotes := quote_for_quotes text.toList
  simp only [quoted, String.toList_ofList]
  exact (quotable_flat_map _ (escape_char_quotable quotes)).quoted quotes

theorem quoted_bytes_closed (bytes : List UInt8) : Closed (quotedBytes bytes).toList := by
  have quotes := quote_for_quotes (bytes.map fun byte => Char.ofNat byte.toNat)
  have marked : Bare ['b'] := by decide
  simp only [quotedBytes, String.toList_ofList]
  exact marked.closed.append ((quotable_flat_map _ (escape_byte_quotable quotes)).quoted quotes)

end Quotes

/-! ## Numerals -/

/-- A text that may be a numeral by its characters. -/
def NumeralText (text : List Char) : Prop := ∀ c ∈ text, c.isDigit ∨ c ∈ ['-', '+', '.', 'e', 'E']

instance : DecidablePred NumeralText := fun text => List.decidableBAll _ text

section Numerals

open Number

variable {text more digits : List Char}

theorem NumeralText.append (first : NumeralText text) (second : NumeralText more) :
    NumeralText (text ++ more) :=
  List.forall_mem_append.mpr ⟨first, second⟩

theorem NumeralText.cons (first : NumeralText [c]) (second : NumeralText more) :
    NumeralText (c :: more) :=
  first.append second

theorem NumeralText.part (numeral : NumeralText text) (part : more.Sublist text) :
    NumeralText more :=
  fun c member => numeral c (part.subset member)

theorem digit_bare (digit : c.isDigit) : role c = .plain ∧ c ≠ backslash := by
  have other (d : Char) (none : d.isDigit = false) : c ≠ d := by
    rintro rfl
    rw [none] at digit
    cases digit
  refine ⟨?_, other _ (by decide)⟩
  simp only [role, other apostrophe (by decide), other quotationMark (by decide),
    other '(' (by decide), other '[' (by decide), other '\x7b' (by decide), other ')' (by decide),
    other ']' (by decide), other '\x7d' (by decide), other ',' (by decide), other ':' (by decide),
    or_self, ↓reduceIte]

theorem NumeralText.bare (numeral : NumeralText text) : Bare text := by
  have signs : Bare ['-', '+', '.', 'e', 'E'] := by decide
  intro c member
  obtain digit | sign := numeral c member
  · exact digit_bare digit
  · exact signs c sign

theorem digits_numeral (n : Nat) : NumeralText (Nat.toDigits 10 n) := fun _ member =>
  .inl (Nat.isDigit_of_mem_toDigits (by decide) (by decide) member)

theorem nat_digits (n : Nat) : (toString n).toList = Nat.toDigits 10 n := by
  rw [Nat.toString_eq_repr, Nat.repr, String.toList_ofList]

theorem nat_numeral (n : Nat) : NumeralText (toString n).toList := by
  rw [nat_digits]
  exact digits_numeral n

theorem int_digits (n : Int) :
    ∃ sign digits, (toString n).toList = sign ++ Nat.toDigits 10 digits ∧
      (sign = [] ∨ sign = ['-']) := by
  cases n with
  | ofNat n => exact ⟨[], n, nat_digits n, .inl rfl⟩
  | negSucc n =>
    refine ⟨['-'], n + 1, ?_, .inr rfl⟩
    rw [Int.toString_eq_repr, Int.repr, String.toList_append, ← nat_digits]
    rfl

theorem int_numeral (n : Int) : NumeralText (toString n).toList := by
  obtain ⟨sign, digits, written, rfl | rfl⟩ := int_digits n
  · rw [written]
    exact digits_numeral digits
  · rw [written]
    exact NumeralText.append (by decide) (digits_numeral digits)

theorem zeros_numeral (n : Nat) : NumeralText (List.replicate n '0') := by
  have zero : NumeralText ['0'] := by decide
  intro c member
  exact zero c (List.mem_singleton.mpr (List.eq_of_mem_replicate member))

theorem padded_numeral (width n : Nat) : NumeralText (padded width n) :=
  (zeros_numeral _).append (digits_numeral n)

theorem point_numeral : NumeralText ['.'] := by decide

theorem positional_numeral (numeral : NumeralText digits) (whole : Int) :
    NumeralText (positional digits whole) := by
  unfold positional
  split
  · exact NumeralText.append (.cons (by decide) (.cons point_numeral (zeros_numeral _))) numeral
  · dsimp only
    split
    · exact (numeral.append (zeros_numeral _)).append (by decide)
    · exact (numeral.part (List.take_sublist ..)).append
        (.cons point_numeral (numeral.part (List.drop_sublist ..)))

theorem scientific_numeral (style : DecimalStyle) (numeral : NumeralText digits) (power : Int) :
    NumeralText (style.scientific digits power) := by
  have sign : NumeralText (if power < 0 then ['-'] else if style.plus then ['+'] else []) := by
    split
    · decide
    · split <;> decide
  have first : NumeralText (digits.take 1) := numeral.part (List.take_sublist ..)
  have dropped : NumeralText (digits.drop 1) := numeral.part (List.drop_sublist ..)
  unfold DecimalStyle.scientific
  refine ((first.append ?_).append (.cons (by decide) sign)).append (padded_numeral _ _)
  split
  · decide
  · exact point_numeral.cons dropped

theorem write_numeral (style : DecimalStyle) (negative : Bool) (mantissa : Nat) (exponent : Int) :
    NumeralText (style.write negative mantissa exponent).toList := by
  have sign : NumeralText (if negative then ['-'] else []) := by cases negative <;> decide
  unfold DecimalStyle.write
  dsimp only
  split
  · rw [String.toList_ofList]
    exact sign.append (by decide)
  · rw [String.toList_ofList]
    refine sign.append ?_
    split
    · exact positional_numeral (digits_numeral _) _
    · exact scientific_numeral style (digits_numeral _) _

theorem positional_pointed (digits : List Char) (whole : Int) : '.' ∈ positional digits whole := by
  unfold positional
  split
  · simp
  · dsimp only
    split <;> simp

/-- A finite double is written with a point or an exponent. -/
theorem write_fractional (style : DecimalStyle) (negative : Bool) (mantissa : Nat)
    (exponent : Int) :
    '.' ∈ (style.write negative mantissa exponent).toList ∨
      'e' ∈ (style.write negative mantissa exponent).toList := by
  unfold DecimalStyle.write
  dsimp only
  split
  · simp
  · rw [String.toList_ofList]
    refine Or.imp (List.mem_append_right _) (List.mem_append_right _) ?_
    split
    · exact .inl (positional_pointed _ _)
    · exact .inr (by simp [DecimalStyle.scientific])

theorem pointed_numeral (numeral : NumeralText digits) (dot : Int) :
    NumeralText (if dot ≤ 0 then '0' :: '.' :: List.replicate (-dot).toNat '0' ++ digits
      else if dot.toNat ≥ digits.length then
        digits ++ List.replicate (dot.toNat - digits.length) '0'
      else digits.take dot.toNat ++ '.' :: digits.drop dot.toNat) := by
  split
  · exact NumeralText.append (.cons (by decide) (.cons point_numeral (zeros_numeral _))) numeral
  · split
    · exact numeral.append (zeros_numeral _)
    · exact (numeral.part (List.take_sublist ..)).append
        (.cons point_numeral (numeral.part (List.drop_sublist ..)))

theorem powered_numeral (numeral : NumeralText text) (power : Int) :
    NumeralText (if power = 0 then text
      else text ++ 'E' :: (if power < 0 then '-' else '+') :: Nat.toDigits 10 power.natAbs) := by
  have sign : NumeralText [if power < 0 then '-' else '+'] := by split <;> decide
  split
  · exact numeral
  · exact numeral.append (.cons (by decide) (sign.cons (digits_numeral _)))

theorem finite_text_numeral (coefficient : Nat) (exponent : Int) :
    NumeralText (Decimal.finiteText coefficient exponent) :=
  powered_numeral (pointed_numeral (digits_numeral coefficient) _) _

theorem decimal_text_bare (x : Decimal) : Bare x.text.toList := by
  have sign (negative : Bool) : Bare (Decimal.signText negative) := by cases negative <;> decide
  cases x with
  | finite negative coefficient exponent =>
    rw [Decimal.text, String.toList_ofList]
    exact (sign negative).append (finite_text_numeral coefficient exponent).bare
  | infinity negative =>
    rw [Decimal.text, String.toList_ofList]
    exact (sign negative).append (by decide)
  | nan negative signaling payload =>
    have word : Bare (if signaling then "sNaN" else "NaN").toList := by
      cases signaling <;> decide
    simp only [Decimal.text, String.toList_ofList]
    refine ((sign negative).append word).append ?_
    cases payload with
    | none => decide
    | some n => exact (digits_numeral n).bare

end Numerals

/-! ## Values -/

theorem call_closed {name : String} {fields : List String} (named : Bare name.toList)
    (enclosed : ∀ field ∈ fields, Enclosed field.toList) : Closed (callText name fields).toList := by
  have bracketed : Closed ('(' :: (", ".intercalate fields).toList ++ [')']) :=
    (enclosed_joined enclosed).bracketed rfl rfl
  simp only [callText, String.toList_append, List.append_assoc]
  exact named.closed.append bracketed

theorem number_enclosed (n : Nat) : Enclosed (toString n).toList :=
  (nat_numeral n).bare.closed.enclosed

theorem int_closed (n : Int) : Closed (toString n).toList :=
  (int_numeral n).bare.closed

theorem float_closed (x : Number.Binary64) : Closed (floatLiteral x).toList := by
  cases x with
  | nan => exact Bare.closed (by decide)
  | infinity negative => cases negative <;> exact Bare.closed (by decide)
  | finite negative mantissa exponent =>
    exact (write_numeral literalStyle negative mantissa exponent).bare.closed

theorem offset_closed (offset : Int) : Closed (offsetLiteral offset).toList := by
  unfold offsetLiteral
  split
  · exact Bare.closed (by decide)
  · dsimp only
    refine call_closed (by decide) ?_
    refine List.forall_mem_singleton.mpr (call_closed (by decide) fun field member => ?_).enclosed
    obtain ⟨⟨label, n⟩, known, shown⟩ := List.mem_filterMap.mp member
    have labelled : Bare label.toList := by
      simp only [List.mem_cons, Prod.mk.injEq, List.not_mem_nil, or_false] at known
      obtain ⟨rfl, -⟩ | ⟨rfl, -⟩ | ⟨rfl, -⟩ := known <;> decide
    dsimp only at shown
    split at shown
    · cases shown
    · cases shown
      rw [String.toList_append]
      exact (labelled.closed.append (int_closed n)).enclosed

theorem date_fields_enclosed (date : Number.Date) :
    ∀ field ∈ dateFields date, Enclosed field.toList :=
  List.forall_mem_map.mpr fun n _ => number_enclosed n

theorem clock_fields_enclosed (clock : Number.Clock) :
    ∀ field ∈ clockFields clock, Enclosed field.toList :=
  List.forall_mem_map.mpr fun n _ => number_enclosed n

theorem offset_fields_enclosed (clock : Number.Clock) :
    ∀ field ∈ offsetFields clock, Enclosed field.toList := by
  unfold offsetFields
  cases clock.offset with
  | none => exact fun field member => nomatch member
  | some offset =>
    have marked : Closed "tzinfo=".toList := Bare.closed (by decide)
    refine List.forall_mem_singleton.mpr ?_
    rw [String.toList_append]
    exact (marked.append (offset_closed offset)).enclosed

theorem collection_closed (kind : CollectionKind) {items : List String}
    (closed : ∀ item ∈ items, Closed item.toList) :
    Closed (Value.collectionLiteral kind items).toList := by
  have joined : Enclosed (", ".intercalate items).toList :=
    enclosed_joined fun item member => (closed item member).enclosed
  have braced : Closed ('\x7b' :: (", ".intercalate items).toList ++ ['\x7d']) :=
    joined.bracketed rfl rfl
  unfold Value.collectionLiteral
  split
  · simp only [String.toList_append]
    exact joined.bracketed rfl rfl
  · rename_i item
    have one : Enclosed (item.toList ++ [',']) :=
      (closed item List.mem_cons_self).enclosed.append fun _ => rfl
    have ends : ",)".toList = [','] ++ [')'] := rfl
    rw [String.toList_append, String.toList_append, ends, ← List.append_assoc,
      List.append_assoc _ _ [',']]
    exact one.bracketed rfl rfl
  · simp only [String.toList_append]
    exact joined.bracketed rfl rfl
  · exact fun _ => rfl
  · simp only [String.toList_append]
    exact braced
  · exact fun _ => rfl
  · have named : Closed "frozenset".toList := Bare.closed (by decide)
    have opens : "frozenset(\x7b".toList = "frozenset".toList ++ ['(', '\x7b'] := rfl
    have ends : "\x7d)".toList = ['\x7d', ')'] := rfl
    have bracketed : Closed ('(' :: ('\x7b' :: (", ".intercalate items).toList ++ ['\x7d']) ++
        [')']) := braced.enclosed.bracketed rfl rfl
    simpa only [String.toList_append, opens, ends, List.append_assoc, List.cons_append,
      List.nil_append] using named.append bracketed

/-! A value whose literal is its own. That of an object may be anything, and views of memory all
have the same. -/

mutual
def isSpelled : Value → Bool
  | .bytes .memoryview _ | .object _ => false
  | .collection _ items => areSpelled items
  | .mapping entries => haveSpelled entries
  | _ => true
termination_by structural value => value

def areSpelled : List Value → Bool
  | [] => true
  | item :: rest => isSpelled item && areSpelled rest
termination_by structural items => items

def haveSpelled : List (Value × Value) → Bool
  | [] => true
  | (key, value) :: rest => isSpelled key && isSpelled value && haveSpelled rest
termination_by structural entries => entries
end

mutual
/-- A literal ends where it ends, whatever it stands in. -/
theorem literal_closed : (value : Value) → isSpelled value = true → Closed value.literal.toList
  | .null, _ => fun _ => rfl
  | .bool true, _ => fun _ => rfl
  | .bool false, _ => fun _ => rfl
  | .int n, _ => int_closed n
  | .float x, _ => float_closed x
  | .str text, _ => quoted_closed text
  | .bytes .bytes content, _ => quoted_bytes_closed content
  | .bytes .bytearray content, _ => by
    rw [Value.literal, String.toList_append, String.toList_append, List.append_assoc]
    have inner := (quoted_bytes_closed content).enclosed
    have bracketed : Closed ('(' :: (quotedBytes content).toList ++ [')']) :=
      inner.bracketed rfl rfl
    have named : Closed "bytearray".toList := Bare.closed (by decide)
    exact named.append bracketed
  | .collection kind items, spelled =>
    collection_closed kind (literals_closed items spelled)
  | .range start stop step, _ => by
    rw [Value.literal]
    refine call_closed (by decide) ?_
    have bound (n : Int) : Enclosed (toString n).toList := (int_closed n).enclosed
    have bounds : ∀ text ∈ [toString start, toString stop], Enclosed text.toList :=
      List.forall_mem_cons.mpr ⟨bound start, List.forall_mem_singleton.mpr (bound stop)⟩
    split
    · exact bounds
    · exact List.forall_mem_append.mpr ⟨bounds, List.forall_mem_singleton.mpr (bound step)⟩
  | .mapping entries, spelled => by
    rw [Value.literal, String.toList_append, String.toList_append]
    exact (enclosed_joined (entry_literals_enclosed entries spelled)).bracketed rfl rfl
  | .decimal x, _ => by
    have text : Quotable apostrophe x.text.toList :=
      (decimal_text_bare x).quotable (by decide)
    have named : Closed "Decimal".toList := Bare.closed (by decide)
    have bracketed : Closed ('(' :: (apostrophe :: x.text.toList ++ [apostrophe]) ++ [')']) :=
      (text.quoted rfl).enclosed.bracketed rfl rfl
    have opens : "Decimal('".toList = "Decimal".toList ++ ['(', apostrophe] := rfl
    have ends : "')".toList = [apostrophe, ')'] := rfl
    simpa only [Value.literal, String.toList_append, opens, ends, List.append_assoc,
      List.cons_append, List.nil_append] using named.append bracketed
  | .date date, _ => call_closed (by decide) (date_fields_enclosed date)
  | .datetime date clock, _ => by
    refine call_closed (by decide) ?_
    simp only [List.forall_mem_append]
    exact ⟨⟨date_fields_enclosed date, clock_fields_enclosed clock⟩, offset_fields_enclosed clock⟩
  | .time clock, _ => by
    refine call_closed (by decide) ?_
    simp only [List.forall_mem_append]
    exact ⟨clock_fields_enclosed clock, offset_fields_enclosed clock⟩

theorem literals_closed : (items : List Value) → areSpelled items = true →
    ∀ text ∈ Value.literals items, Closed text.toList
  | [], _ => fun _ member => nomatch member
  | item :: rest, spelled => by
    obtain ⟨first, others⟩ := Bool.and_eq_true_iff.mp spelled
    exact List.forall_mem_cons.mpr ⟨literal_closed item first, literals_closed rest others⟩

theorem entry_literals_enclosed : (entries : List (Value × Value)) → haveSpelled entries = true →
    ∀ text ∈ Value.entryLiterals entries, Enclosed text.toList
  | [], _ => fun _ member => nomatch member
  | (key, value) :: rest, spelled => by
    obtain ⟨entry, others⟩ := Bool.and_eq_true_iff.mp spelled
    obtain ⟨first, second⟩ := Bool.and_eq_true_iff.mp entry
    refine List.forall_mem_cons.mpr ⟨?_, entry_literals_enclosed rest others⟩
    rw [String.toList_append, String.toList_append]
    exact ((literal_closed key first).enclosed.append fun _ => rfl).append
      (literal_closed value second).enclosed
end

end SqlTemplate.LiteralCutting
