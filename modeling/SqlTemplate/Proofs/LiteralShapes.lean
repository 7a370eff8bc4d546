import SqlTemplate.Proofs.LiteralCutting

/-! What literals tell. Since a literal ends where it ends, that of a collection or a mapping is
taken apart into those of what is in it. So values with one literal are of the same types
throughout and hold what they hold in the same order. -/
namespace SqlTemplate.LiteralShapes
open LiteralCutting
open Number

/-! ## Lists of literals -/

/-- What stands between the brackets of a literal: literals, or pairs of them. -/
inductive Item : List Char → Prop
  | single (closed : Closed (c :: text)) : Item (c :: text)
  | entry (first : Closed (c :: key)) (second : Closed value) :
    Item (c :: key ++ ':' :: ' ' :: value)

/-- A character behind an item. -/
def Follows (c : Char) : Prop := c = ',' ∨ role c = .closing

theorem Follows.ends (follows : Follows c) : step (.outside 0) c = none := by
  obtain rfl | closes := follows
  · rfl
  · simp only [step, closes]

theorem Follows.not_colon (follows : Follows c) : c ≠ ':' := by
  rintro rfl
  obtain same | closes := follows
  · cases same
  · cases closes

theorem item_cut (item : Item text) (item' : Item text') (follows : Follows c)
    (follows' : Follows c') (same : text ++ c :: rest = text' ++ c' :: rest') :
    text = text' ∧ c = c' ∧ rest = rest' := by
  have colon : step (.outside 0) ':' = none := rfl
  cases item with
  | single closed =>
    cases item' with
    | single closed' => exact closed_cut closed closed' follows.ends follows'.ends same
    | entry first second =>
      rw [List.append_assoc] at same
      exact absurd (closed_cut closed first follows.ends colon same).2.1 follows.not_colon
  | entry first second =>
    rw [List.append_assoc] at same
    cases item' with
    | single closed' =>
      exact absurd (closed_cut first closed' colon follows'.ends same).2.1.symm follows'.not_colon
    | entry first' second' =>
      rw [List.append_assoc, List.cons_append, List.cons_append] at same
      obtain ⟨keys, -, values⟩ := closed_cut first first' colon colon same
      obtain ⟨rfl, rest⟩ :=
        closed_cut second second' follows.ends follows'.ends (List.cons.inj values).2
      exact ⟨by rw [keys], rest⟩

/-- An item begins with something that is read outside of brackets. -/
theorem item_begins (item : Item text) (follows : Follows c) : text ++ rest ≠ c :: rest' := by
  have begins {d : Char} {more : List Char} (closed : Closed (d :: more)) : d ≠ c := by
    rintro rfl
    have reached := closed 0
    rw [read_cons, follows.ends] at reached
    cases reached
  intro same
  cases item with
  | single closed =>
    rw [List.cons_append, List.cons.injEq] at same
    exact begins closed same.1
  | entry first second =>
    rw [List.cons_append, List.cons_append, List.cons.injEq] at same
    exact begins first same.1

/-- Behind the first of several items comes a comma, and behind the last what ends them all. -/
inductive Tail (c : Char) (rest : List Char) : List String → Char → List Char → Prop
  | last : Tail c rest [] c rest
  | comma (more : List String) (some : more ≠ []) :
    Tail c rest more ',' (' ' :: ((", ".intercalate more).toList ++ c :: rest))

theorem joined_tail (text : String) (more : List String) (c : Char) (rest : List Char) :
    ∃ d tail, Tail c rest more d tail ∧
      (", ".intercalate (text :: more)).toList ++ c :: rest = text.toList ++ d :: tail := by
  cases more with
  | nil => exact ⟨c, rest, .last, by rw [String.intercalate_singleton]⟩
  | cons second more =>
    refine ⟨',', _, .comma _ (List.cons_ne_nil _ _), ?_⟩
    have separator : ", ".toList = [',', ' '] := rfl
    simp only [String.intercalate_cons_cons, String.toList_append, separator, List.append_assoc,
      List.cons_append, List.nil_append]

theorem Tail.follows (closes : role c = .closing) (tail : Tail c rest more d behind) :
    Follows d := by
  cases tail with
  | last => exact .inr closes
  | comma => exact .inl rfl

/-- Items between brackets are told apart by what they make together. -/
theorem joined_cut {texts texts' : List String} (items : ∀ text ∈ texts, Item text.toList)
    (items' : ∀ text ∈ texts', Item text.toList) (closes : role c = .closing)
    (closes' : role c' = .closing)
    (same : (", ".intercalate texts).toList ++ c :: rest =
      (", ".intercalate texts').toList ++ c' :: rest') :
    texts = texts' ∧ c = c' ∧ rest = rest' := by
  induction texts generalizing texts' with
  | nil =>
    cases texts' with
    | nil => simpa using same
    | cons text' more' =>
      obtain ⟨d, tail, -, whole⟩ := joined_tail text' more' c' rest'
      rw [whole] at same
      exact absurd same.symm (item_begins (items' _ List.mem_cons_self) (.inr closes))
  | cons text more ih =>
    obtain ⟨d, tail, goes, whole⟩ := joined_tail text more c rest
    rw [whole] at same
    cases texts' with
    | nil => exact absurd same (item_begins (items _ List.mem_cons_self) (.inr closes'))
    | cons text' more' =>
      obtain ⟨d', tail', goes', whole'⟩ := joined_tail text' more' c' rest'
      rw [whole'] at same
      obtain ⟨first, next, behind⟩ := item_cut (items _ List.mem_cons_self)
        (items' _ List.mem_cons_self) (goes.follows closes) (goes'.follows closes') same
      have first : text = text' := String.toList_inj.mp first
      cases goes with
      | last =>
        cases goes' with
        | last => exact ⟨by rw [first], next, behind⟩
        | comma =>
          rw [next] at closes
          cases closes
      | comma =>
        cases goes' with
        | last =>
          rw [← next] at closes'
          cases closes'
        | comma =>
          obtain ⟨rest, ends⟩ := ih (fun text member => items text (List.mem_cons_of_mem _ member))
            (fun text member => items' text (List.mem_cons_of_mem _ member))
            (List.cons.inj behind).2
          exact ⟨by rw [first, rest], ends⟩

/-! ## Types -/

/-- The type that a literal begins like. Sets and mappings begin alike. -/
def typeOf? : List Char → Option String
  | 'N' :: _ => some "NoneType"
  | 'T' :: _ | 'F' :: _ => some "bool"
  | '\x27' :: _ | '\x22' :: _ => some "str"
  | 'b' :: 'y' :: _ => some "bytearray"
  | 'b' :: _ => some "bytes"
  | '[' :: _ => some "list"
  | '(' :: _ => some "tuple"
  | 's' :: _ => some "set"
  | 'f' :: _ => some "frozenset"
  | 'r' :: _ => some "range"
  | 'D' :: _ => some "Decimal"
  | 'd' :: rest =>
    match rest.drop 8 with
    | 't' :: _ => some "time"
    | 'd' :: 'a' :: 't' :: 'e' :: '(' :: _ => some "date"
    | _ => some "datetime"
  | '\x7b' :: _ => none
  | text => if text.any fun c => c == '.' || c == 'e' || c == 'n' then some "float" else some "int"

theorem numeral_type (numeral : NumeralText text) :
    typeOf? text =
      if text.any fun c => c == '.' || c == 'e' || c == 'n' then some "float" else some "int" := by
  have other (c : Char) (rest : List Char) (letter : ¬ NumeralText [c]) : text ≠ c :: rest := by
    rintro rfl
    exact letter (List.forall_mem_singleton.mpr (numeral c List.mem_cons_self))
  unfold typeOf?
  split
  all_goals first | rfl | exact absurd rfl (other _ _ (by decide))

theorem int_type (n : Int) : typeOf? (toString n).toList = some "int" := by
  obtain ⟨sign, digits, written, signed⟩ := int_digits n
  have whole (mark : Char) (digit : mark.isDigit = false) (sign : mark ≠ '-') :
      mark ∉ (toString n).toList := by
    intro member
    rw [written, List.mem_append] at member
    obtain member | member := member
    · obtain rfl | rfl := signed
      · cases member
      · exact sign (List.mem_singleton.mp member)
    · rw [Nat.isDigit_of_mem_toDigits (by decide) (by decide) member] at digit
      cases digit
  rw [numeral_type (int_numeral n), if_neg]
  rw [List.any_eq_true]
  rintro ⟨c, member, mark⟩
  simp only [Bool.or_eq_true, beq_iff_eq] at mark
  obtain (rfl | rfl) | rfl := mark <;> exact whole _ (by decide) (by decide) member

theorem float_type (x : Binary64) : typeOf? (floatLiteral x).toList = some "float" := by
  cases x with
  | nan => rfl
  | infinity negative => cases negative <;> rfl
  | finite negative mantissa exponent =>
    rw [floatLiteral, numeral_type (write_numeral literalStyle negative mantissa exponent), if_pos]
    rw [List.any_eq_true]
    obtain point | power := write_fractional literalStyle negative mantissa exponent
    · exact ⟨_, point, rfl⟩
    · exact ⟨_, power, rfl⟩

/-- A set or a mapping that is written between braces. -/
def isBraced : Value → Bool
  | .collection .set (_ :: _) | .mapping _ => true
  | _ => false

/-- Unless it stands in braces, a literal tells its type at once. -/
theorem literal_type (value : Value) (spelled : isSpelled value = true) :
    typeOf? value.literal.toList = if isBraced value then none else some value.typeName := by
  cases value with
  | null => rfl
  | bool b => cases b <;> rfl
  | int n => exact int_type n
  | float x => exact float_type x
  | str text =>
    simp only [Value.literal, Text.quoted, String.toList_ofList]
    unfold Text.quoteFor
    split <;> rfl
  | bytes kind content =>
    cases kind with
    | bytes =>
      simp only [Value.literal, Text.quotedBytes, String.toList_ofList]
      unfold Text.quoteFor
      split <;> rfl
    | bytearray =>
      rw [Value.literal, String.toList_append, String.toList_append]
      rfl
    | memoryview => cases spelled
  | collection kind items =>
    rw [Value.literal]
    cases kind with
    | list =>
      rw [Value.collectionLiteral, String.toList_append, String.toList_append]
      rfl
    | tuple =>
      obtain _ | ⟨first, _ | ⟨second, rest⟩⟩ := items
      all_goals
        simp only [Value.literals, Value.collectionLiteral, String.toList_append]
        rfl
    | set =>
      cases items with
      | nil => rfl
      | cons first rest =>
        simp only [Value.literals, Value.collectionLiteral, String.toList_append]
        rfl
    | frozenset =>
      cases items with
      | nil => rfl
      | cons first rest =>
        simp only [Value.literals, Value.collectionLiteral, String.toList_append]
        rfl
  | range start stop step =>
    rw [Value.literal, callText, String.toList_append, String.toList_append]
    rfl
  | mapping entries =>
    rw [Value.literal, String.toList_append, String.toList_append]
    rfl
  | decimal x =>
    rw [Value.literal, String.toList_append, String.toList_append]
    rfl
  | date date =>
    rw [Value.literal, callText, String.toList_append, String.toList_append]
    rfl
  | datetime date clock =>
    rw [Value.literal, callText, String.toList_append, String.toList_append]
    rfl
  | time clock =>
    rw [Value.literal, callText, String.toList_append, String.toList_append]
    rfl
  | object text => cases spelled

theorem literal_some {value : Value} (spelled : isSpelled value = true) :
    value.literal.toList ≠ [] := by
  intro empty
  have type := literal_type value spelled
  rw [empty] at type
  cases value with
  | int n =>
    rw [Value.literal] at empty
    cases n with
    | ofNat n => exact Nat.toDigits_ne_nil ((nat_digits n).symm.trans empty)
    | negSucc n =>
      rw [Int.toString_eq_repr, Int.repr, String.toList_append] at empty
      cases empty
  | bytes kind content => cases kind <;> simp [typeOf?, isBraced, Value.typeName] at type
  | collection kind items =>
    cases kind with
    | set => cases items <;> simp [typeOf?, isBraced, Value.typeName] at type
    | _ => simp [typeOf?, isBraced, Value.typeName] at type
  | _ => simp [typeOf?, isBraced, Value.typeName] at type

theorem literal_item {value : Value} (spelled : isSpelled value = true) :
    Item value.literal.toList := by
  have closed := literal_closed value spelled
  cases text : value.literal.toList with
  | nil => exact absurd text (literal_some spelled)
  | cons c rest =>
    rw [text] at closed
    exact .single closed

theorem literal_items {items : List Value} (spelled : areSpelled items = true) :
    ∀ text ∈ Value.literals items, Item text.toList := by
  induction items with
  | nil => exact fun text member => absurd member List.not_mem_nil
  | cons item rest ih =>
    obtain ⟨first, others⟩ := Bool.and_eq_true_iff.mp spelled
    exact List.forall_mem_cons.mpr ⟨literal_item first, ih others⟩

theorem entry_literal_items {entries : List (Value × Value)} (spelled : haveSpelled entries = true) :
    ∀ text ∈ Value.entryLiterals entries, Item text.toList := by
  induction entries with
  | nil => exact fun text member => absurd member List.not_mem_nil
  | cons entry rest ih =>
    obtain ⟨key, value⟩ := entry
    obtain ⟨both, others⟩ := Bool.and_eq_true_iff.mp spelled
    obtain ⟨first, second⟩ := Bool.and_eq_true_iff.mp both
    refine List.forall_mem_cons.mpr ⟨?_, ih others⟩
    have separator : ": ".toList = [':', ' '] := rfl
    have closed := literal_closed key first
    have behind := literal_closed value second
    rw [String.toList_append, String.toList_append, separator, List.append_assoc]
    cases text : key.literal.toList with
    | nil => exact absurd text (literal_some first)
    | cons c rest =>
      rw [text] at closed
      exact .entry closed behind

/-! ## Values that are written alike -/

mutual
/-- Values are written alike when they are of the same types throughout, what is in them is in the
same order, and the literals of single values are the same. -/
def Alike : Value → Value → Prop
  | .collection kind xs, .collection kind' ys => kind = kind' ∧ AlikeEach xs ys
  | .mapping xs, .mapping ys => AlikeEntries xs ys
  | a, b => a.typeName = b.typeName ∧ a.literal = b.literal
termination_by structural a => a

def AlikeEach : List Value → List Value → Prop
  | [], [] => True
  | x :: xs, y :: ys => Alike x y ∧ AlikeEach xs ys
  | _, _ => False
termination_by structural xs => xs

def AlikeEntries : List (Value × Value) → List (Value × Value) → Prop
  | [], [] => True
  | (key, value) :: rest, (key', value') :: rest' =>
    Alike key key' ∧ Alike value value' ∧ AlikeEntries rest rest'
  | _, _ => False
termination_by structural xs => xs
end

section Joined

variable {texts texts' : List String}

/-- Between the same brackets stand the same items. -/
theorem bracketed_inj (items : ∀ text ∈ texts, Item text.toList)
    (items' : ∀ text ∈ texts', Item text.toList) {before after : String} {c : Char}
    {rest : List Char} (ends : after.toList = c :: rest) (closes : role c = .closing)
    (same : before ++ ", ".intercalate texts ++ after =
      before ++ ", ".intercalate texts' ++ after) : texts = texts' := by
  have same := congrArg String.toList same
  simp only [String.toList_append, ends, List.append_assoc, List.append_cancel_left_eq] at same
  exact (joined_cut items items' closes closes same).1

/-- A tuple of one item has a comma behind it, which no other tuple has before its end. -/
theorem single_tuple_apart (item : Item text.toList) (items : ∀ text ∈ texts, Item text.toList)
    (several : texts.length ≠ 1) :
    "(" ++ text ++ ",)" ≠ "(" ++ ", ".intercalate texts ++ ")" := by
  intro same
  have ends : ",)".toList = [',', ')'] := rfl
  have ends' : ")".toList = [')'] := rfl
  have same := congrArg String.toList same
  simp only [String.toList_append, ends, ends', List.append_assoc,
    List.append_cancel_left_eq] at same
  cases texts with
  | nil => exact item_begins item (.inr rfl) same
  | cons first more =>
    obtain ⟨d, tail, goes, whole⟩ := joined_tail first more ')' []
    rw [whole] at same
    obtain ⟨-, -, behind⟩ :=
      item_cut item (items first List.mem_cons_self) (.inl rfl) (goes.follows rfl) same
    cases goes with
    | last => exact several rfl
    | comma => cases behind

theorem tuple_literal (several : texts.length ≠ 1) :
    Value.collectionLiteral .tuple texts = "(" ++ ", ".intercalate texts ++ ")" := by
  obtain _ | ⟨first, _ | ⟨second, rest⟩⟩ := texts
  · rfl
  · exact absurd rfl several
  · rfl

/-- Sets without elements are not written with braces. -/
theorem empty_set_apart (more : String) :
    "set()" ≠ "\x7b" ++ more ++ "\x7d" ∧ "frozenset()" ≠ "frozenset(\x7b" ++ more ++ "\x7d)" := by
  constructor <;>
    (intro same
     have same := congrArg String.toList same
     rw [String.toList_append, String.toList_append] at same
     cases same)

/-- A collection of a kind is told by the literals of its elements. -/
theorem collection_literal_inj (items : ∀ text ∈ texts, Item text.toList)
    (items' : ∀ text ∈ texts', Item text.toList) (kind : CollectionKind)
    (same : Value.collectionLiteral kind texts = Value.collectionLiteral kind texts') :
    texts = texts' := by
  cases kind with
  | list => exact bracketed_inj items items' rfl rfl same
  | tuple =>
    by_cases several : texts.length ≠ 1
    · by_cases several' : texts'.length ≠ 1
      · rw [tuple_literal several, tuple_literal several'] at same
        exact bracketed_inj items items' rfl rfl same
      · obtain ⟨text', rfl⟩ := List.length_eq_one_iff.mp (not_not.mp several')
        rw [tuple_literal several] at same
        exact absurd same.symm (single_tuple_apart (items' text' List.mem_cons_self) items several)
    · obtain ⟨text, rfl⟩ := List.length_eq_one_iff.mp (not_not.mp several)
      by_cases several' : texts'.length ≠ 1
      · rw [tuple_literal several'] at same
        exact absurd same (single_tuple_apart (items text List.mem_cons_self) items' several')
      · obtain ⟨text', rfl⟩ := List.length_eq_one_iff.mp (not_not.mp several')
        have same := congrArg String.toList same
        simp only [Value.collectionLiteral, String.toList_append, List.append_assoc,
          List.append_cancel_left_eq, List.append_cancel_right_eq] at same
        rw [String.toList_inj.mp same]
  | set =>
    cases texts with
    | nil =>
      cases texts' with
      | nil => rfl
      | cons => exact absurd same (empty_set_apart _).1
    | cons =>
      cases texts' with
      | nil => exact absurd same.symm (empty_set_apart _).1
      | cons => exact bracketed_inj items items' rfl rfl same
  | frozenset =>
    cases texts with
    | nil =>
      cases texts' with
      | nil => rfl
      | cons => exact absurd same (empty_set_apart _).2
    | cons =>
      cases texts' with
      | nil => exact absurd same.symm (empty_set_apart _).2
      | cons => exact bracketed_inj items items' rfl rfl same

end Joined

/-- A literal in braces tells a set from a mapping by its first item. -/
theorem set_not_mapping {items : List Value} {entries : List (Value × Value)} {item : Value}
    (spelled : areSpelled (item :: items) = true) (spelled' : haveSpelled entries = true) :
    (Value.collection .set (item :: items)).literal ≠ (Value.mapping entries).literal := by
  intro same
  have same : "\x7b" ++ ", ".intercalate (Value.literals (item :: items)) ++ "\x7d" =
      "\x7b" ++ ", ".intercalate (Value.entryLiterals entries) ++ "\x7d" := same
  have same := bracketed_inj (literal_items spelled) (entry_literal_items spelled') rfl rfl same
  cases entries with
  | nil => cases same
  | cons entry rest =>
    obtain ⟨key, value⟩ := entry
    obtain ⟨first, -⟩ := Bool.and_eq_true_iff.mp spelled
    obtain ⟨both, -⟩ := Bool.and_eq_true_iff.mp spelled'
    obtain ⟨key_spelled, -⟩ := Bool.and_eq_true_iff.mp both
    have closed := literal_closed item first
    have separator : ": ".toList = [':', ' '] := rfl
    rw [(List.cons.inj same).1, String.toList_append, String.toList_append, separator,
      List.append_assoc] at closed
    exact not_closed_beyond (literal_closed key key_spelled) rfl _ closed

theorem braced_cases {value : Value} (braced : isBraced value = true) :
    (∃ item items, value = .collection .set (item :: items)) ∨
      ∃ entries, value = .mapping entries := by
  unfold isBraced at braced
  split at braced
  · exact .inl ⟨_, _, rfl⟩
  · exact .inr ⟨_, rfl⟩
  · cases braced

theorem literal_tells_type {a b : Value} (spelled : isSpelled a = true)
    (spelled' : isSpelled b = true) (same : a.literal = b.literal) : a.typeName = b.typeName := by
  have type := literal_type a spelled
  rw [same, literal_type b spelled'] at type
  cases braced : isBraced a with
  | false =>
    cases braced' : isBraced b with
    | false => simpa [braced, braced'] using type.symm
    | true => simp [braced, braced'] at type
  | true =>
    cases braced' : isBraced b with
    | false => simp [braced, braced'] at type
    | true =>
      obtain ⟨item, items, rfl⟩ | ⟨entries, rfl⟩ := braced_cases braced
      · obtain ⟨item', items', rfl⟩ | ⟨entries', rfl⟩ := braced_cases braced'
        · rfl
        · exact absurd same (set_not_mapping spelled spelled')
      · obtain ⟨item', items', rfl⟩ | ⟨entries', rfl⟩ := braced_cases braced'
        · exact absurd same.symm (set_not_mapping spelled' spelled)
        · rfl

/-- A key and its value are told from what they make together. -/
theorem entry_text_iff {key key' value value' : String} (closed : Closed key.toList)
    (closed' : Closed key'.toList) :
    key ++ ": " ++ value = key' ++ ": " ++ value' ↔ key = key' ∧ value = value' := by
  constructor
  · intro same
    have separator : ": ".toList = [':', ' '] := rfl
    have same := congrArg String.toList same
    simp only [String.toList_append, separator, List.append_assoc] at same
    obtain ⟨keys, -, values⟩ := closed_cut closed closed' rfl rfl same
    exact ⟨String.toList_inj.mp keys, String.toList_inj.mp (List.cons.inj values).2⟩
  · rintro ⟨rfl, rfl⟩
    rfl

/-- Values that are not both collections and not both mappings. -/
theorem single_literal_iff {a b : Value} (spelled : isSpelled a = true)
    (spelled' : isSpelled b = true)
    (single : Alike a b ↔ a.typeName = b.typeName ∧ a.literal = b.literal) :
    a.literal = b.literal ↔ Alike a b :=
  ⟨fun same => single.mpr ⟨literal_tells_type spelled spelled' same, same⟩,
    fun alike => (single.mp alike).2⟩

theorem kind_of_type {kind kind' : CollectionKind} {xs ys : List Value}
    (same : (Value.collection kind xs).typeName = (Value.collection kind' ys).typeName) :
    kind = kind' := by
  cases kind <;> cases kind' <;> first | rfl | simp [Value.typeName] at same

mutual
/-- Literals are the same just when values are written alike. -/
theorem literal_eq_iff (a b : Value) (spelled : isSpelled a = true) (spelled' : isSpelled b = true) :
    a.literal = b.literal ↔ Alike a b := by
  cases a with
  | collection kind xs =>
    cases b with
    | collection kind' ys =>
      rw [Alike, ← literals_eq_iff xs ys spelled spelled']
      constructor
      · intro same
        obtain rfl := kind_of_type (literal_tells_type spelled spelled' same)
        exact ⟨rfl,
          collection_literal_inj (literal_items spelled) (literal_items spelled') kind same⟩
      · rintro ⟨rfl, same⟩
        rw [Value.literal, Value.literal, same]
    | _ => exact single_literal_iff spelled spelled' Iff.rfl
  | mapping xs =>
    cases b with
    | mapping ys =>
      rw [Alike, ← entry_literals_eq_iff xs ys spelled spelled']
      constructor
      · intro same
        exact bracketed_inj (entry_literal_items spelled) (entry_literal_items spelled') rfl rfl
          same
      · intro same
        rw [Value.literal, Value.literal, same]
    | _ => exact single_literal_iff spelled spelled' Iff.rfl
  | _ => exact single_literal_iff spelled spelled' Iff.rfl
termination_by structural a

theorem literals_eq_iff : (xs ys : List Value) → areSpelled xs = true → areSpelled ys = true →
    (Value.literals xs = Value.literals ys ↔ AlikeEach xs ys)
  | [], [], _, _ => by simp [Value.literals, AlikeEach]
  | [], _ :: _, _, _ => by simp [Value.literals, AlikeEach]
  | _ :: _, [], _, _ => by simp [Value.literals, AlikeEach]
  | x :: xs, y :: ys, spelled, spelled' => by
    obtain ⟨first, others⟩ := Bool.and_eq_true_iff.mp spelled
    obtain ⟨first', others'⟩ := Bool.and_eq_true_iff.mp spelled'
    rw [Value.literals, Value.literals, List.cons.injEq, AlikeEach, literal_eq_iff x y first first',
      literals_eq_iff xs ys others others']
termination_by structural xs => xs

theorem entry_literals_eq_iff : (xs ys : List (Value × Value)) → haveSpelled xs = true →
    haveSpelled ys = true → (Value.entryLiterals xs = Value.entryLiterals ys ↔ AlikeEntries xs ys)
  | [], [], _, _ => by simp [Value.entryLiterals, AlikeEntries]
  | [], _ :: _, _, _ => by simp [Value.entryLiterals, AlikeEntries]
  | _ :: _, [], _, _ => by simp [Value.entryLiterals, AlikeEntries]
  | (key, value) :: xs, (key', value') :: ys, spelled, spelled' => by
    obtain ⟨both, others⟩ := Bool.and_eq_true_iff.mp spelled
    obtain ⟨both', others'⟩ := Bool.and_eq_true_iff.mp spelled'
    obtain ⟨first, second⟩ := Bool.and_eq_true_iff.mp both
    obtain ⟨first', second'⟩ := Bool.and_eq_true_iff.mp both'
    rw [Value.entryLiterals, Value.entryLiterals, List.cons.injEq, AlikeEntries,
      ← literal_eq_iff key key' first first', ← literal_eq_iff value value' second second',
      ← entry_literals_eq_iff xs ys others others',
      entry_text_iff (literal_closed key first) (literal_closed key' first'), and_assoc]
termination_by structural xs => xs
end

end SqlTemplate.LiteralShapes
