import SqlTemplate.Proofs.KeyEquality

/-! Mappings that are made from pairs. There is one item for each key that equals no key before, in
the order of the pairs, and its value is that of the last pair whose key equals it. -/
namespace SqlTemplate.GatheredItems
open KeyEquality

/-- The key at a place equals no key before. -/
def IsNew (pairs : List (Value × Value)) (place : Nat) : Prop :=
  ∃ pair, pairs[place]? = some pair ∧
    ∀ before < place, ∀ other, pairs[before]? = some other → other.1.equals pair.1 = false

/-- The item of a key that first came at a place: the key as it was then, and the value that came
last, with this key or one that it equals. -/
structure ItemOf (pairs : List (Value × Value)) (place : Nat) (item : Value × Value) : Prop where
  key : ∃ value, pairs[place]? = some (item.1, value)
  last : ∃ late key, pairs[late]? = some (key, item.2) ∧
    (late = place ∨ place < late ∧ item.1.equals key = true) ∧
    ∀ later > late, ∀ pair, pairs[later]? = some pair → item.1.equals pair.1 = false

/-- What pairs become: one item for each place where a key is new. -/
structure Gathers (pairs items : List (Value × Value)) (places : List Nat) : Prop where
  ascending : places.Pairwise (· < ·)
  new : ∀ place, place ∈ places ↔ IsNew pairs place
  made : List.Forall₂ (ItemOf pairs) places items
  apart : Apart (items.map Prod.fst)
  /-- Every key of the pairs is kept or equal to one that is. -/
  found : ∀ pair ∈ pairs, ∃ key ∈ items.map Prod.fst, key = pair.1 ∨ key.equals pair.1 = true

/-! ## One pair more -/

section Snoc
variable {pairs items : List (Value × Value)} {place : Nat} {key value : Value}

theorem inside (found : pairs[place]? = some pair) : place < pairs.length :=
  (List.getElem?_eq_some_iff.mp found).1

theorem still_there (found : pairs[place]? = some pair) (last : Value × Value) :
    (pairs ++ [last])[place]? = some pair := by
  rw [List.getElem?_append_left (inside found), found]

theorem there_or_last {last : Value × Value} (found : (pairs ++ [last])[place]? = some pair) :
    pairs[place]? = some pair ∨ place = pairs.length ∧ pair = last := by
  rcases Nat.lt_trichotomy place pairs.length with front | rfl | beyond
  · rw [List.getElem?_append_left front] at found
    exact .inl found
  · rw [List.getElem?_concat_length] at found
    exact .inr ⟨rfl, (Option.some.inj found).symm⟩
  · have bound := inside found
    simp only [List.length_append, List.length_singleton] at bound
    omega

/-- A later pair with another key does not concern an item. -/
theorem ItemOf.kept (made : ItemOf pairs place item) (other : item.1.equals key = false)
    (value : Value) : ItemOf (pairs ++ [(key, value)]) place item := by
  obtain ⟨⟨first, own⟩, late, last, here, after, none⟩ := made
  refine ⟨⟨first, still_there own _⟩, late, last, still_there here _, after, ?_⟩
  intro later beyond pair found
  rcases there_or_last found with old | ⟨-, rfl⟩
  · exact none later beyond pair old
  · exact other

/-- A later pair with an equal key gives the item its value. -/
theorem ItemOf.renewed (made : ItemOf pairs place item) (same : item.1.equals key = true)
    (value : Value) : ItemOf (pairs ++ [(key, value)]) place (item.1, value) := by
  obtain ⟨⟨first, own⟩, -⟩ := made
  refine ⟨⟨first, still_there own _⟩, pairs.length, key, List.getElem?_concat_length,
    .inr ⟨inside own, same⟩, ?_⟩
  intro later beyond pair found
  rcases there_or_last found with old | ⟨rfl, -⟩
  · exact absurd (inside old) (Nat.not_lt.mpr (Nat.le_of_lt beyond))
  · exact absurd beyond (Nat.lt_irrefl _)

/-- A pair with a new key has an item of its own. -/
theorem item_of_last (pairs : List (Value × Value)) (key value : Value) :
    ItemOf (pairs ++ [(key, value)]) pairs.length (key, value) := by
  refine ⟨⟨value, List.getElem?_concat_length⟩, pairs.length, key, List.getElem?_concat_length,
    .inl rfl, ?_⟩
  intro later beyond pair found
  have bound := inside found
  simp only [List.length_append, List.length_singleton] at bound
  omega

theorem new_still_iff (front : place < pairs.length) (last : Value × Value) :
    IsNew (pairs ++ [last]) place ↔ IsNew pairs place := by
  constructor
  · rintro ⟨pair, here, new⟩
    rw [List.getElem?_append_left front] at here
    exact ⟨pair, here, fun before earlier other found =>
      new before earlier other (still_there found last)⟩
  · rintro ⟨pair, here, new⟩
    refine ⟨pair, still_there here last, fun before earlier other found => ?_⟩
    rw [List.getElem?_append_left (Nat.lt_trans earlier front)] at found
    exact new before earlier other found

theorem new_last_iff (pairs : List (Value × Value)) (key value : Value) :
    IsNew (pairs ++ [(key, value)]) pairs.length ↔ ∀ pair ∈ pairs, pair.1.equals key = false := by
  constructor
  · rintro ⟨last, here, new⟩ pair member
    rw [List.getElem?_concat_length] at here
    cases here
    obtain ⟨before, found⟩ := List.mem_iff_getElem?.mp member
    exact new before (inside found) pair (still_there found _)
  · intro new
    refine ⟨_, List.getElem?_concat_length, fun before earlier other found => ?_⟩
    rw [List.getElem?_append_left earlier] at found
    exact new other (List.mem_of_getElem? found)

theorem place_inside (new : IsNew pairs place) : place < pairs.length := by
  obtain ⟨pair, here, -⟩ := new
  exact inside here

end Snoc

/-! ## Putting in -/

theorem put_fresh (fresh : ∀ item ∈ items, Value.equals item.1 key = false) (value : Value) :
    Value.put items key value = items ++ [(key, value)] := by
  induction items with
  | nil => rfl
  | cons item items ih =>
    rw [Value.put, fresh item List.mem_cons_self,
      ih fun other member => fresh other (List.mem_cons_of_mem _ member)]
    rfl

theorem put_known_keys (known : ∃ item ∈ items, Value.equals item.1 key = true) (value : Value) :
    (Value.put items key value).map Prod.fst = items.map Prod.fst := by
  induction items with
  | nil =>
    obtain ⟨_, member, -⟩ := known
    cases member
  | cons item items ih =>
    rw [Value.put]
    split
    · rfl
    · rename_i differ
      obtain ⟨other, member, same⟩ := known
      rcases List.mem_cons.mp member with rfl | later
      · exact absurd same differ
      · rw [List.map_cons, List.map_cons, ih ⟨other, later, same⟩]

theorem lookup_some_iff (items : List (Value × Value)) (key : Value) :
    (Value.lookup? items key).isSome = true ↔
      ∃ own ∈ items.map Prod.fst, Value.equals own key = true := by
  rw [Value.lookup?, Option.isSome_map, List.find?_isSome]
  simp

theorem items_kept (each : List.Forall₂ (ItemOf pairs) places items)
    (fresh : ∀ item ∈ items, item.1.equals key = false) (value : Value) :
    List.Forall₂ (ItemOf (pairs ++ [(key, value)])) places items := by
  induction each with
  | nil => exact .nil
  | cons made rest ih =>
    exact .cons (made.kept (fresh _ List.mem_cons_self) value)
      (ih fun item member => fresh item (List.mem_cons_of_mem _ member))

/-- The first item whose key equals the key of the pair is the only one. -/
theorem items_put (each : List.Forall₂ (ItemOf pairs) places items)
    (apart : Apart (items.map Prod.fst)) (consistent : ∀ item ∈ items, Consistent item.1)
    (known : ∃ item ∈ items, item.1.equals key = true) (value : Value) :
    List.Forall₂ (ItemOf (pairs ++ [(key, value)])) places (Value.put items key value) := by
  induction each with
  | nil =>
    obtain ⟨_, member, -⟩ := known
    cases member
  | @cons place item places items made rest ih =>
    rw [Apart, List.map_cons, List.pairwise_cons] at apart
    by_cases same : item.1.equals key = true
    · have others : ∀ other ∈ items, other.1.equals key = false := by
        intro other member
        rw [Bool.eq_false_iff]
        intro same'
        have back := (consistent other (List.mem_cons_of_mem _ member)).back key same'
        have equal := (consistent item List.mem_cons_self).onward key other.1 same back
        have differ := apart.1 other.1 (List.mem_map_of_mem member)
        cases equal.symm.trans differ
      rw [Value.put, if_pos same]
      exact .cons (made.renewed same value) (items_kept rest others value)
    · rw [Value.put, if_neg same]
      refine .cons (made.kept (by simpa using same) value) (ih apart.2 ?_ ?_)
      · exact fun other member => consistent other (List.mem_cons_of_mem _ member)
      · obtain ⟨other, member, same'⟩ := known
        rcases List.mem_cons.mp member with rfl | later
        · exact absurd same' same
        · exact ⟨other, later, same'⟩

/-! ## Whole mappings -/

section Pairs
variable {pairs items : List (Value × Value)} {places : List Nat} {place : Nat} {key value : Value}

theorem entries_of_snoc (pairs : List (Value × Value)) (pair : Value × Value) :
    Value.entriesOf (pairs ++ [pair]) = Value.put (Value.entriesOf pairs) pair.1 pair.2 := by
  simp only [Value.entriesOf, List.foldl_append, List.foldl_cons, List.foldl_nil]

theorem item_made (each : List.Forall₂ (ItemOf pairs) places items) (member : item ∈ items) :
    ∃ place ∈ places, ItemOf pairs place item := by
  induction each with
  | nil => cases member
  | cons made rest ih =>
    rcases List.mem_cons.mp member with rfl | later
    · exact ⟨_, List.mem_cons_self, made⟩
    · obtain ⟨place, among, made⟩ := ih later
      exact ⟨place, List.mem_cons_of_mem _ among, made⟩

/-- The keys of the items are keys of the pairs. -/
theorem item_key (gathers : Gathers pairs items places) (member : item ∈ items) :
    ∃ pair ∈ pairs, pair.1 = item.1 := by
  obtain ⟨place, -, ⟨⟨first, own⟩, -⟩⟩ := item_made gathers.made member
  exact ⟨_, List.mem_of_getElem? own, rfl⟩

/-- A pair whose key is known opens no place. -/
theorem gathers_known (gathers : Gathers pairs items places)
    (consistent : ∀ item ∈ items, Consistent item.1)
    (known : ∃ item ∈ items, item.1.equals key = true) (value : Value) :
    Gathers (pairs ++ [(key, value)]) (Value.put items key value) places := by
  have keys := put_known_keys known value
  refine ⟨gathers.ascending, fun place => ?_, ?_, keys ▸ gathers.apart, ?_⟩
  · rw [gathers.new]
    constructor
    · intro new
      exact (new_still_iff (place_inside new) _).mpr new
    · intro new
      have bound := place_inside new
      rw [List.length_append, List.length_singleton] at bound
      rcases Nat.lt_or_eq_of_le (Nat.le_of_lt_succ bound) with front | rfl
      · exact (new_still_iff front _).mp new
      · obtain ⟨item, member, same⟩ := known
        obtain ⟨pair, among, own⟩ := item_key gathers member
        have differ := (new_last_iff pairs key value).mp new pair among
        rw [own, same] at differ
        cases differ
  · exact items_put gathers.made gathers.apart consistent known value
  · intro pair member
    rw [keys]
    rw [List.mem_append, List.mem_singleton] at member
    rcases member with old | rfl
    · exact gathers.found pair old
    · obtain ⟨item, member, same⟩ := known
      exact ⟨item.1, List.mem_map_of_mem member, .inr same⟩

/-- A pair whose key is not known opens the last place. -/
theorem gathers_fresh (gathers : Gathers pairs items places)
    (consistent : ∀ item ∈ items, Consistent item.1)
    (fresh : ∀ item ∈ items, item.1.equals key = false) (value : Value) :
    Gathers (pairs ++ [(key, value)]) (items ++ [(key, value)]) (places ++ [pairs.length]) := by
  have front : ∀ place ∈ places, place < pairs.length := fun place member =>
    place_inside ((gathers.new place).mp member)
  have differs : ∀ kept ∈ items.map Prod.fst, kept.equals key = false := by
    intro kept member
    obtain ⟨item, among, rfl⟩ := List.mem_map.mp member
    exact fresh item among
  refine ⟨?_, fun place => ?_, ?_, ?_, ?_⟩
  · rw [List.pairwise_append]
    refine ⟨gathers.ascending, List.pairwise_singleton _ _, fun place member last same => ?_⟩
    rw [List.mem_singleton.mp same]
    exact front place member
  · rw [List.mem_append, List.mem_singleton]
    constructor
    · rintro (old | rfl)
      · exact (new_still_iff (front place old) _).mpr ((gathers.new place).mp old)
      · refine (new_last_iff pairs key value).mpr fun pair member => ?_
        obtain ⟨kept, among, rfl | same⟩ := gathers.found pair member
        · exact differs _ among
        · rw [Bool.eq_false_iff]
          intro same'
          obtain ⟨item, among', rfl⟩ := List.mem_map.mp among
          have equal := (consistent item among').onward pair.1 key same same'
          cases equal.symm.trans (fresh item among')
    · intro new
      have bound := place_inside new
      rw [List.length_append, List.length_singleton] at bound
      rcases Nat.lt_or_eq_of_le (Nat.le_of_lt_succ bound) with inner | last
      · exact .inl ((gathers.new place).mpr ((new_still_iff inner _).mp new))
      · exact .inr last
  · exact List.rel_append (items_kept gathers.made fresh value)
      (.cons (item_of_last pairs key value) .nil)
  · rw [Apart, List.map_append, List.pairwise_append]
    refine ⟨gathers.apart, List.pairwise_singleton _ _, fun kept member last same => ?_⟩
    rw [List.map_singleton, List.mem_singleton] at same
    rw [same]
    exact differs kept member
  · intro pair member
    rw [List.map_append]
    rw [List.mem_append, List.mem_singleton] at member
    rcases member with old | rfl
    · obtain ⟨kept, among, same⟩ := gathers.found pair old
      exact ⟨kept, List.mem_append_left _ among, same⟩
    · exact ⟨key, List.mem_append_right _ List.mem_cons_self, .inl rfl⟩

/-- Pairs with consistent keys are gathered, whatever they repeat. -/
theorem entries_gather (consistent : ∀ pair ∈ pairs, Consistent pair.1) :
    ∃ places, Gathers pairs (Value.entriesOf pairs) places := by
  induction pairs using List.reverseRecOn with
  | nil =>
    refine ⟨[], .nil, fun place => ⟨nofun, ?_⟩, .nil, .nil, nofun⟩
    rintro ⟨pair, here, -⟩
    cases here
  | append_singleton pairs pair ih =>
    obtain ⟨places, gathers⟩ := ih fun other member =>
      consistent other (List.mem_append_left _ member)
    have items : ∀ item ∈ Value.entriesOf pairs, Consistent item.1 := by
      intro item member
      obtain ⟨other, among, own⟩ := item_key gathers member
      exact own ▸ consistent other (List.mem_append_left _ among)
    rw [entries_of_snoc]
    by_cases known : ∃ item ∈ Value.entriesOf pairs, item.1.equals pair.1 = true
    · exact ⟨places, gathers_known gathers items known pair.2⟩
    · have fresh : ∀ item ∈ Value.entriesOf pairs, item.1.equals pair.1 = false := by
        intro item member
        rw [Bool.eq_false_iff]
        exact fun same => known ⟨item, member, same⟩
      rw [put_fresh fresh]
      exact ⟨places ++ [pairs.length], gathers_fresh gathers items fresh pair.2⟩

-- One, an equal truth value and a text between them: the first key with the last value.
example : Value.entriesOf [(.int 1, .str "a"), (.str "x", .null), (.bool true, .str "b")] =
    [(.int 1, .str "b"), (.str "x", .null)] := rfl

theorem entries_consistent (consistent : ∀ pair ∈ pairs, Consistent pair.1) :
    ∀ item ∈ Value.entriesOf pairs, Consistent item.1 := by
  intro item member
  obtain ⟨places, gathers⟩ := entries_gather consistent
  obtain ⟨pair, among, own⟩ := item_key gathers member
  exact own ▸ consistent pair among

/-- The first key that equals a value is kept as it is. -/
theorem entries_find (consistent : ∀ pair ∈ pairs, Consistent pair.1) (value : Value) :
    ((Value.entriesOf pairs).map Prod.fst).find? (fun key => key.equals value) =
      (pairs.map Prod.fst).find? fun key => key.equals value := by
  induction pairs using List.reverseRecOn with
  | nil => rfl
  | append_singleton pairs pair ih =>
    have earlier : ∀ pair ∈ pairs, Consistent pair.1 := fun other member =>
      consistent other (List.mem_append_left _ member)
    specialize ih earlier
    rw [entries_of_snoc, List.map_append, List.find?_append, ← ih]
    by_cases known : ∃ item ∈ Value.entriesOf pairs, item.1.equals pair.1 = true
    · rw [put_known_keys known]
      obtain ⟨item, member, same⟩ := known
      cases here : pair.1.equals value with
      | false => simp [here]
      | true =>
        have met := (entries_consistent earlier item member).onward _ _ same here
        have found : (((Value.entriesOf pairs).map Prod.fst).find?
            fun key => key.equals value).isSome = true :=
          List.find?_isSome.mpr ⟨item.1, List.mem_map_of_mem member, met⟩
        rw [Option.or_of_isSome found]
    · have fresh : ∀ item ∈ Value.entriesOf pairs, item.1.equals pair.1 = false := by
        intro item member
        rw [Bool.eq_false_iff]
        exact fun same => known ⟨item, member, same⟩
      rw [put_fresh fresh, List.map_append, List.find?_append]

/-- Pairs with distinct keys are the items themselves. -/
theorem entries_of_apart (apart : Apart (pairs.map Prod.fst)) : Value.entriesOf pairs = pairs := by
  induction pairs using List.reverseRecOn with
  | nil => rfl
  | append_singleton pairs pair ih =>
    rw [Apart, List.map_append, List.pairwise_append] at apart
    obtain ⟨others, -, differ⟩ := apart
    rw [entries_of_snoc, ih others, put_fresh]
    exact fun item member => differ item.1 (List.mem_map_of_mem member) pair.1 List.mem_cons_self

/-- A key that equals itself and none before is found where it is. -/
theorem lookup_apart (apart : Apart (pairs.map Prod.fst)) (here : pairs[place]? = some (key, value))
    (self : key.equals key = true) : Value.lookup? pairs key = some value := by
  induction pairs generalizing place with
  | nil => cases here
  | cons pair pairs ih =>
    obtain ⟨differ, others⟩ := List.pairwise_cons.mp apart
    cases place with
    | zero =>
      cases here
      simp only [Value.lookup?, List.find?_cons, self, Option.map_some]
    | succ place =>
      have member : (key, value) ∈ pairs := List.mem_of_getElem? here
      have other := differ key (List.mem_map_of_mem member)
      have rest := ih others here
      rw [Value.lookup?] at rest ⊢
      rw [List.find?_cons, other, rest]

end Pairs

end SqlTemplate.GatheredItems
