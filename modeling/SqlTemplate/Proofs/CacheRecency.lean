import Mathlib.Data.List.Dedup
import Mathlib.Data.List.DropRight
import SqlTemplate.Proofs.CompilerHistory
import SqlTemplate.Proofs.WholeNumbers

/-! What a compiler remembers are the templates it was asked for last. Which they are, in which
order, and which requests find their template, follows from the requests since the last clear
alone, whatever else was called and whatever was refused. -/
namespace SqlTemplate.CacheRecency
open Template CompilerHistory WholeNumbers

/-- The template that a call asks for. A compilation without arguments asks for none; one with
arguments asks for its template, even if it is refused afterwards. -/
def request? : Step → Option String
  | .compile template arguments => if arguments.isEmpty then none else some template
  | .tokenize template => some template
  | .fromQueue _ _ => none
  | .clear => none

def isClear : Step → Bool
  | .clear => true
  | _ => false

/-- The templates that were asked for since the last clear, in the order of the requests. -/
def requests (history : List Step) : List String :=
  (history.rtakeWhile fun step => !isClear step).filterMap request?

/-- The distinct templates that were asked for last, up to a number of them, in the order of their
last requests. -/
def recent (capacity : Nat) (requested : List String) : List String :=
  -- Of equal templates, this keeps the last.
  requested.dedup.rtake capacity

/-! ## Requests -/

theorem clear_or_not (step : Step) : step = .clear ∨ isClear step = false := by
  cases step with
  | clear => exact .inl rfl
  | _ => exact .inr rfl

theorem requests_clear (history : List Step) : requests (history ++ [.clear]) = [] := by
  rw [requests, List.rtakeWhile_concat_neg _ _ _ (by simp [isClear])]
  rfl

theorem requests_snoc (history : List Step) (kept : isClear step = false) :
    requests (history ++ [step]) = requests history ++ (request? step).toList := by
  rw [requests, List.rtakeWhile_concat_pos _ _ _ (by simp [kept]), List.filterMap_append, requests]
  cases asked : request? step <;> simp [asked]

/-! ## Recent templates -/

/-- A request moves its template behind all others. -/
theorem dedup_snoc (requested : List String) (template : String) :
    (requested ++ [template]).dedup = requested.dedup.filter (· != template) ++ [template] := by
  induction requested with
  | nil => rfl
  | cons first rest ih =>
    rw [List.cons_append]
    by_cases again : first ∈ rest
    · rw [List.dedup_cons_of_mem (List.mem_append_left _ again), List.dedup_cons_of_mem again, ih]
    · rw [List.dedup_cons_of_notMem again]
      by_cases same : first = template
      · subst same
        rw [List.dedup_cons_of_mem (by simp), ih, List.filter_cons_of_neg (by simp)]
      · rw [List.dedup_cons_of_notMem (by simp [again, same]), ih,
          List.filter_cons_of_pos (by simpa using same), List.cons_append]

/-- A template among the last ones is taken out of the whole list or out of those. -/
theorem rtake_filter_of_mem {distinct : List String} (nodup : distinct.Nodup)
    (member : template ∈ distinct.rtake (room + 1)) :
    (distinct.filter (· != template)).rtake room =
      (distinct.rtake (room + 1)).filter (· != template) := by
  -- From the back: until the template is met, both sides keep the same templates.
  induction distinct using List.reverseRecOn generalizing room with
  | nil => simp at member
  | append_singleton earlier last ih =>
    obtain ⟨before, -, apart⟩ := List.nodup_append.mp nodup
    rw [List.rtake_concat_succ] at member ⊢
    rw [List.filter_append, List.filter_append]
    by_cases here : last = template
    · subst here
      have absent (part : List String) (inside : part ⊆ earlier) :
          part.filter (· != last) = part := by
        refine List.filter_eq_self.mpr fun other found => ?_
        simpa using apart other (inside found) last List.mem_cons_self
      rw [absent earlier (List.Subset.refl _), absent (earlier.rtake room) (List.drop_subset _ _)]
      simp
    · have other : (last != template) = true := by simpa using here
      have earlierMember : template ∈ earlier.rtake room := by
        simpa [Ne.symm here] using member
      cases room with
      | zero => simp at earlierMember
      | succ room =>
        simp only [List.filter_cons, other, List.filter_nil, ↓reduceIte]
        rw [List.rtake_concat_succ, ih before earlierMember]

/-- Taking out a template that is not among the last ones leaves those as they are. -/
theorem rtake_filter_of_not_mem {distinct : List String}
    (missing : template ∉ distinct.rtake room) :
    (distinct.filter (· != template)).rtake room = distinct.rtake room := by
  induction distinct using List.reverseRecOn generalizing room with
  | nil => rfl
  | append_singleton earlier last ih =>
    cases room with
    | zero => simp
    | succ room =>
      rw [List.rtake_concat_succ, List.mem_append, List.mem_singleton, not_or] at missing
      have other : (last != template) = true := by simpa using Ne.symm missing.2
      rw [List.filter_append, List.rtake_concat_succ]
      simp only [List.filter_cons, other, List.filter_nil, ↓reduceIte]
      rw [List.rtake_concat_succ, ih missing.1]

/-- Room for one more among the last ones is made by dropping the first of them when they are as
many as there may be. -/
theorem rtake_room (distinct : List String) (room : Nat) :
    (if room + 1 ≤ (distinct.rtake (room + 1)).length then (distinct.rtake (room + 1)).drop 1
      else distinct.rtake (room + 1)) = distinct.rtake room := by
  simp only [List.rtake, List.length_drop, List.drop_drop]
  split
  · congr 1
    omega
  · congr 1
    omega

/-! ## Steps of a compiler -/

variable {compiler : Compiler}

theorem apply_idle (idle : request? step = none) (kept : isClear step = false) :
    step.apply compiler = compiler := by
  cases step with
  | compile template arguments =>
    have empty : arguments.isEmpty = true := by
      by_contra given
      simp [request?, given] at idle
    simp [Step.apply, Compiler.compile, empty]
  | tokenize template => cases idle
  | fromQueue sql queue => rfl
  | clear => cases kept

/-- A compiler that remembers nothing is changed by no call. -/
theorem apply_forgetful (small : compiler.config.templateCacheSize.isAtMost 0 = .ok true)
    (kept : isClear step = false) : step.apply compiler = compiler := by
  have cut (template : String) :
      compiler.tokenize template = .ok (segments template, compiler) := by
    simp [Compiler.tokenize, small, bind, Except.bind, pure, Except.pure]
  cases step with
  | compile template arguments =>
    simp only [Step.apply, Compiler.compile, cut]
    split <;> rfl
  | tokenize template => simp only [Step.apply, cut]
  | fromQueue sql queue => rfl
  | clear => cases kept

/-- A request goes through the cache, whether it is refused afterwards or not. -/
theorem apply_request (positive : compiler.config.templateCacheSize.isAtMost 0 = .ok false)
    (asked : request? step = some template) :
    step.apply compiler = (compiler.fetch template).2 := by
  have cut (template : String) : compiler.tokenize template = .ok (compiler.fetch template) := by
    simp [Compiler.tokenize, positive, bind, Except.bind, pure, Except.pure]
  cases step with
  | compile other arguments =>
    simp only [request?] at asked
    split at asked
    · cases asked
    · rename_i given
      cases asked
      simp only [Step.apply, Compiler.compile, cut, given, Bool.false_eq_true, ↓reduceIte]
  | tokenize other =>
    cases asked
    simp only [Step.apply, cut]
  | fromQueue sql queue => cases asked
  | clear => cases asked

/-- What is left when room was made for one more template. -/
theorem make_room_keys (whole : IsWhole size capacity) (cache : List (String × List Segment)) :
    (Compiler.makeRoom size cache).map Prod.fst =
      if capacity ≤ (cache.length : Int) then (cache.map Prod.fst).drop 1
      else cache.map Prod.fst := by
  rw [Compiler.makeRoom, Compiler.isFull, whole_at_most whole]
  simp only [decide_eq_true_eq]
  split
  · rw [List.map_drop]
  · rfl

theorem fetch_found (member : template ∈ compiler.cache.map Prod.fst) :
    (compiler.fetch template).2.cache.map Prod.fst =
        (compiler.cache.map Prod.fst).filter (· != template) ++ [template] ∧
      (compiler.fetch template).2.hits = compiler.hits + 1 ∧
      (compiler.fetch template).2.misses = compiler.misses := by
  obtain ⟨entry, held, rfl⟩ := List.mem_map.mp member
  have found : (compiler.cache.lookup entry.1).isSome = true :=
    List.lookup_isSome_iff.mpr ⟨entry, held, beq_self_eq_true entry.1⟩
  obtain ⟨pieces, looked⟩ := Option.isSome_iff_exists.mp found
  simp only [Compiler.fetch, looked, List.map_append, List.filter_map, and_self, and_true]
  rfl

theorem fetch_missed (missing : template ∉ compiler.cache.map Prod.fst)
    (whole : IsWhole compiler.config.templateCacheSize capacity) :
    (compiler.fetch template).2.cache.map Prod.fst =
        (if capacity ≤ (compiler.cache.length : Int) then (compiler.cache.map Prod.fst).drop 1
          else compiler.cache.map Prod.fst) ++ [template] ∧
      (compiler.fetch template).2.hits = compiler.hits ∧
      (compiler.fetch template).2.misses = compiler.misses + 1 := by
  have looked : compiler.cache.lookup template = none := by
    refine List.lookup_eq_none_iff.mpr fun entry held => ?_
    have other : template ≠ entry.1 := fun same => missing (same ▸ List.mem_map_of_mem held)
    simpa using other
  simp only [Compiler.fetch, looked, List.map_append, make_room_keys whole, and_self, and_true]
  rfl

/-! ## Runs of a compiler -/

/-- A compiler that remembers the last of some requests, and counted all of them. -/
structure Recalls (config : StatementConfig) (capacity : Nat) (requested : List String)
    (compiler : Compiler) : Prop where
  same_config : compiler.config = config
  keys : compiler.cache.map Prod.fst = recent capacity requested
  counted : compiler.hits + compiler.misses = requested.length

variable {parser : Operation.Parser} {config : StatementConfig} {room : Nat}
  {requested : List String}

theorem whole_positive (whole : IsWhole value (room + 1 : Nat)) :
    value.isAtMost 0 = .ok false := by
  rw [whole_at_most whole, decide_eq_false (by omega)]

theorem new_recalls : Recalls config (room + 1) [] (.new parser config) :=
  ⟨rfl, by simp [recent, Compiler.new], rfl⟩

/-- A request finds its template among the recent ones or not, and is counted as what it is. -/
theorem fetch_counts (whole : IsWhole config.templateCacheSize (room + 1 : Nat))
    (recalls : Recalls config (room + 1) requested compiler) (template : String) :
    (compiler.fetch template).2.hits =
        compiler.hits + (if template ∈ recent (room + 1) requested then 1 else 0) ∧
      (compiler.fetch template).2.misses =
        compiler.misses + (if template ∈ recent (room + 1) requested then 0 else 1) := by
  rw [← recalls.keys]
  by_cases member : template ∈ compiler.cache.map Prod.fst
  · rw [if_pos member, if_pos member]
    exact (fetch_found member).2
  · rw [if_neg member, if_neg member]
    exact (fetch_missed member (recalls.same_config ▸ whole)).2

/-- A request makes its template the most recent one, and the last of the others stay. -/
theorem fetch_recalls (whole : IsWhole config.templateCacheSize (room + 1 : Nat))
    (recalls : Recalls config (room + 1) requested compiler) (template : String) :
    Recalls config (room + 1) (requested ++ [template]) (compiler.fetch template).2 := by
  have next : recent (room + 1) (requested ++ [template]) =
      (requested.dedup.filter (· != template)).rtake room ++ [template] := by
    rw [recent, dedup_snoc, List.rtake_concat_succ]
  obtain ⟨hits, misses⟩ := fetch_counts whole recalls template
  refine ⟨?_, ?_, ?_⟩
  · rw [← recalls.same_config, Compiler.fetch]
    split <;> rfl
  · rw [next]
    -- A found template leaves the recent ones as many as they were; for a missed one, the first
    -- of them has to go if they are as many as there may be.
    by_cases member : template ∈ compiler.cache.map Prod.fst
    · rw [(fetch_found member).1, recalls.keys, recent,
        rtake_filter_of_mem (List.nodup_dedup requested) (by rwa [recalls.keys] at member)]
    · have full : ((room + 1 : Nat) : Int) ≤ (compiler.cache.length : Int) ↔
          room + 1 ≤ (requested.dedup.rtake (room + 1)).length := by
        rw [Int.ofNat_le, ← List.length_map (f := Prod.fst), recalls.keys, recent]
      have missing : template ∉ requested.dedup.rtake room := by
        rw [recalls.keys] at member
        exact fun found => member (List.drop_subset_drop_left _ (by omega) found)
      rw [(fetch_missed member (recalls.same_config ▸ whole)).1, recalls.keys, recent]
      simp only [full, rtake_room, rtake_filter_of_not_mem missing]
  · rw [hits, misses, List.length_append, ← recalls.counted, List.length_singleton]
    split <;> omega

theorem history_snoc (history : List Step) (step : Step) :
    compilerAfter parser config (history ++ [step]) =
      step.apply (compilerAfter parser config history) := by
  rw [compilerAfter, List.foldl_append]
  rfl

theorem history_config (history : List Step) :
    (compilerAfter parser config history).config = config :=
  (history_faithful history).same_config

/-- After any calls, the compiler remembers the last of the requests since the last clear. -/
theorem history_recalls (whole : IsWhole config.templateCacheSize (room + 1 : Nat))
    (history : List Step) :
    Recalls config (room + 1) (requests history) (compilerAfter parser config history) := by
  induction history using List.reverseRecOn with
  | nil => exact new_recalls
  | append_singleton history step ih =>
    rw [history_snoc]
    obtain rfl | kept := clear_or_not step
    · rw [requests_clear, Step.apply, Compiler.clear, history_config]
      exact new_recalls
    · rw [requests_snoc history kept]
      cases asked : request? step with
      | some template =>
        rw [apply_request (history_config history ▸ whole_positive whole) asked]
        exact fetch_recalls whole ih template
      | none =>
        rw [apply_idle asked kept]
        simpa using ih

/-- Where nothing is to be remembered, a compiler stays as it was made. -/
theorem history_forgetful (small : config.templateCacheSize.isAtMost 0 = .ok true)
    (history : List Step) : compilerAfter parser config history = .new parser config := by
  induction history using List.reverseRecOn with
  | nil => rfl
  | append_singleton history step ih =>
    rw [history_snoc, ih]
    obtain rfl | kept := clear_or_not step
    · rfl
    · exact apply_forgetful small kept

theorem recalls_length {capacity : Nat} (recalls : Recalls config capacity requested compiler) :
    compiler.cache.length = min capacity requested.dedup.length := by
  have count := congrArg List.length recalls.keys
  rw [List.length_map, recent, List.rtake, List.length_drop] at count
  omega

/-- The cache keeps the most recently requested templates, as many as it may, in the order of their
last requests and each once. A request finds its template exactly if it is among them, every request
since the last clear is counted as found or missed, and a cache without room stays empty. -/
theorem cache_keeps_recent (parser : Operation.Parser) (config : StatementConfig)
    (size : Int)
    (whole : IsWhole config.templateCacheSize size) (history : List Step) :
    (0 < size →
      (compilerAfter parser config history).cache.map Prod.fst =
          recent size.toNat (requests history) ∧
        (compilerAfter parser config history).cache.length =
          min size.toNat (requests history).dedup.length ∧
        ((compilerAfter parser config history).cache.map Prod.fst).Nodup ∧
        (∀ step template, request? step = some template →
          (compilerAfter parser config (history ++ [step])).misses =
              (compilerAfter parser config history).misses +
                (if template ∈ recent size.toNat (requests history) then 0 else 1) ∧
            (compilerAfter parser config (history ++ [step])).hits =
              (compilerAfter parser config history).hits +
                (if template ∈ recent size.toNat (requests history) then 1 else 0)) ∧
        (compilerAfter parser config history).hits + (compilerAfter parser config history).misses =
          (requests history).length) ∧
      (size ≤ 0 → (compilerAfter parser config history).cacheInfo =
        [("size", .int 0), ("max_size", config.templateCacheSize), ("hits", .int 0),
          ("misses", .int 0)]) := by
  constructor
  · intro positive
    obtain ⟨room, same⟩ : ∃ room : Nat, size = (room + 1 : Nat) := ⟨size.toNat - 1, by omega⟩
    subst same
    have recalls : Recalls config (room + 1) _ (compilerAfter parser config history) :=
      history_recalls whole history
    rw [Int.toNat_natCast]
    refine ⟨recalls.keys, recalls_length recalls, ?_, ?_, recalls.counted⟩
    · rw [recalls.keys]
      exact (List.nodup_dedup _).sublist (List.drop_sublist _ _)
    · intro step template asked
      have counts := fetch_counts whole recalls template
      rw [history_snoc, apply_request (history_config history ▸ whole_positive whole) asked]
      exact counts.symm
  · intro none
    have small : config.templateCacheSize.isAtMost 0 = .ok true := by
      rw [whole_at_most whole, decide_eq_true none]
    rw [history_forgetful small]
    rfl

/-- The request before the last was refused and counts like any other; with room for two, the first
template after the clear is gone and the next request for it misses. -/
theorem cache_keeps_recent_two :
    IsWhole (.int 2) 2 ∧
      (compilerAfter Operation.byLeadingKeyword
        { StatementConfig.standard with templateCacheSize := .int 2 }
        [.tokenize "c", .clear, .tokenize "a ?", .tokenize "b", .compile "c" [.int 1],
          .tokenize "b"]).cache.map Prod.fst = ["c", "b"] ∧
      (compilerAfter Operation.byLeadingKeyword
        { StatementConfig.standard with templateCacheSize := .int 2 }
        [.tokenize "c", .clear, .tokenize "a ?", .tokenize "b", .compile "c" [.int 1],
          .tokenize "b", .compile "a ?" [.null]]).misses = 4 := by
  have asked : requests [.tokenize "c", .clear, .tokenize "a ?", .tokenize "b",
      .compile "c" [.int 1], .tokenize "b"] = ["a ?", "b", "c", "b"] := by rfl
  have kept : recent 2 ["a ?", "b", "c", "b"] = ["c", "b"] := by decide
  obtain ⟨keys, -, -, counts, -⟩ :=
    (cache_keeps_recent Operation.byLeadingKeyword
      { StatementConfig.standard with templateCacheSize := .int 2 } 2 (int_whole 2)
      [.tokenize "c", .clear, .tokenize "a ?", .tokenize "b",
        .compile "c" [.int 1], .tokenize "b"]).1 (by decide)
  have gone : "a ?" ∉ recent 2 ["a ?", "b", "c", "b"] := by decide
  have missed := (counts (.compile "a ?" [.null]) "a ?" rfl).1
  rw [asked] at keys missed
  exact ⟨int_whole 2, keys.trans kept, missed.trans (congrArg (_ + ·) (if_neg gone))⟩

end SqlTemplate.CacheRecency
