import Mathlib
import SqlTemplate.Template.Fill

/-! What is left of markup when it is removed. Removal goes over the text once for comments and once
for tags, and what stands on the two sides of a tag that is removed comes together. A tag can be
left in one way only: its `<` stands directly before tags that are removed, and what would open it
directly behind them. -/
namespace SqlTemplate.MarkupRemoval
open Text
open Template (stripped)

/-! ## Patterns -/

/-- The end of a text, or the place before a line feed that ends it. -/
def AtEnd (after : List Char) : Prop := after = [] ∨ after = ['\n']

/-- A comment, and what comes after it. It reaches to some end of a comment, or to the end of the
text. -/
inductive CommentMatch : List Char → List Char → Prop
  | closed (body : List Char) :
      CommentMatch ('<' :: '!' :: '-' :: '-' :: body ++ ['-', '-', '>']) after
  | unclosed (body : List Char) (ends : AtEnd after) :
      CommentMatch ('<' :: '!' :: '-' :: '-' :: body) after

/-- A tag, and what comes after it. It reaches to the next `>`, or to the end of the text. -/
inductive TagMatch : List Char → List Char → Prop
  | closed (slash : front = [] ∨ front = ['/']) (opens : opensTag c = true) (inside : '>' ∉ body) :
      TagMatch ('<' :: front ++ c :: body ++ ['>']) after
  | unclosed (slash : front = [] ∨ front = ['/']) (opens : opensTag c = true) (inside : '>' ∉ body)
      (ends : AtEnd after) : TagMatch ('<' :: front ++ c :: body) after

/-- A text in which something is found. -/
def Contains (found : List Char → List Char → Prop) (text : List Char) : Prop :=
  ∃ before piece after, text = before ++ piece ++ after ∧ found piece after

/-- A text without anything that could be taken for markup. -/
def Unmarked (text : List Char) : Prop := ¬ Contains CommentMatch text ∧ ¬ Contains TagMatch text

/-! ## Openings -/

/-- A text that starts like a tag. -/
def Opens (text : List Char) : Prop := ∃ c rest, text = '<' :: c :: rest ∧ opensTag c = true

/-- A text in which a tag starts somewhere. -/
def HasOpening (text : List Char) : Prop := ∃ before rest, text = before ++ rest ∧ Opens rest

theorem opens_cons_iff (c : Char) (rest : List Char) :
    Opens (c :: rest) ↔ c = '<' ∧ ∃ next ∈ rest.head?, opensTag next = true := by
  constructor
  · rintro ⟨next, more, same, opens⟩
    obtain ⟨rfl, rfl⟩ := List.cons.inj same
    exact ⟨rfl, next, rfl, opens⟩
  · rintro ⟨rfl, next, front, opens⟩
    obtain ⟨more, rfl⟩ := List.head?_eq_some_iff.mp front
    exact ⟨next, more, rfl, opens⟩

theorem opening_cons_iff (c : Char) (rest : List Char) :
    HasOpening (c :: rest) ↔ Opens (c :: rest) ∨ HasOpening rest := by
  constructor
  · rintro ⟨before, behind, same, opens⟩
    cases before with
    | nil =>
      cases same
      exact .inl opens
    | cons first before =>
      obtain ⟨rfl, rfl⟩ := List.cons.inj same
      exact .inr ⟨before, behind, rfl, opens⟩
  · rintro (opens | ⟨before, behind, rfl, opens⟩)
    · exact ⟨[], _, rfl, opens⟩
    · exact ⟨c :: before, behind, rfl, opens⟩

/-- The slash of an end tag could open a tag itself. -/
theorem opening_of_slash {front body : List Char} (slash : front = [] ∨ front = ['/'])
    (opens : opensTag c = true) (before after : List Char) :
    HasOpening (before ++ ('<' :: front ++ c :: body) ++ after) := by
  rcases slash with rfl | rfl
  · exact ⟨before, '<' :: c :: body ++ after, by simp, c, body ++ after, rfl, opens⟩
  · exact ⟨before, '<' :: '/' :: c :: body ++ after, by simp, '/', c :: body ++ after, rfl,
      by decide⟩

theorem tag_match_iff (text : List Char) : Contains TagMatch text ↔ HasOpening text := by
  constructor
  · rintro ⟨before, piece, after, rfl, found⟩
    cases found with
    | closed slash opens inside =>
      simpa using opening_of_slash slash opens before ('>' :: after)
    | unclosed slash opens inside => exact opening_of_slash slash opens before after
  · rintro ⟨before, -, rfl, c, rest, rfl, opens⟩
    by_cases closes : '>' ∈ rest
    · obtain ⟨body, after, rfl, inside⟩ := List.eq_append_cons_of_mem closes
      exact ⟨before, _, after, by simp, .closed (.inl rfl) opens inside⟩
    · exact ⟨before, _, [], by simp, .unclosed (.inl rfl) opens closes (.inl rfl)⟩

/-- A comment starts like a tag. -/
theorem opening_of_comment (found : Contains CommentMatch text) : HasOpening text := by
  obtain ⟨before, piece, after, rfl, found⟩ := found
  refine ⟨before, piece ++ after, List.append_assoc .., '!', ?_⟩
  cases found with
  | closed body => exact ⟨_, rfl, by decide⟩
  | unclosed body => exact ⟨_, rfl, by decide⟩

theorem unmarked_iff (text : List Char) : Unmarked text ↔ ¬ HasOpening text := by
  rw [Unmarked, tag_match_iff]
  exact ⟨fun unmarked => unmarked.2, fun bare => ⟨mt opening_of_comment bare, bare⟩⟩

/-! ## Removal of tags -/

/-- A whole tag. -/
def IsTag (tag : List Char) : Prop :=
  ∃ c body, tag = '<' :: c :: body ++ ['>'] ∧ opensTag c = true ∧ '>' ∉ body

/-- What is left of a text when its tags are removed from left to right. -/
inductive Removed : List Char → List Char → Prop
  | done : Removed [] []
  | tag (isTag : IsTag tag) (later : Removed rest left) : Removed (tag ++ rest) left
  | unclosed (opens : opensTag c = true) (endless : '>' ∉ rest) : Removed ('<' :: c :: rest) []
  | char (plain : ¬ Opens (c :: rest)) (later : Removed rest left) : Removed (c :: rest) (c :: left)

theorem opener_not_closer (opens : opensTag c = true) : c ≠ '>' := by
  rintro rfl
  exact absurd opens (by decide)

theorem opener_not_opening (opens : opensTag c = true) : c ≠ '<' := by
  rintro rfl
  exact absurd opens (by decide)

theorem strip_other (other : c ≠ '>') (rest : List Char) :
    stripTagsFrom true (c :: rest) = stripTagsFrom true rest := by
  rw [stripTagsFrom, bne_iff_ne.mpr other]

theorem strip_inside (inside : '>' ∉ body) (rest : List Char) :
    stripTagsFrom true (body ++ '>' :: rest) = stripTagsFrom false rest := by
  induction body with
  | nil => rfl
  | cons c body ih =>
    obtain ⟨other, later⟩ := List.ne_and_not_mem_of_not_mem_cons inside
    rw [List.cons_append, strip_other (Ne.symm other), ih later]

theorem strip_endless (endless : '>' ∉ text) : stripTagsFrom true text = [] := by
  induction text with
  | nil => rfl
  | cons c rest ih =>
    obtain ⟨other, later⟩ := List.ne_and_not_mem_of_not_mem_cons endless
    rw [strip_other (Ne.symm other), ih later]

theorem strip_opening (opens : opensTag c = true) (rest : List Char) :
    stripTagsFrom false ('<' :: c :: rest) = stripTagsFrom true rest := by
  have inside : stripTagsFrom false ('<' :: c :: rest) = stripTagsFrom true (c :: rest) :=
    if_pos opens
  rw [inside, strip_other (opener_not_closer opens)]

theorem strip_tag (isTag : IsTag tag) (rest : List Char) :
    stripTagsFrom false (tag ++ rest) = stripTagsFrom false rest := by
  obtain ⟨c, body, rfl, opens, inside⟩ := isTag
  have whole := strip_inside inside rest
  simpa [strip_opening opens] using whole

theorem strip_char (plain : ¬ Opens (c :: rest)) :
    stripTagsFrom false (c :: rest) = c :: stripTagsFrom false rest := by
  by_cases first : c = '<'
  · subst first
    cases rest with
    | nil => rfl
    | cons next more =>
      have unopened : ¬ opensTag next = true := fun opens => plain ⟨next, more, rfl, opens⟩
      exact if_neg unopened
  · simp [stripTagsFrom, first]

theorem tag_or_endless (opens : opensTag c = true) (rest : List Char) :
    (∃ tag later, '<' :: c :: rest = tag ++ later ∧ IsTag tag) ∨ '>' ∉ rest := by
  by_cases closes : '>' ∈ rest
  · obtain ⟨body, later, rfl, inside⟩ := List.eq_append_cons_of_mem closes
    exact .inl ⟨'<' :: c :: body ++ ['>'], later, by simp, c, body, rfl, opens, inside⟩
  · exact .inr closes

theorem tag_shortens (isTag : IsTag tag) (rest : List Char) :
    rest.length < (tag ++ rest).length := by
  obtain ⟨c, body, rfl, -, -⟩ := isTag
  simp
  omega

theorem strip_removes (text : List Char) : Removed text (stripTagsFrom false text) := by
  -- A tag is passed as a whole, so the induction is on the length.
  induction size : text.length using Nat.strongRecOn generalizing text with
  | ind size ih =>
    subst size
    by_cases opens : Opens text
    · obtain ⟨c, rest, rfl, opens⟩ := opens
      rcases tag_or_endless opens rest with ⟨tag, later, whole, isTag⟩ | endless
      · rw [whole, strip_tag isTag]
        rw [whole] at ih
        exact .tag isTag (ih _ (tag_shortens isTag later) later rfl)
      · rw [strip_opening opens, strip_endless endless]
        exact .unclosed opens endless
    · cases text with
      | nil => exact .done
      | cons c rest =>
        rw [strip_char opens]
        exact .char opens (ih _ (Nat.lt_succ_self _) rest rfl)

/-! ## Tags that come together -/

/-- Every tag that a text begins is closed in it. -/
def Closed (text : List Char) : Prop :=
  ∀ before c after, text = before ++ '<' :: c :: after → opensTag c = true → '>' ∈ after

/-- A text in which a `<` outside of tags stands directly before tags, and directly behind these a
character that would open a tag. -/
inductive Rejoins : List Char → Prop
  | around (before tags c after) (closed : Closed before) (nonempty : tags ≠ [])
      (each : ∀ tag ∈ tags, IsTag tag) (opens : opensTag c = true) :
      Rejoins (before ++ '<' :: (tags.flatten ++ c :: after))

theorem closed_nil : Closed [] := by
  intro before c after whole
  simp at whole

theorem closed_behind (closed : Closed (front ++ text)) : Closed text := by
  intro before c after whole opens
  exact closed (front ++ before) c after (by rw [whole, List.append_assoc]) opens

theorem closed_char (plain : ¬ Opens (c :: text)) (closed : Closed text) : Closed (c :: text) := by
  intro before next after whole opens
  cases before with
  | nil => exact absurd ⟨next, after, whole, opens⟩ plain
  | cons first before => exact closed before next after (List.cons.inj whole).2 opens

/-- What is begun inside a tag is closed with it at the latest. -/
theorem closed_tag (isTag : IsTag tag) (closed : Closed text) : Closed (tag ++ text) := by
  obtain ⟨first, body, rfl, -, -⟩ := isTag
  intro before c after whole opens
  have ends : ('<' :: first :: body) ++ '>' :: text = before ++ '<' :: c :: after := by
    simpa using whole
  rcases List.append_eq_append_iff.mp ends with ⟨more, -, later⟩ | ⟨more, -, later⟩
  · -- The tag ends before this opening.
    cases more with
    | nil => simp at later
    | cons closer more => exact closed more c after (List.cons.inj later).2 opens
  · -- The opening is inside the tag.
    cases more with
    | nil => simp at later
    | cons opening more =>
      cases more with
      | nil =>
        obtain ⟨-, same, -⟩ : '<' = opening ∧ c = '>' ∧ after = text := by simpa using later
        exact absurd same (opener_not_closer opens)
      | cons next more =>
        obtain ⟨-, -, rfl⟩ : '<' = opening ∧ c = next ∧ after = more ++ '>' :: text := by
          simpa using later
        simp

theorem removed_front (removed : Removed text left) (front : next ∈ left.head?) :
    ∃ tags after, text = List.flatten tags ++ next :: after ∧ ∀ tag ∈ tags, IsTag tag := by
  induction removed with
  | done => cases front
  | @tag tag _ _ isTag _ ih =>
    obtain ⟨tags, after, rfl, each⟩ := ih front
    exact ⟨tag :: tags, after, by simp, List.forall_mem_cons.mpr ⟨isTag, each⟩⟩
  | unclosed => cases front
  | @char _ rest =>
    cases front
    exact ⟨[], rest, rfl, nofun⟩

theorem rejoins_of_opening (removed : Removed text left) (opening : HasOpening left) :
    Rejoins text := by
  induction removed with
  | done =>
    obtain ⟨before, rest, whole, c, more, rfl, -⟩ := opening
    simp at whole
  | tag isTag later ih =>
    obtain ⟨before, tags, c, after, closed, nonempty, each, opens⟩ := ih opening
    rw [← List.append_assoc]
    exact .around _ tags c after (closed_tag isTag closed) nonempty each opens
  | unclosed =>
    obtain ⟨before, rest, whole, c, more, rfl, -⟩ := opening
    simp at whole
  | @char c rest left plain later ih =>
    rcases (opening_cons_iff _ _).mp opening with opens | further
    · obtain ⟨rfl, next, front, opens⟩ := (opens_cons_iff _ _).mp opens
      obtain ⟨tags, after, rfl, each⟩ := removed_front later front
      refine .around [] tags next after closed_nil ?_ each opens
      rintro rfl
      exact plain ⟨next, after, rfl, opens⟩
    · obtain ⟨before, tags, next, after, closed, nonempty, each, opens⟩ := ih further
      refine .around (c :: before) tags next after (closed_char ?_ closed) nonempty each opens
      rintro ⟨other, more, same, otherOpens⟩
      obtain ⟨rfl, rfl⟩ := List.cons.inj same
      exact plain ⟨other, _, rfl, otherOpens⟩

theorem strip_tags (each : ∀ tag ∈ tags, IsTag tag) (rest : List Char) :
    stripTagsFrom false (List.flatten tags ++ rest) = stripTagsFrom false rest := by
  induction tags with
  | nil => rfl
  | cons tag tags ih =>
    obtain ⟨isTag, others⟩ := List.forall_mem_cons.mp each
    rw [List.flatten_cons, List.append_assoc, strip_tag isTag, ih others]

/-- Where all tags before are closed, removal comes by outside of tags. -/
theorem strip_behind_closed (removed : Removed before left) (closed : Closed before)
    (rest : List Char) :
    stripTagsFrom false (before ++ '<' :: rest) = left ++ stripTagsFrom false ('<' :: rest) := by
  induction removed with
  | done => rfl
  | tag isTag _ ih => rw [List.append_assoc, strip_tag isTag, ih (closed_behind closed)]
  | unclosed opens endless => exact absurd (closed [] _ _ rfl opens) endless
  | @char c more left plain _ ih =>
    have apart : ¬ Opens (c :: (more ++ '<' :: rest)) := by
      rintro ⟨next, after, same, opens⟩
      obtain ⟨rfl, behind⟩ := List.cons.inj same
      cases more with
      | nil =>
        obtain ⟨rfl, -⟩ := List.cons.inj behind
        exact opener_not_opening opens rfl
      | cons other more =>
        obtain ⟨rfl, -⟩ := List.cons.inj behind
        exact plain ⟨_, more, rfl, opens⟩
    have laterClosed : Closed more := closed_behind (show Closed ([c] ++ more) from closed)
    rw [List.cons_append, strip_char apart, ih laterClosed, List.cons_append]

theorem opening_of_rejoins (rejoins : Rejoins text) : HasOpening (stripTagsFrom false text) := by
  obtain ⟨before, tags, c, after, closed, nonempty, each, opens⟩ := rejoins
  have plain : ¬ Opens ('<' :: (tags.flatten ++ c :: after)) := by
    obtain ⟨tag, others, rfl⟩ := List.exists_cons_of_ne_nil nonempty
    obtain ⟨first, body, rfl, -, -⟩ := each _ List.mem_cons_self
    rintro ⟨next, more, same, nextOpens⟩
    obtain ⟨rfl, -⟩ : '<' = next ∧ _ := by simpa using same
    exact opener_not_opening nextOpens rfl
  have kept : ¬ Opens (c :: after) := by
    rintro ⟨next, more, same, -⟩
    exact opener_not_opening opens (List.cons.inj same).1
  rw [strip_behind_closed (strip_removes before) closed, strip_char plain, strip_tags each,
    strip_char kept]
  exact ⟨_, _, rfl, c, _, rfl, opens⟩

theorem opening_left_iff (text : List Char) :
    HasOpening (stripTagsFrom false text) ↔ Rejoins text :=
  ⟨rejoins_of_opening (strip_removes text), opening_of_rejoins⟩

/-! ## Removal once more -/

theorem removed_sublist (removed : Removed text left) : left.Sublist text := by
  induction removed with
  | done => exact .slnil
  | tag isTag later ih => exact ih.trans (List.sublist_append_right _ _)
  | unclosed => exact List.nil_sublist _
  | char plain later ih => exact ih.cons_cons _

/-- Something is removed exactly where there is an opening. -/
theorem removed_eq_iff (removed : Removed text left) : left = text ↔ ¬ HasOpening text := by
  induction removed with
  | done => simp [HasOpening, Opens]
  | @tag _ rest _ isTag later ih =>
    obtain ⟨c, body, rfl, opens, -⟩ := isTag
    refine iff_of_false (fun same => ?_) (fun bare => bare ⟨[], _, rfl, c, _, rfl, opens⟩)
    have shorter := (removed_sublist later).length_le
    simp [same] at shorter
    omega
  | unclosed opens endless =>
    exact iff_of_false (by simp) (fun bare => bare ⟨[], _, rfl, _, _, rfl, opens⟩)
  | char plain later ih => simp [opening_cons_iff, plain, ih]

theorem keep_char (plain : ¬ Opens (c :: rest)) :
    stripComments 0 (c :: rest) = c :: stripComments 0 rest := by
  rw [stripComments]
  rintro body rfl rfl
  exact plain ⟨'!', _, rfl, by decide⟩

theorem keep_bare (bare : ¬ HasOpening text) : stripComments 0 text = text := by
  induction text with
  | nil => rfl
  | cons c rest ih =>
    rw [opening_cons_iff, not_or] at bare
    rw [keep_char bare.1, ih bare.2]

theorem comments_sublist (dropping : Nat) (text : List Char) :
    (stripComments dropping text).Sublist text := by
  fun_induction stripComments dropping text with
  | case1 => exact .slnil
  | case2 dropping c rest ih => exact ih.cons c
  | case3 body ih => exact ih.cons '<'
  | case4 c rest other ih => exact ih.cons_cons c

theorem strip_again_iff (text : List Char) :
    stripTagsFrom false (stripComments 0 text) = text ↔ ¬ HasOpening text := by
  constructor
  · intro same
    have removed := removed_sublist (strip_removes (stripComments 0 text))
    rw [same] at removed
    have kept : stripComments 0 text = text := (comments_sublist 0 text).antisymm removed
    rw [kept] at same
    exact (removed_eq_iff (strip_removes text)).mp same
  · intro bare
    rw [keep_bare bare]
    exact (removed_eq_iff (strip_removes text)).mpr bare

/-! ## Two adjacent opening brackets -/

theorem adjacent_of_rejoins (rejoins : Rejoins text) : ['<', '<'] <:+: text := by
  obtain ⟨before, tags, c, after, -, nonempty, each, -⟩ := rejoins
  obtain ⟨tag, others, rfl⟩ := List.exists_cons_of_ne_nil nonempty
  obtain ⟨first, body, rfl, -, -⟩ := each _ List.mem_cons_self
  exact ⟨before, first :: body ++ '>' :: (others.flatten ++ c :: after), by simp⟩

/-- What stands first without comments stands first with them, or a comment does. -/
theorem head_without_comments (front : next ∈ (stripComments 0 text).head?) :
    next ∈ text.head? ∨ '<' ∈ text.head? := by
  cases text with
  | nil => cases front
  | cons c rest =>
    by_cases bracket : c = '<'
    · exact .inr (congrArg some bracket)
    · rw [stripComments] at front
      · exact .inl front
      · exact fun _ first => absurd first bracket

theorem adjacent_with_comments (dropping : Nat) (text : List Char)
    (adjacent : ['<', '<'] <:+: stripComments dropping text) : ['<', '<'] <:+: text := by
  fun_induction stripComments dropping text with
  | case1 => exact adjacent
  | case2 dropping c rest ih => exact List.infix_cons (ih adjacent)
  | case3 body ih => exact List.infix_cons (ih adjacent)
  | case4 c rest other ih =>
    rcases List.infix_cons_iff.mp adjacent with here | further
    · obtain ⟨rfl, more, stands⟩ : c = '<' ∧ ['<'] <+: stripComments 0 rest := by
        simpa [eq_comm] using here
      have second : '<' ∈ rest.head? := by
        have kept : '<' ∈ (stripComments 0 rest).head? := by simp [← stands]
        simpa using head_without_comments kept
      obtain ⟨later, rfl⟩ := List.head?_eq_some_iff.mp second
      exact ⟨[], later, rfl⟩
    · exact List.infix_cons (ih further)

/-- A value in whose text a tag comes together once comments and tags are removed. -/
def Reopened (value : Value) : Prop := Rejoins (stripComments 0 value.text.toList)

/-- Markup is removed from a value, and is gone and stays gone exactly where no tag comes together.
None does in a text without two adjacent opening brackets. -/
theorem markup_is_removed_unless_rejoined (value : Value) (given : value ≠ .null) :
    ∃ text, stripped value = .str text ∧
      (Unmarked text.toList ↔ ¬ Reopened value) ∧
      (stripped (stripped value) = stripped value ↔ ¬ Reopened value) ∧
      (¬ ['<', '<'] <:+: value.text.toList → ¬ Reopened value) := by
  have result : stripped value = .str (stripMarkup value.text) := by
    cases value with
    | null => exact absurd rfl given
    | _ => rfl
  have opening : HasOpening (stripMarkup value.text).toList ↔ Reopened value := by
    rw [stripMarkup, String.toList_ofList]
    exact opening_left_iff _
  refine ⟨_, result, ?_, ?_, fun apart rejoins => ?_⟩
  · rw [unmarked_iff, opening]
  · rw [result, ← opening, ← strip_again_iff]
    constructor
    · intro same
      have texts : stripMarkup (stripMarkup value.text) = stripMarkup value.text :=
        Value.str.inj same
      have lists := congrArg String.toList texts
      rwa [stripMarkup, String.toList_ofList] at lists
    · intro same
      have texts : stripMarkup (stripMarkup value.text) = stripMarkup value.text := by
        rw [stripMarkup, same, String.ofList_toList]
      exact congrArg Value.str texts
  · exact apart (adjacent_with_comments 0 _ (adjacent_of_rejoins rejoins))

/-- A comment and two tags go, and a bracket that starts no tag stays. -/
theorem comment_and_tags_are_removed :
    Value.str "a < b<!-- c --><i>d</i>" ≠ .null ∧
      stripped (.str "a < b<!-- c --><i>d</i>") = .str "a < bd" ∧
      Unmarked "a < bd".toList ∧ stripped (.str "a < bd") = .str "a < bd" := by
  have given : Value.str "a < b<!-- c --><i>d</i>" ≠ .null := nofun
  have result : stripped (.str "a < b<!-- c --><i>d</i>") = .str "a < bd" := by rfl
  obtain ⟨text, same, unmarked, again, apart⟩ := markup_is_removed_unless_rejoined _ given
  obtain rfl : "a < bd" = text := Value.str.inj (result.symm.trans same)
  have kept : ¬ Reopened (.str "a < b<!-- c --><i>d</i>") := apart (by decide)
  refine ⟨given, result, unmarked.mpr kept, ?_⟩
  have twice := again.mpr kept
  rwa [result] at twice

/-- The removal of a tag joins a bracket before it with what follows into another tag, and removing
markup once more removes that one. -/
theorem removed_tag_joins_another :
    stripped (.str "<<b>i>x") = .str "<i>x" ∧ Contains TagMatch "<i>x".toList ∧
      stripped (stripped (.str "<<b>i>x")) = .str "x" := by
  have opens : opensTag 'i' = true := by decide
  have whole : TagMatch "<i>".toList ['x'] := .closed (.inl rfl) opens List.not_mem_nil
  exact ⟨by rfl, ⟨[], _, _, rfl, whole⟩, by rfl⟩

end SqlTemplate.MarkupRemoval
