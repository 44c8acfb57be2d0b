import QueryConditions.Proofs.Query.Aliases
import QueryConditions.Proofs.Query.Bindings

/-!
Bindings read from whole words. A text is cut into its words, each with what stands before it,
and a pass over the words binds an alias wherever it comes to a keyword with a table and an
alias near behind it. The bindings that are read from the characters of a text are those of
the pass over its words: no word is read in part, and reading goes on right behind an alias.
-/

namespace QueryConditions

structure Token where
  gap : Text
  word : Text
  deriving DecidableEq

def tokens (s : Text) : List Token :=
  match _ : word? (s.dropWhile (!isWord ·)) with
  | none => []
  | some (word, rest) => ⟨s.takeWhile (!isWord ·), word⟩ :: tokens rest
termination_by s.length
decreasing_by
  rename_i read
  have within := (List.dropWhile_suffix (!isWord ·) (l := s)).length_le
  have shorter := (word?_follows read).2
  omega

section Pass

variable {ts rest : List Token} {keyword word name : Text} {binding : Binding}

def Token.IsNear (token : Token) : Prop := IsSpacing token.gap

instance (token : Token) : Decidable token.IsNear :=
  inferInstanceAs (Decidable (IsSpacing token.gap))

def nearWord? : List Token → Option (Text × List Token)
  | [] => none
  | token :: rest => if token.IsNear then some (token.word, rest) else none

def nearAlias? (ts : List Token) : Option (Text × List Token) := do
  let (name, rest) ← nearWord? ts
  if Spells "AS".toList name then some ((nearWord? rest).getD (name, rest)) else some (name, rest)

def tokenBinding? (keyword : Text) : List Token → Option (Binding × List Token)
  | [] => none
  | start :: rest =>
      if Spells keyword start.word then do
        let (table, behind) ← nearWord? rest
        let (name, after) ← nearAlias? behind
        return (⟨name, table⟩, after)
      else none

theorem length_of_nearWord? (found : nearWord? ts = some (word, rest)) :
    rest.length < ts.length := by
  cases ts with
  | nil => simp [nearWord?] at found
  | cons token ts =>
      simp only [nearWord?] at found
      split at found
      · cases found
        exact Nat.lt_succ_self _
      · contradiction

theorem length_of_nearAlias? (found : nearAlias? ts = some (name, rest)) :
    rest.length < ts.length := by
  simp only [nearAlias?, Option.bind_eq_bind, Option.bind_eq_some_iff] at found
  rcases found with ⟨⟨word, behind⟩, first, found⟩
  have shorter := length_of_nearWord? first
  split at found
  · cases second : nearWord? behind with
    | none =>
        rw [second] at found
        cases found
        exact shorter
    | some named =>
        rw [second] at found
        cases found
        exact Nat.lt_trans (length_of_nearWord? second) shorter
  · cases found
    exact shorter

theorem length_of_tokenBinding? (found : tokenBinding? keyword ts = some (binding, rest)) :
    rest.length < ts.length := by
  cases ts with
  | nil => simp [tokenBinding?] at found
  | cons start ts =>
      simp only [tokenBinding?] at found
      split at found
      · simp only [Option.bind_eq_bind, Option.bind_eq_some_iff, Option.pure_def,
          Option.some.injEq, Prod.mk.injEq] at found
        rcases found with ⟨⟨table, behind⟩, named, ⟨name, after⟩, aliased, _, rfl⟩
        have first := length_of_nearWord? named
        have second := length_of_nearAlias? aliased
        simp only [List.length_cons] at first second ⊢
        omega
      · contradiction

def accepted (excluded : List Text) (binding : Binding) : List Binding :=
  if excluded.contains (binding.name.map Char.toUpper) then [] else [binding]

/-- The bindings of the tokens from left to right. The pass goes on behind an alias, whether
it is excluded or not. -/
def tokenBindings (keyword : Text) (excluded : List Text) (ts : List Token) : List Binding :=
  match ts with
  | [] => []
  | start :: rest =>
      match _ : tokenBinding? keyword (start :: rest) with
      | some (binding, after) =>
          accepted excluded binding ++ tokenBindings keyword excluded after
      | none => tokenBindings keyword excluded rest
termination_by ts.length
decreasing_by
  · rename_i found
    exact length_of_tokenBinding? found
  · exact Nat.lt_succ_self _

end Pass

variable {keyword s rest gap name word : Text} {excluded : List Text} {binding : Binding}
  {token : Token} {more : List Token} {before : Option Char} {c : Char}

section Cutting

theorem IsSpacing.wordless (spacing : IsSpacing gap) : gap.all (!isWord ·) = true := by
  apply List.all_eq_true.2
  intro c member
  rw [isWord_of_isBlank (List.all_eq_true.1 spacing.2 c member)]
  rfl

theorem wordless_of_tokens_eq_nil (cut : tokens s = []) : s.all (!isWord ·) = true := by
  rw [tokens] at cut
  split at cut
  · next read => exact word?_eq_none_iff.1 read
  · contradiction

theorem tokens_append_name (wordless : gap.all (!isWord ·) = true) (isName : IsName name)
    (ends : wordEnds rest = true) :
    tokens (gap ++ (name ++ rest)) = ⟨gap, name⟩ :: tokens rest := by
  rcases exists_cons_of_all isName.1 isName.2 with ⟨c, tail, rfl, letter, _⟩
  have apart : ∀ d ∈ gap, (!isWord d) = true := List.all_eq_true.1 wordless
  have start : (gap ++ (c :: tail ++ rest)).takeWhile (!isWord ·) = gap := by
    rw [List.takeWhile_append_of_pos apart]
    simp [letter]
  have behind : (gap ++ (c :: tail ++ rest)).dropWhile (!isWord ·) = c :: tail ++ rest := by
    rw [List.dropWhile_append_of_pos apart]
    simp [letter]
  have first := word?_eq_some_iff.2 ⟨isName, ends, rfl⟩
  rw [tokens]
  split
  · next read =>
      rw [behind, first] at read
      contradiction
  · next read =>
      rw [behind, first] at read
      cases read
      rw [start]

theorem tokens_eq_cons (cut : tokens s = token :: more) :
    ∃ rest, s = token.gap ++ (token.word ++ rest) ∧ token.gap.all (!isWord ·) = true ∧
      IsName token.word ∧ wordEnds rest = true ∧ tokens rest = more := by
  rw [tokens] at cut
  split at cut
  · contradiction
  · next word rest read =>
      cases cut
      rcases word?_eq_some_iff.1 read with ⟨isName, ends, whole⟩
      refine ⟨rest, ?_, List.all_takeWhile, isName, ends, rfl⟩
      rw [← whole, List.takeWhile_append_dropWhile]

end Cutting

section Reading

/-- A token is near if its word is the next one behind blanks. -/
theorem nearWord?_tokens (s : Text) :
    nearWord? (tokens s) = (nextWord? s).map fun (word, rest) => (word, tokens rest) := by
  cases read : nextWord? s with
  | some result =>
      rcases nextWord?_eq_some_iff.1 read with ⟨gap, spacing, isName, ends, rfl⟩
      rw [tokens_append_name spacing.wordless isName ends]
      exact if_pos spacing
  | none =>
      cases cut : tokens s with
      | nil => rfl
      | cons token more =>
          apply if_neg
          intro near
          rcases tokens_eq_cons cut with ⟨rest, rfl, _, isName, ends, _⟩
          rw [nextWord?_eq_some_iff.2 ⟨token.gap, near, isName, ends, rfl⟩] at read
          contradiction

/-- An alias is the next word, or the one behind it if that is AS. -/
theorem aliasName?_eq (s : Text) : aliasName? s = (nextWord? s).map fun (name, rest) =>
    if Spells "AS".toList name then (nextWord? rest).getD (name, rest) else (name, rest) := by
  cases read : nextWord? s with
  | none =>
      by_contra found
      rcases Option.ne_none_iff_exists'.1 found with ⟨⟨name, rest⟩, aliased⟩
      exact nextWord?_eq_none_iff.1 read (aliasName?_eq_some_iff.1 aliased).wordFollows
  | some result =>
      rcases nextWord?_eq_some_iff.1 read with ⟨gap, spacing, isName, ends, rfl⟩
      simp only [Option.map_some]
      split
      · next as =>
          cases next : nextWord? result.2 with
          | none =>
              have alone := nextWord?_eq_none_iff.1 next
              exact aliasName?_eq_some_iff.2 (.plain spacing isName ends fun both => alone both.2)
          | some named =>
              rcases nextWord?_eq_some_iff.1 next with ⟨gap', spacing', isName', ends', whole⟩
              rw [whole]
              exact aliasName?_eq_some_iff.2 (.named spacing as spacing' isName' ends')
      · next other =>
          exact aliasName?_eq_some_iff.2 (.plain spacing isName ends fun both => other both.1)

theorem nearAlias?_tokens (s : Text) :
    nearAlias? (tokens s) = (aliasName? s).map fun (name, rest) => (name, tokens rest) := by
  rw [nearAlias?, nearWord?_tokens, aliasName?_eq]
  cases nextWord? s with
  | none => rfl
  | some result =>
      simp only [Option.map_some, Option.bind_eq_bind, Option.bind_some, nearWord?_tokens]
      split
      · cases nextWord? result.2 <;> rfl
      · rfl

/-- A keyword is read from a text only as its first word. -/
theorem keyword_of_names (isKeyword : IsName keyword) (isName : IsName word)
    (ends : wordEnds rest = true) {after : Text}
    (names : Names keyword (word ++ rest) binding after) : Spells keyword word := by
  rcases names with ⟨start, gap, behind, spells, spacing, _, _, whole⟩
  have isStart := isName_of_spells isKeyword spells
  obtain ⟨rfl, _⟩ := name_append_inj isName isStart ends (spacing.wordEnds _) whole
  exact spells

/-- Both ways of reading agree on one binding. -/
theorem tokenBinding?_tokens (isKeyword : IsName keyword) (gap : Text) (isName : IsName word)
    (ends : wordEnds rest = true) :
    tokenBinding? keyword (⟨gap, word⟩ :: tokens rest) =
      (binding? keyword none (word ++ rest)).map fun (binding, after) =>
        (binding, tokens after) := by
  by_cases spells : Spells keyword word
  · have read : keyword? keyword (word ++ rest) = some rest :=
      keyword?_eq_some_iff.2 ⟨word, spells, rfl⟩
    have fresh : wordMayBegin none = true := rfl
    simp only [tokenBinding?, binding?, spells, fresh, if_true, read, nearWord?_tokens,
      Option.bind_eq_bind, Option.bind_some]
    cases nextWord? rest with
    | none => rfl
    | some table =>
        simp only [Option.map_some, Option.bind_some, nearAlias?_tokens]
        cases aliasName? table.2 <;> rfl
  · have absent : binding? keyword none (word ++ rest) = none := by
      by_contra found
      rcases Option.ne_none_iff_exists'.1 found with ⟨⟨binding, after⟩, read⟩
      exact spells (keyword_of_names isKeyword isName ends (binding?_eq_some_iff.1 read).2)
    rw [absent]
    exact if_neg spells

end Reading

section Scans

theorem bindingsAfter_of_findAll (excluded : List Text)
    (found : (bindings keyword).findAll s = binding :: (bindings keyword).findAll rest) :
    bindingsAfter keyword excluded s =
      accepted excluded binding ++ bindingsAfter keyword excluded rest := by
  rw [bindingsAfter, found, List.filter_cons, accepted]
  by_cases other : excluded.contains (binding.name.map Char.toUpper) = true
  · simp only [other, Bool.not_true, Bool.false_eq_true, if_false, if_true]
    rfl
  · simp only [other, Bool.not_false, if_true]
    rfl

variable (isKeyword : IsName keyword)
include isKeyword

theorem findAll_bindings_of_wordEnds (ends : wordEnds s = true) (before : Option Char) :
    ((bindings keyword).scan before s).filterMap Piece.value? = (bindings keyword).findAll s := by
  have unread (before : Option Char) : (bindings keyword).read? before s = none :=
    binding?_of_wordEnds isKeyword ends
  rw [Pattern.findAll, Pattern.scan_of_read? _ ((unread before).trans (unread none).symm)]

/-- No binding begins in a gap. -/
theorem findAll_bindings_gap (wordless : gap.all (!isWord ·) = true) (s : Text) :
    (bindings keyword).findAll (gap ++ s) = (bindings keyword).findAll s := by
  induction gap with
  | nil => rfl
  | cons c gap ih =>
      simp only [List.all_cons, Bool.and_eq_true, Bool.not_eq_true'] at wordless
      have unread : binding? keyword none (c :: (gap ++ s)) = none :=
        binding?_of_wordEnds isKeyword (wordEnds_cons wordless.1 _)
      have absent : (bindings keyword).read? none (c :: (gap ++ s)) = none := unread
      rw [List.cons_append, Pattern.findAll, Pattern.scan_cons_of_none _ absent,
        scan_bindings_before wordless.1]
      exact ih wordless.2

/-- No binding begins within a word. -/
theorem findAll_bindings_within (inside : isWord c = true) (letters : s.all isWord = true)
    (ends : wordEnds rest = true) :
    ((bindings keyword).scan (some c) (s ++ rest)).filterMap Piece.value? =
      (bindings keyword).findAll rest := by
  induction s generalizing c with
  | nil => exact findAll_bindings_of_wordEnds isKeyword ends _
  | cons d s ih =>
      simp only [List.all_cons, Bool.and_eq_true] at letters
      have absent : (bindings keyword).read? (some c) (d :: (s ++ rest)) = none := by
        simp [bindings, binding?, wordMayBegin, inside]
      rw [List.cons_append, Pattern.scan_cons_of_none _ absent]
      exact ih letters.1 letters.2

theorem findAll_bindings_word (isName : IsName word) (ends : wordEnds rest = true) :
    (bindings keyword).findAll (word ++ rest) =
      match binding? keyword none (word ++ rest) with
      | some (binding, after) => binding :: (bindings keyword).findAll after
      | none => (bindings keyword).findAll rest := by
  rcases exists_cons_of_all isName.1 isName.2 with ⟨c, tail, rfl, letter, letters⟩
  split
  · next binding after read =>
      rw [Pattern.findAll, List.cons_append, Pattern.scan_cons_of_some _ read]
      rfl
  · next absent =>
      rw [Pattern.findAll, List.cons_append, Pattern.scan_cons_of_none _ absent]
      exact findAll_bindings_within isKeyword letter letters ends

/-- A pass over the words of a text binds what is read from its characters. -/
theorem bindingsAfter_eq_tokenBindings (excluded : List Text) (s : Text) :
    bindingsAfter keyword excluded s = tokenBindings keyword excluded (tokens s) := by
  -- Along the pass, for any text that is cut into these tokens.
  generalize cut : tokens s = ts
  fun_induction tokenBindings keyword excluded ts generalizing s with
  | case1 =>
      have none := findAll_bindings_gap isKeyword (wordless_of_tokens_eq_nil cut) []
      rw [List.append_nil] at none
      rw [bindingsAfter, none, Pattern.findAll, Pattern.scan]
      rfl
  | case2 start more binding after found ih =>
      rcases tokens_eq_cons cut with ⟨rest, rfl, wordless, isName, ends, rfl⟩
      have step := tokenBinding?_tokens isKeyword start.gap isName ends
      rw [found] at step
      rcases Option.map_eq_some_iff.1 step.symm with ⟨⟨binding', behind⟩, read, same⟩
      cases same
      have word := findAll_bindings_word isKeyword isName ends
      rw [read] at word
      rw [← findAll_bindings_gap isKeyword wordless] at word
      rw [bindingsAfter_of_findAll excluded word, ih behind rfl]
  | case3 start more absent ih =>
      rcases tokens_eq_cons cut with ⟨rest, rfl, wordless, isName, ends, rfl⟩
      have step := tokenBinding?_tokens isKeyword start.gap isName ends
      rw [absent] at step
      have word := findAll_bindings_word isKeyword isName ends
      rw [Option.map_eq_none_iff.1 step.symm] at word
      rw [← ih rest rfl, bindingsAfter, findAll_bindings_gap isKeyword wordless, word]
      rfl

/-- A character that is neither of a word nor blank separates a text for every pass. -/
theorem tokenBindings_append_stop (blank : isBlank c = false) (wordless : isWord c = false)
    (excluded : List Text) (s t : Text) :
    tokenBindings keyword excluded (tokens (s ++ c :: t)) =
      tokenBindings keyword excluded (tokens s) ++ tokenBindings keyword excluded (tokens t) := by
  have stops : (bindings keyword).StopsAt c := bindings_stopsAt isKeyword.2 blank wordless
  simp only [← bindingsAfter_eq_tokenBindings isKeyword, bindingsAfter, Pattern.findAll,
    Pattern.scan_append_stop stops, scan_bindings_before wordless, List.filterMap_append,
    List.filterMap_cons, Piece.value?, List.filter_append]

end Scans

section Queries

def fromPass (ts : List Token) : List Binding := tokenBindings "FROM".toList notAliasAfterFrom ts

def joinPass (ts : List Token) : List Binding := tokenBindings "JOIN".toList notAliasAfterJoin ts

/-- The aliases of a query are those that a pass for FROM and then a pass for JOIN bind over
its words, and neither pass goes on over a character that is not of a word and not blank. -/
theorem aliases_of_token_passes (sql : Text) :
    (∀ name, (Aliases.ofSql sql).get? name =
      Aliases.lastTable? name (fromPass (tokens sql) ++ joinPass (tokens sql))) ∧
    (fromBindings sql = fromPass (tokens sql) ∧ joinBindings sql = joinPass (tokens sql)) ∧
    ∀ first c second, sql = first ++ c :: second → isWord c = false → isBlank c = false →
      fromPass (tokens sql) = fromPass (tokens first) ++ fromPass (tokens second) ∧
      joinPass (tokens sql) = joinPass (tokens first) ++ joinPass (tokens second) := by
  have fromSame := bindingsAfter_eq_tokenBindings isName_from notAliasAfterFrom sql
  have joinSame := bindingsAfter_eq_tokenBindings isName_join notAliasAfterJoin sql
  refine ⟨?_, ⟨fromSame, joinSame⟩, ?_⟩
  · intro name
    rw [Aliases.get?_ofSql, fromBindings, fromSame, joinBindings, joinSame]
    rfl
  · rintro first c second rfl wordless blank
    exact ⟨tokenBindings_append_stop isName_from blank wordless _ first second,
      tokenBindings_append_stop isName_join blank wordless _ first second⟩

theorem aliases_of_token_passes_around_paren :
    (Aliases.ofSql "FROM a x (JOIN b AS y)".toList).get? "y".toList = some "b".toList ∧
    joinPass (tokens "FROM a x (JOIN b AS y)".toList) =
      joinPass (tokens "FROM a x ".toList) ++ joinPass (tokens "JOIN b AS y)".toList) := by
  have facts := aliases_of_token_passes "FROM a x (JOIN b AS y)".toList
  constructor
  · rw [facts.1]
    decide +kernel
  · exact (facts.2.2 "FROM a x ".toList '(' "JOIN b AS y)".toList rfl (by decide) (by decide)).2

end Queries

end QueryConditions
