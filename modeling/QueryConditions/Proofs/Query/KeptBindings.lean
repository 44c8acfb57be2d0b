import QueryConditions.Proofs.Query.Aliases
import QueryConditions.Proofs.Query.Bindings

/-!
Which written bindings count. Reading goes on behind the alias of a binding, and the keyword
itself can be read as a table or as an alias. Where that happens the binding that the keyword
would begin is swallowed, and its alias can be missing; every other one counts.
-/

namespace QueryConditions

variable {keyword left s t part rest after gap name word behind : Text} {excluded : List Text}
  {binding other : Binding}

structure Occurs (keyword left s : Text) (binding : Binding) (rest : Text) : Prop where
  fresh : wordMayBegin left.getLast? = true
  names : Names keyword s binding rest

/-- The keyword that the second text begins with is the table or the alias of a binding that
begins before it, ends behind it, and is read. -/
def KeywordTaken (keyword left s : Text) : Prop :=
  ∃ start part other after word behind, left = start ++ part ∧
    Occurs keyword start (part ++ s) other after ∧ after.length < s.length ∧
    other ∈ (bindings keyword).findAll (left ++ s) ∧
    s = word ++ behind ∧ wordEnds behind = true ∧ Spells keyword word ∧
    (word = other.table ∨ word = other.name)

theorem occurs_iff : Occurs keyword left s binding rest ↔
    (bindings keyword).read? left.getLast? s = some (binding, rest) := by
  constructor
  · rintro ⟨fresh, names⟩
    exact binding?_eq_some_iff.2 ⟨fresh, names⟩
  · intro read
    rcases binding?_eq_some_iff.1 read with ⟨fresh, names⟩
    exact ⟨fresh, names⟩

section Words

theorem wordMayBegin_of_append (fresh : wordMayBegin (s ++ part).getLast? = true) :
    wordMayBegin part.getLast? = true := by
  rcases List.eq_nil_or_concat part with rfl | ⟨part, c, rfl⟩
  · rfl
  · simpa [List.getLast?_append] using fresh

/-- A word that begins behind the first character of a name begins behind the name. -/
theorem behind_name (isName : IsName name) (some_char : part ≠ [])
    (fresh : wordMayBegin part.getLast? = true) (same : part ++ s = name ++ t) :
    ∃ later, wordMayBegin later.getLast? = true ∧ later ++ s = t := by
  rcases List.append_eq_append_iff.1 same with ⟨between, rfl, _⟩ | ⟨later, rfl, whole⟩
  · rcases List.eq_nil_or_concat part with rfl | ⟨part, c, rfl⟩
    · exact absurd rfl some_char
    · have letter := List.all_eq_true.1 isName.2 c (by simp)
      rw [List.concat_eq_append, List.getLast?_concat, wordMayBegin, letter] at fresh
      contradiction
  · exact ⟨later, wordMayBegin_of_append fresh, whole.symm⟩

/-- A word that begins with blanks before it begins behind all of these. -/
theorem behind_gap (spacing : IsSpacing gap) (isWord : IsName word)
    (fresh : wordMayBegin part.getLast? = true) (same : part ++ (word ++ behind) = gap ++ t) :
    ∃ later, wordMayBegin later.getLast? = true ∧ later ++ (word ++ behind) = t := by
  rcases List.append_eq_append_iff.1 same with ⟨between, rfl, whole⟩ | ⟨later, rfl, whole⟩
  · rcases exists_cons_of_all isWord.1 isWord.2 with ⟨c, word, rfl, letter, _⟩
    cases between with
    | nil => exact ⟨[], rfl, whole⟩
    | cons d between =>
        have blank := List.all_eq_true.1 spacing.2 d (by simp)
        rw [(List.cons.inj whole).1, isWord_of_isBlank blank] at letter
        contradiction
  · exact ⟨later, wordMayBegin_of_append fresh, whole.symm⟩

/-- A word that begins behind a gap is the name behind the gap or begins behind it. -/
theorem first_or_behind (spacing : IsSpacing gap) (isName : IsName name) (isWord : IsName word)
    (ends : wordEnds behind = true) (ends' : wordEnds t = true)
    (fresh : wordMayBegin part.getLast? = true)
    (same : part ++ (word ++ behind) = gap ++ (name ++ t)) :
    word = name ∨ ∃ later, wordMayBegin later.getLast? = true ∧ later ++ (word ++ behind) = t := by
  rcases behind_gap spacing isWord fresh same with ⟨later, fresh, same⟩
  by_cases empty : later = []
  · subst empty
    exact .inl (name_append_inj isWord isName ends ends' same).1
  · exact .inr (behind_name isName empty fresh same)

theorem alias_of_word (isWord : IsName word) (ends : wordEnds behind = true)
    (notAs : ¬ Spells "AS".toList word) (written : IsAlias t name after)
    (past : after.length < (word ++ behind).length) (fresh : wordMayBegin part.getLast? = true)
    (same : part ++ (word ++ behind) = t) : word = name := by
  have last {later : Text} (whole : later ++ (word ++ behind) = after) : False := by
    rw [← whole, List.length_append] at past
    omega
  cases written with
  | plain spacing isName ends' =>
      rcases first_or_behind spacing isName isWord ends ends' fresh same with here | ⟨_, _, whole⟩
      · exact here
      · exact absurd whole last
  | @named _ as _ _ _ spacing spells spacing' isName ends' =>
      have isAs := isName_of_spells isName_as spells
      have ends'' := spacing'.wordEnds (name ++ after)
      rcases first_or_behind spacing isAs isWord ends ends'' fresh same with rfl | ⟨_, fresh, same⟩
      · exact absurd spells notAs
      · rcases first_or_behind spacing' isName isWord ends ends' fresh same with
          here | ⟨_, _, whole⟩
        · exact here
        · exact absurd whole last

/-- A word within a binding that is neither its keyword nor AS is its table or its alias. -/
theorem table_or_alias_of_word (isKeyword : IsName keyword) (isWord : IsName word)
    (ends : wordEnds behind = true) (notAs : ¬ Spells "AS".toList word)
    (names : Names keyword (part ++ (word ++ behind)) other after)
    (past : after.length < (word ++ behind).length) (some_char : part ≠ [])
    (fresh : wordMayBegin part.getLast? = true) : word = other.table ∨ word = other.name := by
  rcases names with ⟨start, gap, tail, spells, spacing, isTable, written, same⟩
  rcases behind_name (isName_of_spells isKeyword spells) some_char fresh same with
    ⟨later, fresh, same⟩
  rcases first_or_behind spacing isTable isWord ends written.ends fresh same with
    here | ⟨later, fresh, same⟩
  · exact .inl here
  · exact .inr (alias_of_word isWord ends notAs written past fresh same)

end Words

section Kept

variable (isKeyword : IsName keyword)
include isKeyword

theorem bindingsAfter_of_kept (occurs : Occurs keyword left s binding rest)
    (allowed : binding.name.map Char.toUpper ∉ excluded)
    (kept : ¬ (bindings keyword).Swallowed left s) :
    ∃ earlier, bindingsAfter keyword excluded (left ++ s) =
      earlier ++ binding :: bindingsAfter keyword excluded rest := by
  have read := occurs_iff.1 occurs
  rcases Pattern.findAll_of_not_swallowed (bindings_settled isKeyword) kept read with
    ⟨earlier, whole⟩
  have passes : (!excluded.contains (binding.name.map Char.toUpper)) = true := by
    simpa using allowed
  rw [bindingsAfter, whole, List.filter_append, List.filter_cons, if_pos passes]
  exact ⟨_, rfl⟩

theorem keywordTaken_of_swallowed (notAs : ¬ Spells "AS".toList keyword)
    (occurs : Occurs keyword left s binding rest)
    (swallowed : (bindings keyword).Swallowed left s) : KeywordTaken keyword left s := by
  rcases occurs with ⟨fresh, word, gap, tail, spells, spacing, _, _, rfl⟩
  rcases swallowed.findAll (bindings_settled isKeyword) with
    ⟨start, part, other, after, earlier, rfl, some_char, read, past, whole⟩
  have before := occurs_iff.2 read
  have isWord := isName_of_spells isKeyword spells
  have ends := spacing.wordEnds (binding.table ++ tail)
  have notAs' : ¬ Spells "AS".toList word := fun as => notAs (spells.symm.trans as)
  have taken := table_or_alias_of_word isKeyword isWord ends notAs' before.names past some_char
    (wordMayBegin_of_append fresh)
  refine ⟨start, part, other, after, word, _, rfl, before, past, ?_, rfl, ends, spells, taken⟩
  rw [whole]
  exact List.mem_append_right _ List.mem_cons_self

end Kept

section Queries

/-- An alias that is written behind FROM or JOIN, and is not excluded there, has the table of
its last binding, that of a JOIN before that of a FROM, unless its keyword has been taken for
a table or an alias. -/
theorem alias_bound_unless_keyword_taken (left s rest : Text) (binding : Binding) :
    (Occurs "JOIN".toList left s binding rest →
      binding.name.map Char.toUpper ∉ notAliasAfterJoin →
        (¬ (bindings "JOIN".toList).Swallowed left s →
          (Aliases.ofSql (left ++ s)).get? binding.name =
            some ((Aliases.lastTable? binding.name (joinBindings rest)).getD binding.table)) ∧
        ((bindings "JOIN".toList).Swallowed left s → KeywordTaken "JOIN".toList left s)) ∧
    (Occurs "FROM".toList left s binding rest →
      binding.name.map Char.toUpper ∉ notAliasAfterFrom →
        (¬ (bindings "FROM".toList).Swallowed left s →
          (Aliases.ofSql (left ++ s)).get? binding.name =
            some ((Aliases.lastTable? binding.name (joinBindings (left ++ s))).getD
              ((Aliases.lastTable? binding.name (fromBindings rest)).getD binding.table))) ∧
        ((bindings "FROM".toList).Swallowed left s → KeywordTaken "FROM".toList left s)) := by
  rw [Aliases.get?_ofSql, Aliases.lastTable?_append]
  constructor
  · intro occurs allowed
    refine ⟨?_, keywordTaken_of_swallowed isName_join (by decide) occurs⟩
    intro kept
    -- What is bound before it does not matter, as it replaces that.
    rcases bindingsAfter_of_kept isName_join occurs allowed kept with ⟨earlier, whole⟩
    rw [joinBindings, whole, Aliases.lastTable?_append, Aliases.lastTable?_cons_self]
    rfl
  · intro occurs allowed
    refine ⟨?_, keywordTaken_of_swallowed isName_from (by decide) occurs⟩
    intro kept
    rcases bindingsAfter_of_kept isName_from occurs allowed kept with ⟨earlier, whole⟩
    rw [fromBindings, whole, Aliases.lastTable?_append, Aliases.lastTable?_cons_self]
    cases Aliases.lastTable? binding.name (joinBindings (left ++ s)) <;> rfl

theorem alias_bound_or_keyword_taken_each_way :
    (Aliases.ofSql ("FROM a x ".toList ++ "JOIN b AS y".toList)).get? "y".toList =
      some "b".toList ∧
    (Aliases.ofSql ([] ++ "FROM a x JOIN b AS y".toList)).get? "x".toList = some "a".toList ∧
    KeywordTaken "JOIN".toList ([] ++ "JOIN a ".toList) "JOIN b y".toList := by
  refine ⟨?_, ?_, ?_⟩
  · have first : (bindings "JOIN".toList).find? none ("FROM a x ".toList ++ "JOIN b AS y".toList) =
        some ("FROM a x ".toList, ⟨"y".toList, "b".toList⟩, []) := by decide +kernel
    have occurs : Occurs "JOIN".toList "FROM a x ".toList "JOIN b AS y".toList
        ⟨"y".toList, "b".toList⟩ [] := occurs_iff.2 (by decide +kernel)
    have bound := (alias_bound_unless_keyword_taken _ _ _ _).1 occurs (by decide)
    rw [bound.1 (Pattern.not_swallowed_of_find? first)]
    decide +kernel
  · have first : (bindings "FROM".toList).find? none ([] ++ "FROM a x JOIN b AS y".toList) =
        some ([], ⟨"x".toList, "a".toList⟩, " JOIN b AS y".toList) := by decide +kernel
    have occurs : Occurs "FROM".toList [] "FROM a x JOIN b AS y".toList
        ⟨"x".toList, "a".toList⟩ " JOIN b AS y".toList := occurs_iff.2 (by decide +kernel)
    have bound := (alias_bound_unless_keyword_taken _ _ _ _).2 occurs (by decide)
    rw [bound.1 (Pattern.not_swallowed_of_find? first)]
    decide +kernel
  · have first : (bindings "JOIN".toList).find? none
        ([] ++ ("JOIN a ".toList ++ "JOIN b y".toList)) =
          some ([], ⟨"JOIN".toList, "a".toList⟩, " b y".toList) := by decide +kernel
    have occurs : Occurs "JOIN".toList ([] ++ "JOIN a ".toList) "JOIN b y".toList
        ⟨"y".toList, "b".toList⟩ [] := occurs_iff.2 (by decide +kernel)
    have bound := (alias_bound_unless_keyword_taken _ _ _ _).1 occurs (by decide)
    exact bound.2 (Pattern.swallowed_of_find? first (by decide) (by decide))

/-- The second JOIN is taken for the alias of a table that has none. -/
theorem join_swallowed_behind_unaliased_table : ¬ ∀ left s rest binding,
    Occurs "JOIN".toList left s binding rest →
    binding.name.map Char.toUpper ∉ notAliasAfterJoin →
    ∃ table, (Aliases.ofSql (left ++ s)).get? binding.name = some table := by
  intro bound
  have occurs : Occurs "JOIN".toList "SELECT * FROM a x CROSS JOIN b ".toList
      "JOIN c y ON x.i = y.i WHERE y.j = 1".toList ⟨"y".toList, "c".toList⟩
      " ON x.i = y.i WHERE y.j = 1".toList := by
    apply occurs_iff.2
    decide +kernel
  rcases bound _ _ _ _ occurs (by decide) with ⟨table, found⟩
  have absent : (Aliases.ofSql ("SELECT * FROM a x CROSS JOIN b ".toList ++
      "JOIN c y ON x.i = y.i WHERE y.j = 1".toList)).get? "y".toList = none := by decide +kernel
  rw [absent] at found
  contradiction

end Queries

end QueryConditions
