import QueryConditions.Proofs.Query.Fragments
import QueryConditions.Proofs.Text.Spellings

/-!
The clause that a query has. It stands behind the first WHERE that begins as a word and has
blanks behind it, and it is the shortest text there with the end of the query or of the clause
behind it. Thus no blank stands at its beginning, and none before a keyword that ends it.
-/

namespace QueryConditions

variable {sql left s t keyword gap body rest : Text} {before : Option Char}

def OpensClause (left s : Text) : Prop :=
  wordMayBegin left.getLast? = true ∧ ∃ keyword gap rest,
    Spells "WHERE".toList keyword ∧ IsSpacing gap ∧ s = keyword ++ (gap ++ rest)

def IsEnder (s : Text) : Prop :=
  SpellsAll ["GROUP".toList, "BY".toList] s ∨ SpellsAll ["ORDER".toList, "BY".toList] s ∨
    SpellsAll ["HAVING".toList] s ∨ SpellsAll ["LIMIT".toList] s

/-- Blanks, and a keyword that ends the clause, with no more of its last word. -/
def EndsClause (s : Text) : Prop :=
  ∃ gap ender rest, IsSpacing gap ∧ IsEnder ender ∧ wordEnds rest = true ∧
    s = gap ++ (ender ++ rest)

def IsShortest (body rest : Text) : Prop :=
  ∀ start tail, body = start ++ tail → tail ≠ [] → ¬ EndsClause (tail ++ rest)

/-- The query is made of what stands before its clause, of WHERE and all blanks behind it, of
the clause, and of what stands behind it. -/
structure IsClause (sql left keyword gap body rest : Text) : Prop where
  whole : sql = left ++ (keyword ++ (gap ++ (body ++ rest)))
  fresh : wordMayBegin left.getLast? = true
  spells : Spells "WHERE".toList keyword
  spacing : IsSpacing gap
  maximal : ∀ c ∈ (body ++ rest).head?, isBlank c = false
  first : ∀ start part, left = start ++ part → part ≠ [] →
    ¬ OpensClause start (part ++ (keyword ++ (gap ++ (body ++ rest))))
  stops : rest = [] ∨ EndsClause rest
  shortest : IsShortest body rest

section Beginnings

theorem whereKeyword_read?_eq_some_iff : whereKeyword.read? before s = some ((), rest) ↔
    wordMayBegin before = true ∧ ∃ keyword gap, Spells "WHERE".toList keyword ∧ IsSpacing gap ∧
      s = keyword ++ (gap ++ rest) ∧ ∀ c ∈ rest.head?, isBlank c = false := by
  simp only [whereKeyword]
  split
  · next fresh =>
      simp only [fresh, true_and, Option.map_eq_some_iff, Option.bind_eq_bind,
        Option.bind_eq_some_iff, keyword?_eq_some_iff, blanks?_eq_some_iff, Prod.mk.injEq]
      constructor
      · rintro ⟨_, ⟨_, ⟨keyword, spells, rfl⟩, ⟨gap, spacing, rfl⟩, solid⟩, rfl⟩
        exact ⟨keyword, gap, spells, spacing, rfl, solid⟩
      · rintro ⟨keyword, gap, spells, spacing, rfl, solid⟩
        exact ⟨rest, ⟨_, ⟨keyword, spells, rfl⟩, ⟨gap, spacing, rfl⟩, solid⟩, rfl⟩
  · next within => simp [within]

/-- The blanks behind WHERE are read as far as they go. -/
theorem opensClause_iff :
    OpensClause left s ↔ ∃ rest, whereKeyword.read? left.getLast? s = some ((), rest) := by
  simp only [whereKeyword_read?_eq_some_iff]
  constructor
  · rintro ⟨fresh, keyword, gap, rest, spells, spacing, rfl⟩
    refine ⟨rest.dropWhile isBlank, fresh, keyword, gap ++ rest.takeWhile isBlank, spells, ?_, ?_,
      head?_dropWhile isBlank rest⟩
    · refine ⟨List.append_ne_nil_of_left_ne_nil spacing.1 _, ?_⟩
      rw [List.all_append, spacing.2, List.all_takeWhile]
      rfl
    · rw [List.append_assoc, List.takeWhile_append_dropWhile]
  · rintro ⟨rest, fresh, keyword, gap, spells, spacing, whole, _⟩
    exact ⟨fresh, keyword, gap, rest, spells, spacing, whole⟩

theorem not_opensClause_iff :
    ¬ OpensClause left s ↔ whereKeyword.read? left.getLast? s = none := by
  rw [opensClause_iff]
  cases whereKeyword.read? left.getLast? s with
  | none => simp
  | some result => simp [Prod.ext_iff]

end Beginnings

section Ends

theorem isEnder_iff : IsEnder s ↔ ∃ keywords ∈ clauseEnders, SpellsAll keywords s := by
  simp [IsEnder, clauseEnders]

theorem begins_clauseEnd_iff : clauseEnd.begins s = true ↔ EndsClause s := by
  have writable : ∀ keywords ∈ clauseEnders, Writable keywords ∧ keywords ≠ [] := by decide
  rw [← endsClause_eq, endsClause]
  constructor
  · intro found
    split at found
    · contradiction
    · next start blank =>
        rcases blanks?_eq_some_iff.1 blank with ⟨⟨gap, spacing, rfl⟩, _⟩
        rcases List.any_eq_true.1 found with ⟨keywords, member, found⟩
        rcases (Option.any_eq_true _ _).1 found with ⟨rest, read, ends⟩
        rcases writable keywords member with ⟨solid, some_word⟩
        rcases (keywords?_eq_some_iff solid some_word).1 read with ⟨ender, spells, rfl⟩
        exact ⟨gap, ender, rest, spacing, isEnder_iff.2 ⟨keywords, member, spells⟩, ends, rfl⟩
  · rintro ⟨gap, ender, rest, spacing, isEnder, ends, rfl⟩
    rcases isEnder_iff.1 isEnder with ⟨keywords, member, spells⟩
    rcases writable keywords member with ⟨solid, some_word⟩
    have read : keywords? keywords (ender ++ rest) = some rest :=
      (keywords?_eq_some_iff solid some_word).2 ⟨ender, spells, rfl⟩
    have blank : blanks? (gap ++ (ender ++ rest)) = some (ender ++ rest) := by
      apply blanks?_eq_some_iff.2
      refine ⟨⟨gap, spacing, rfl⟩, ?_⟩
      rcases head?_of_spellsAll solid spells with ⟨c, tail, rfl, solid⟩
      simpa using solid
    simp only [blank]
    apply List.any_eq_true.2
    exact ⟨keywords, member, (Option.any_eq_true _ _).2 ⟨rest, read, ends⟩⟩

theorem isShortest_iff : IsShortest body rest ↔ clauseEnd.Absent body rest := by
  simp only [IsShortest, Marker.absent_iff_split, ← begins_clauseEnd_iff, Bool.not_eq_true]

theorem EndsClause.cons {c : Char} (blank : isBlank c = true) (ends : EndsClause s) :
    EndsClause (c :: s) := by
  rcases ends with ⟨gap, ender, rest, spacing, isEnder, ends, rfl⟩
  refine ⟨c :: gap, ender, rest, ⟨List.cons_ne_nil c gap, ?_⟩, isEnder, ends, rfl⟩
  simp [blank, spacing.2]

end Ends

section Queries

theorem whereClause?_eq_none_iff : whereClause? sql = none ↔
    ∀ left tail, sql = left ++ tail → ¬ OpensClause left tail := by
  simp only [whereClause?, Option.map_eq_none_iff, Pattern.find?_eq_none_iff, not_opensClause_iff]

theorem isClause_of_whereClause? (found : whereClause? sql = some body) :
    ∃ left keyword gap rest, IsClause sql left keyword gap body rest := by
  rcases Option.map_eq_some_iff.1 found with ⟨⟨left, _, start⟩, first, rfl⟩
  rcases whereKeyword.find?_eq_some_iff.1 first with ⟨tail, rfl, read, unread⟩
  rcases whereKeyword_read?_eq_some_iff.1 read with
    ⟨fresh, keyword, gap, spells, spacing, rfl, solid⟩
  rcases clauseBody_split start with ⟨rest, whole, stops, absent⟩
  rw [begins_clauseEnd_iff] at stops
  refine ⟨left, keyword, gap, rest, ?_⟩
  refine ⟨?_, fresh, spells, spacing, ?_, ?_, stops, isShortest_iff.2 absent⟩
  · rw [← whole]
  · rw [← whole]
    exact solid
  · rw [← whole]
    exact fun start part cut some_char => not_opensClause_iff.2 (unread start part cut some_char)

theorem IsClause.whereClause? (clause : IsClause sql left keyword gap body rest) :
    whereClause? sql = some body := by
  have read := whereKeyword_read?_eq_some_iff.2
    ⟨clause.fresh, keyword, gap, clause.spells, clause.spacing, rfl, clause.maximal⟩
  have first := whereKeyword.find?_eq_some_iff.2 ⟨_, clause.whole, read,
    fun start part cut some_char => not_opensClause_iff.1 (clause.first start part cut some_char)⟩
  have stops := clause.stops
  rw [← begins_clauseEnd_iff] at stops
  rw [QueryConditions.whereClause?, first]
  exact congrArg some (clauseBody_append stops (isShortest_iff.1 clause.shortest))

theorem IsClause.begins_solid (clause : IsClause sql left keyword gap body rest) :
    ∀ c ∈ body.head?, isBlank c = false := by
  intro c first
  apply clause.maximal
  cases body with
  | nil => simp at first
  | cons d body => exact first

/-- Blanks before the keyword that ends the clause would belong to its end. -/
theorem IsClause.ends_solid (clause : IsClause sql left keyword gap body rest)
    (ended : rest ≠ []) : ∀ c ∈ body.getLast?, isBlank c = false := by
  intro c last
  cases blank : isBlank c with
  | false => rfl
  | true =>
      have ends := clause.stops.resolve_left ended
      rcases List.getLast?_eq_some_iff.1 last with ⟨start, cut⟩
      exact absurd (ends.cons blank) (clause.shortest start [c] cut (List.cons_ne_nil c []))

/-- No end of the clause stands in it, whether what stands behind it is read along or not. -/
theorem IsClause.no_end (clause : IsClause sql left keyword gap body rest) {start tail : Text}
    (cut : body = start ++ tail) (some_char : tail ≠ []) :
    ¬ EndsClause (tail ++ rest) ∧ ¬ EndsClause tail := by
  have shortest := clause.shortest start tail cut some_char
  have stops := clause.stops
  simp only [← begins_clauseEnd_iff] at stops shortest ⊢
  refine ⟨shortest, fun alone => ?_⟩
  exact shortest (Marker.begins_append alone (wordEnds_of_stops stops))

/-- A query has no clause if WHERE opens none anywhere in it. Otherwise its clause is the shortest
text behind the first WHERE that the end of the query or of the clause follows, so that it is
without blanks at its beginning, without an end of the clause in it, and without blanks before
the end that follows it. -/
theorem whereClause_exact (sql : Text) :
    (whereClause? sql = none ↔ ∀ left tail, sql = left ++ tail → ¬ OpensClause left tail) ∧
    (∀ body, whereClause? sql = some body ↔
      ∃ left keyword gap rest, IsClause sql left keyword gap body rest) ∧
    ∀ left keyword gap body rest, IsClause sql left keyword gap body rest →
      (∀ c ∈ body.head?, isBlank c = false) ∧
      (∀ start tail, body = start ++ tail → tail ≠ [] →
        ¬ EndsClause (tail ++ rest) ∧ ¬ EndsClause tail) ∧
      (rest ≠ [] → ∀ c ∈ body.getLast?, isBlank c = false) := by
  refine ⟨whereClause?_eq_none_iff, ?_, ?_⟩
  · intro body
    constructor
    · exact isClause_of_whereClause?
    · rintro ⟨left, keyword, gap, rest, clause⟩
      exact clause.whereClause?
  · intro left keyword gap body rest clause
    exact ⟨clause.begins_solid, fun _ _ => clause.no_end, clause.ends_solid⟩

theorem whereClause_exact_before_order :
    ∃ left keyword gap rest,
      IsClause "FROM t WHERE  a = 1  ORDER BY a".toList left keyword gap "a = 1".toList rest ∧
      ∀ c ∈ "a = 1".toList.head?, isBlank c = false := by
  have facts := (whereClause_exact "FROM t WHERE  a = 1  ORDER BY a".toList).2
  have found : whereClause? "FROM t WHERE  a = 1  ORDER BY a".toList = some "a = 1".toList := by
    decide +kernel
  rcases (facts.1 "a = 1".toList).1 found with ⟨left, keyword, gap, rest, clause⟩
  exact ⟨left, keyword, gap, rest, clause, (facts.2 _ _ _ _ _ clause).1⟩

end Queries

end QueryConditions
