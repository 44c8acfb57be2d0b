import QueryConditions.Proofs.Condition.Quoted

/-!
What written forms state. The written form of a condition is read as it is meant, whatever its
value holds, but for the operators of higher priority that stand between blanks in the value. For
what a fragment states there are none of these, so its written form states the same.
-/

namespace QueryConditions

variable {condition : Condition} {reference literal : Text} {op : Operator}

section Values

/-- Blanks stand in the text and then the operator, with a blank behind it or, where it takes no
value, with the end of a word. -/
def Operator.StandsIn (op : Operator) (s : Text) : Prop :=
  ∃ rest, rest <:+ s ∧ (operatorMarker op).begins rest = true

theorem standsIn_iff {s : Text} : op.StandsIn s ↔ ¬ (operatorMarker op).Absent s [] := by
  rw [Marker.absent_iff]
  simp [Operator.StandsIn]

instance (op : Operator) (s : Text) : Decidable (op.StandsIn s) := decidable_of_iff' _ standsIn_iff

/-- Of the operators of higher priority in the value the first is found. -/
theorem match_of_standsIn (legible : condition.Legible) {first : Operator}
    (earlier : first ∈ condition.operator.earlier) (stands : first.StandsIn condition.value) :
    ∃ found, matchOperator? condition.quoted = some found ∧
      found.operator ∈ condition.operator.earlier ∧ found.operator.StandsIn condition.value ∧
        ∀ other ∈ found.operator.earlier, ¬ other.StandsIn condition.value := by
  have absent : ∀ {other : Operator}, other ≠ condition.operator →
      (spacedMatch? condition.quoted other = none ↔ ¬ other.StandsIn condition.value) := by
    intro other different
    rw [standsIn_iff, not_not]
    exact Condition.spacedMatch?_quoted_eq_none_iff legible different
  have spaced : spacedMatch? condition.quoted first ≠ none := by
    rwa [ne_eq, absent (ne_of_mem_earlier earlier), not_not]
  rcases exists_match_earlier earlier spaced with ⟨found, matched, member, here⟩
  refine ⟨found, matched, member, ?_, ?_⟩
  · by_contra missing
    rw [(absent (ne_of_mem_earlier member)).2 missing] at here
    contradiction
  · intro other before
    have unmatched := spacedMatch?_earlier matched other before
    -- The operator of the condition itself does match.
    have different : other ≠ condition.operator := by
      rintro rfl
      have own := Condition.spacedMatch?_quoted (Condition.isColumn_qualifiedColumn legible)
      exact absurd (own.symm.trans unmatched) (Option.some_ne_none _)
    exact (absent different).1 unmatched

/-- All that the written form of a condition can state. -/
theorem quoted_states (legible : condition.Legible) (aliases : Aliases) :
    ((∀ other ∈ condition.operator.earlier, ¬ other.StandsIn condition.value) →
      Condition.ofFragment? aliases condition.quoted = some (condition.resolved aliases)) ∧
    ((∃ other ∈ condition.operator.earlier, other.StandsIn condition.value) →
      ∃ stated, Condition.ofFragment? aliases condition.quoted = some stated ∧
        stated.operator ∈ condition.operator.earlier ∧ stated.operator.StandsIn condition.value ∧
          ∀ other ∈ stated.operator.earlier, ¬ other.StandsIn condition.value) := by
  constructor
  · intro alone
    refine Condition.ofFragment?_quoted legible (fun other earlier => ?_) aliases
    have missing := alone other earlier
    rwa [standsIn_iff, not_not] at missing
  · rintro ⟨first, earlier, stands⟩
    rcases match_of_standsIn legible earlier stands with ⟨found, matched, member, inside, before⟩
    exact ⟨_, Option.map_eq_some_iff.2 ⟨found, matched, rfl⟩, member, inside, before⟩

end Values

section Literals

def comparison (reference : Text) (op : Operator) (literal : Text) : Text :=
  reference ++ ' ' :: (op.token ++ ' ' :: '\'' :: (literal ++ ['\'']))

/-- A comparison is the written form of what it is meant to state, with the qualifier of the
column in the place of the table. -/
theorem comparison_meant (isColumn : IsColumn reference) (binary : op.isUnary = false)
    (findable : op ≠ .notIn) (plain : literal.all (!isQuote ·) = true) :
    ∃ condition : Condition, condition.Legible ∧ condition.operator = op ∧
      condition.value = literal ∧ condition.quoted = comparison reference op literal ∧
        ∀ aliases : Aliases, condition.resolved aliases =
          ⟨(splitQualified reference).2, (splitQualified reference).1.elim [] aliases.resolve, op,
            literal⟩ := by
  have legible {column table : Text} (isName : IsName column)
      (isTable : table = [] ∨ IsName table) : Condition.Legible ⟨column, table, op, literal⟩ :=
    ⟨isName, isTable, findable, by simp [binary], clearEnds_of_all plain⟩
  have operand (column table : Text) : Condition.operand ⟨column, table, op, literal⟩ =
      some ('\'' :: (literal ++ ['\''])) := Condition.operand_of_binary binary
  cases isColumn with
  | bare isName =>
      refine ⟨⟨reference, [], op, literal⟩, legible isName (.inl rfl), rfl, rfl, ?_, ?_⟩
      · simp [Condition.quoted, Condition.qualifiedColumn, Condition.predicate,
          Condition.operandText, operand, comparison]
      · simp [Condition.resolved, splitQualified_name isName]
  | @dotted table name isTable isName =>
      have some_char := isTable.1
      refine ⟨⟨name, table, op, literal⟩, legible isName (.inr isTable), rfl, rfl, ?_, ?_⟩
      · simp [Condition.quoted, Condition.qualifiedColumn, Condition.predicate,
          Condition.operandText, operand, comparison, some_char]
      · simp [Condition.resolved, splitQualified_dotted isTable name, some_char]

/-- A comparison is read as it is meant if no operator of higher priority stands in the literal,
and otherwise with the first of those for its operator. -/
theorem literal_kept (isColumn : IsColumn reference) (binary : op.isUnary = false)
    (findable : op ≠ .notIn) (plain : literal.all (!isQuote ·) = true) (aliases : Aliases) :
    ((∀ other ∈ op.earlier, ¬ other.StandsIn literal) →
      Condition.ofFragment? aliases (comparison reference op literal) =
        some ⟨(splitQualified reference).2, (splitQualified reference).1.elim [] aliases.resolve,
          op, literal⟩) ∧
    ((∃ other ∈ op.earlier, other.StandsIn literal) →
      ∃ condition, Condition.ofFragment? aliases (comparison reference op literal) =
          some condition ∧
        condition.operator ∈ op.earlier ∧ condition.operator.StandsIn literal ∧
          ∀ other ∈ condition.operator.earlier, ¬ other.StandsIn literal) := by
  rcases comparison_meant isColumn binary findable plain with
    ⟨condition, legible, rfl, rfl, quoted, resolved⟩
  have states := quoted_states legible aliases
  rwa [quoted, resolved] at states

theorem literal_kept_or_hidden :
    Condition.ofFragment? (Aliases.empty.insertAll [⟨['e'], "staff".toList⟩])
        (comparison "e.code".toList .like "a<=b <c =d IN (e)".toList) =
      some ⟨"code".toList, "staff".toList, .like, "a<=b <c =d IN (e)".toList⟩ ∧
    ∃ condition, Condition.ofFragment? .empty (comparison "code".toList .between
        "a LIKE b is  null <".toList) = some condition ∧
      condition.operator ∈ Operator.between.earlier ∧
        condition.operator.StandsIn "a LIKE b is  null <".toList ∧
          ∀ other ∈ condition.operator.earlier, ¬ other.StandsIn "a LIKE b is  null <".toList := by
  have dotted : IsColumn "e.code".toList :=
    show IsColumn ("e".toList ++ '.' :: "code".toList) from
      .dotted ⟨by decide, by decide⟩ ⟨by decide, by decide⟩
  have bare : IsColumn "code".toList := .bare ⟨by decide, by decide⟩
  have like : Operator.like.StandsIn "a LIKE b is  null <".toList := by decide
  constructor
  · exact (literal_kept dotted rfl (by decide) (by decide) _).1 (by decide)
  · exact (literal_kept bare rfl (by decide) (by decide) _).2 ⟨.like, by decide, like⟩

/-- An operator between blanks in a literal can be taken for the operator of the condition. -/
theorem literal_decides : ¬ ∀ (reference literal : Text) (op : Operator) (aliases : Aliases),
    IsColumn reference → op.isUnary = false → op ≠ .notIn → literal.all (!isQuote ·) = true →
    ∃ condition, Condition.ofFragment? aliases (comparison reference op literal) =
        some condition ∧
      condition.column = (splitQualified reference).2 ∧ condition.operator = op ∧
        condition.value = literal := by
  intro kept
  have bare : IsColumn "code".toList := .bare ⟨by decide, by decide⟩
  have read : Condition.ofFragment? .empty
      (comparison "code".toList .like "a = b".toList) =
        some ⟨"code".toList, [], .eq, "b".toList⟩ := by decide +kernel
  rcases kept _ "a = b".toList .like .empty bare rfl (by decide) (by decide) with
    ⟨condition, stated, _, operator, _⟩
  rw [read] at stated
  cases stated
  contradiction

end Literals

section Fragments

/-- A fragment about a column with a name states what the written form of its condition states,
however it is spelled itself. -/
theorem canonical_of_fragment {aliases : Aliases} {fragment : Text}
    (stated : Condition.ofFragment? aliases fragment = some condition)
    (column : IsName condition.column)
    (table : condition.table = [] ∨ IsName condition.table) :
    Condition.ofFragment? .empty condition.quoted = some condition := by
  have legible := legible_of_fragment stated column table
  have no_earlier := no_earlier_of_fragment stated
  exact Condition.ofFragment?_quoted_self legible no_earlier

theorem canonical_of_fragment_wrapped :
    Condition.ofFragment? (Aliases.empty.insertAll [⟨['e'], "staff".toList⟩])
        "  UPPER( Trim(e.name) )>=\" O'Hare=in-between\" \t".toList =
      some ⟨"name".toList, "staff".toList, .ge, " O'Hare=in-between".toList⟩ ∧
    Condition.ofFragment? .empty "staff.name >= ' O'Hare=in-between'".toList =
      some ⟨"name".toList, "staff".toList, .ge, " O'Hare=in-between".toList⟩ := by
  have stated : Condition.ofFragment? (Aliases.empty.insertAll [⟨['e'], "staff".toList⟩])
      "  UPPER( Trim(e.name) )>=\" O'Hare=in-between\" \t".toList =
        some ⟨"name".toList, "staff".toList, .ge, " O'Hare=in-between".toList⟩ := by
    decide +kernel
  exact ⟨stated, canonical_of_fragment stated ⟨by decide, by decide⟩
    (.inr ⟨by decide, by decide⟩)⟩

end Fragments

end QueryConditions
