import Mathlib.Data.List.Sort
import QueryConditions.Proofs.Extraction.Nesting

/-!
The outermost subqueries. The search jumps behind each subquery that it takes, and it goes on
inside of each one that is never closed. What it takes are the closed subqueries that stand in
no other one, in their order; every closed subquery is one of these or inside of one.
-/

namespace QueryConditions

def ClosedAt (sql : Text) (start close : Nat) : Prop :=
  OpensAt sql start ∧ matchingParen? sql start = some close

variable {sql : Text} {start stop close : Nat} {place : Nat × Text}

section Groups

theorem matchingParen?_eq_some_iff :
    matchingParen? sql start = some close ↔ ∃ before interior after : Text,
      sql = before ++ '(' :: (interior ++ ')' :: after) ∧ Balanced interior ∧
        before.byteLength = start ∧ start + 1 + interior.byteLength = close := by
  simp only [matchingParen?, Option.bind_eq_bind, Option.bind_eq_some_iff,
    dropBytes?_eq_some_iff, Prod.exists, group?_eq_some_iff, Option.pure_def, Option.some.injEq]
  constructor
  · rintro ⟨group, ⟨before, rfl, length⟩, interior, after, ⟨balanced, rfl⟩, close⟩
    exact ⟨before, interior, after, rfl, balanced, length, close⟩
  · rintro ⟨before, interior, after, rfl, balanced, length, close⟩
    exact ⟨_, ⟨before, rfl, length⟩, interior, after, ⟨balanced, rfl⟩, close⟩

/-- Both parentheses of a group stand between characters, the first one before the second. -/
theorem bounded_of_matchingParen? (closed : matchingParen? sql start = some close) :
    start < close + 1 ∧ (sql.dropBytes? start).isSome = true ∧
      (sql.dropBytes? (close + 1)).isSome = true := by
  rcases matchingParen?_eq_some_iff.1 closed with ⟨before, interior, after, rfl, _, rfl, rfl⟩
  have behind : before ++ '(' :: (interior ++ ')' :: after) =
      (before ++ '(' :: (interior ++ [')'])) ++ after := by simp
  have stop : Text.byteLength (before ++ '(' :: (interior ++ [')'])) =
      before.byteLength + 1 + interior.byteLength + 1 := by
    rw [Text.byteLength_append, byteLength_group, Text.byteLength_nil]
    omega
  constructor
  · omega
  constructor
  · rw [dropBytes?_byteLength]
    rfl
  · rw [behind, ← stop, dropBytes?_byteLength]
    rfl

/-- Every parenthesis that opens in a group is closed there. -/
theorem closes_within {offset : Nat} {t : Text} (closed : matchingParen? sql start = some close)
    (here : sql.dropBytes? offset = some ('(' :: t)) (low : start ≤ offset)
    (high : offset ≤ close) : ∃ inner ≤ close, matchingParen? sql offset = some inner := by
  rcases matchingParen?_eq_some_iff.1 closed with
    ⟨before, interior, after, rfl, balanced, rfl, rfl⟩
  rcases Nat.exists_eq_add_of_le low with ⟨more, rfl⟩
  have size := byteLength_group interior []
  have whole : '(' :: (interior ++ ')' :: after) = '(' :: (interior ++ [')']) ++ after := by simp
  rw [Text.byteLength_nil] at size
  -- What is left of the group from there on is the end of a balanced text.
  rw [dropBytes?_append, whole, dropBytes?_append_left (by omega)] at here
  rcases Option.map_eq_some_iff.1 here with ⟨tail, found, same⟩
  rcases dropBytes?_eq_some_iff.1 found with ⟨left, split, length⟩
  have lengths := congrArg Text.byteLength split
  cases tail with
  | nil =>
      rw [List.append_nil] at lengths
      omega
  | cons c tail =>
      have group : Balanced ('(' :: (interior ++ [')'])) := .group balanced .nil
      rw [List.cons_append, List.cons.injEq] at same
      rcases same with ⟨rfl, rfl⟩
      rcases group.group_of_suffix ⟨left, split.symm⟩ with ⟨inside, rest, balanced', rfl⟩
      refine ⟨before.byteLength + more + 1 + inside.byteLength, ?_, ?_⟩
      · rw [size, Text.byteLength_append, byteLength_group] at lengths
        omega
      · refine matchingParen?_eq_some_iff.2
          ⟨before ++ left, inside, rest ++ after, ?_, balanced', ?_, rfl⟩
        · rw [whole, split]
          simp
        · rw [Text.byteLength_append, length]

theorem closedAt_iff : ClosedAt sql start close ↔ ⟨start, close⟩ ∈ spans 0 sql := by
  simp only [ClosedAt, ← closedSubqueries_eq, closedSubqueries, List.mem_filterMap,
    List.mem_range, Span.at?]
  constructor
  · rintro ⟨opens, closed⟩
    refine ⟨start, ?_, by simp [opens, closed]⟩
    rcases matchingParen?_eq_some_iff.1 closed with ⟨before, interior, after, rfl, _, rfl, _⟩
    rw [Text.byteLength_append, byteLength_group]
    omega
  · rintro ⟨offset, _, found⟩
    split at found
    · next opens =>
        rcases Option.map_eq_some_iff.1 found with ⟨stop, closed, same⟩
        cases same
        exact ⟨opens, closed⟩
    · contradiction

end Groups

section Placed

theorem spansFrom_eq_placed (start : Nat) (pieces : List Segment) :
    subquerySpans.spansFrom start pieces =
      (placed start pieces).map fun place => (place.1, place.1 + 1 + place.2.byteLength + 1) := by
  induction pieces generalizing start with
  | nil => rfl
  | cons piece rest ih =>
      cases piece with
      | plain c => exact ih (start + c.utf8Size)
      | found interior =>
          have stop : start + interior.byteLength + 2 = start + 1 + interior.byteLength + 1 := by
            omega
          simp only [subquerySpans.spansFrom, placed, List.map_cons, stop, ih]

theorem mem_subquerySpans_iff : (start, stop) ∈ subquerySpans sql ↔
    ∃ place ∈ placed 0 (segments sql),
      place.1 = start ∧ place.1 + 1 + place.2.byteLength + 1 = stop := by
  simp only [subquerySpans, spansFrom_eq_placed, List.mem_map, Prod.mk.injEq]

theorem closedAt_of_placed (member : place ∈ placed 0 (segments sql)) :
    ClosedAt sql place.1 (place.1 + 1 + place.2.byteLength) := by
  rw [closedAt_iff, spans_eq_flatMap_branch]
  exact List.mem_flatMap.2 ⟨place, member, List.mem_cons_self⟩

theorem placed_of_closedAt (closed : ClosedAt sql start close) :
    ∃ place ∈ placed 0 (segments sql),
      place.1 = start ∧ place.1 + 1 + place.2.byteLength = close ∨
      place.1 < start ∧ close < place.1 + 1 + place.2.byteLength := by
  rw [closedAt_iff, spans_eq_flatMap_branch] at closed
  rcases List.mem_flatMap.1 closed with ⟨place, member, branch⟩
  refine ⟨place, member, ?_⟩
  rcases List.mem_cons.1 branch with same | inside
  · cases same
    exact Or.inl ⟨rfl, rfl⟩
  · have bounds := spans_bounds inside
    simp only at bounds
    omega

theorem not_enclosed_of_placed (member : place ∈ placed 0 (segments sql))
    (closed : ClosedAt sql start close) :
    ¬ (start < place.1 ∧ place.1 + 1 + place.2.byteLength < close) := by
  intro encloses
  have alone := nearest?_outermost member
  rw [nearest?, List.getLast?_eq_none_iff, List.filter_eq_nil_iff] at alone
  exact alone _ (closedAt_iff.1 closed) (Span.encloses_iff.2 encloses)

end Placed

section Spans

/-- Spans from the opening parenthesis of a subquery to just behind the closing one: those of
the closed subqueries that no other one is around, in order and apart from each other. -/
structure OutermostSpans (sql : Text) (found : List (Nat × Nat)) : Prop where
  apart : found.Pairwise fun first second => first.2 ≤ second.1
  bounded : ∀ span ∈ found, span.1 < span.2 ∧
    (sql.dropBytes? span.1).isSome = true ∧ (sql.dropBytes? span.2).isSome = true
  mem_iff : ∀ start stop, (start, stop) ∈ found ↔ ∃ close, close + 1 = stop ∧
    ClosedAt sql start close ∧
      ∀ start' close', ClosedAt sql start' close' → ¬ (start' < start ∧ close < close')
  covers : ∀ start close, ClosedAt sql start close →
    ∃ span ∈ found, span.1 ≤ start ∧ close < span.2
  unclosed : ∀ start, OpensAt sql start → matchingParen? sql start = none →
    ∀ span ∈ found, start < span.1 ∨ span.2 ≤ start

/-- The spans stand in order, so their members leave no choice. -/
theorem OutermostSpans.unique {first second : List (Nat × Nat)} (one : OutermostSpans sql first)
    (other : OutermostSpans sql second) : first = second := by
  let precedes (span next : Nat × Nat) : Prop := span.1 < next.1
  have : Std.Irrefl precedes := ⟨fun _ => Nat.lt_irrefl _⟩
  have : Std.Antisymm precedes :=
    ⟨fun _ _ less more => absurd (Nat.lt_trans less more) (Nat.lt_irrefl _)⟩
  have increasing {found : List (Nat × Nat)} (spans : OutermostSpans sql found) :
      found.Pairwise precedes := by
    apply spans.apart.imp_of_mem
    intro span next member _ apart
    exact Nat.lt_of_lt_of_le (spans.bounded span member).1 apart
  apply (increasing one).eq_of_mem_iff (increasing other)
  intro span
  rw [one.mem_iff, other.mem_iff]

theorem outermostSpans_subquerySpans (sql : Text) : OutermostSpans sql (subquerySpans sql) where
  apart := by
    rw [subquerySpans, spansFrom_eq_placed]
    exact List.pairwise_map.2 (placed_apart 0 (segments sql))
  bounded := by
    rintro ⟨start, stop⟩ member
    rcases mem_subquerySpans_iff.1 member with ⟨place, inside, rfl, rfl⟩
    exact bounded_of_matchingParen? (closedAt_of_placed inside).2
  mem_iff := by
    intro start stop
    rw [mem_subquerySpans_iff]
    constructor
    · rintro ⟨place, member, rfl, rfl⟩
      exact ⟨_, rfl, closedAt_of_placed member, fun _ _ => not_enclosed_of_placed member⟩
    · rintro ⟨close, rfl, closed, outermost⟩
      rcases placed_of_closedAt closed with ⟨place, member, ⟨rfl, rfl⟩ | inside⟩
      · exact ⟨place, member, rfl, rfl⟩
      · exact absurd inside (outermost _ _ (closedAt_of_placed member))
  covers := by
    intro start close closed
    rcases placed_of_closedAt closed with ⟨place, member, inside⟩
    exact ⟨_, mem_subquerySpans_iff.2 ⟨place, member, rfl, rfl⟩, by omega⟩
  unclosed := by
    rintro offset opens never ⟨start, stop⟩ member
    rcases mem_subquerySpans_iff.1 member with ⟨place, inside, rfl, rfl⟩
    by_contra within
    rcases opens with ⟨rest, here, opening⟩
    cases rest with
    | nil => exact absurd (opensSubquery_iff.2 opening) Bool.false_ne_true
    | cons c rest =>
        -- Inside of the span the subquery would have been closed.
        obtain rfl := eq_open_of_opensSubquery (opensSubquery_iff.2 opening)
        rcases closes_within (closedAt_of_placed inside).2 here (by omega) (by omega) with
          ⟨close, _, closed⟩
        rw [never] at closed
        contradiction

/-- The spans that the search reports are those of the outermost closed subqueries, all of them
and nothing else. -/
theorem subquerySpans_outermost (sql : Text) :
    OutermostSpans sql (subquerySpans sql) ∧
      ∀ found, OutermostSpans sql found → found = subquerySpans sql :=
  ⟨outermostSpans_subquerySpans sql, fun _ spans => spans.unique (outermostSpans_subquerySpans sql)⟩

-- The first two openings are never closed, and the span behind them has a subquery in it.
example : subquerySpans "(SELECT (select (SELECT a)(SELECT b (SELECT c))".toList =
    [(16, 26), (26, 47)] := by
  decide +kernel

end Spans

end QueryConditions
