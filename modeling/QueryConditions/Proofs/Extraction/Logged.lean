import QueryConditions.Log
import QueryConditions.Proofs.Extraction.Outermost
import QueryConditions.Proofs.Query.OuterText

/-!
What an extraction logs. Nothing is left out of the conditions in silence: each fragment of a
scope is a condition or an event, and each subquery that opens is a scope or, if it is never
closed, an event with its place.
-/

namespace QueryConditions

variable {s sql interior rest : Text} {c : Char} {start offset : Nat}

section Unclosed

def LeftOpen (s : Text) (offset : Nat) : Prop := OpensAt s offset ∧ matchingParen? s offset = none

theorem leftOpen_iff : LeftOpen s offset ↔
    ∃ t, s.dropBytes? offset = some t ∧ opensSubquery t = true ∧ group? t = none := by
  constructor
  · rintro ⟨⟨t, here, opens⟩, never⟩
    refine ⟨t, here, opensSubquery_iff.2 opens, ?_⟩
    rw [Option.mem_def] at here
    cases closed : group? t with
    | none => rfl
    | some parts => simp [matchingParen?, here, closed] at never
  · rintro ⟨t, here, opens, never⟩
    exact ⟨(opensAt_iff here).2 opens, by simp [matchingParen?, here, never]⟩

theorem not_leftOpen_nil : ¬ LeftOpen [] offset := by
  rw [leftOpen_iff]
  rintro ⟨t, here, opens, _⟩
  cases offset with
  | zero =>
      cases here
      contradiction
  | succ more => contradiction

theorem leftOpen_append (before s : Text) (more : Nat) :
    LeftOpen (before ++ s) (before.byteLength + more) ↔ LeftOpen s more := by
  rw [leftOpen_iff, leftOpen_iff, dropBytes?_append]

theorem leftOpen_cons_iff (absent : subquery? (c :: s) = none) : LeftOpen (c :: s) offset ↔
    offset = 0 ∧ opensSubquery (c :: s) = true ∨
      ∃ more, offset = c.utf8Size + more ∧ LeftOpen s more := by
  have behind (more : Nat) : LeftOpen (c :: s) (c.utf8Size + more) ↔ LeftOpen s more := by
    simpa using leftOpen_append [c] s more
  constructor
  · intro leftOpen
    rcases Nat.eq_zero_or_pos offset with rfl | positive
    · rcases leftOpen_iff.1 leftOpen with ⟨t, here, opens, _⟩
      cases (dropBytes?_zero _).symm.trans here
      exact .inl ⟨rfl, opens⟩
    · rcases leftOpen_iff.1 leftOpen with ⟨t, here, _⟩
      rw [dropBytes?_cons positive] at here
      split at here
      · next enough =>
          rcases Nat.exists_eq_add_of_le enough with ⟨more, rfl⟩
          exact .inr ⟨more, rfl, (behind more).1 leftOpen⟩
      · contradiction
  · rintro (⟨rfl, opens⟩ | ⟨more, rfl, leftOpen⟩)
    · rw [subquery?, if_pos opens] at absent
      exact leftOpen_iff.2 ⟨_, dropBytes?_zero _, opens, absent⟩
    · exact (behind more).2 leftOpen

/-- Inside of a group that is closed every other one is. -/
theorem leftOpen_group_iff (balanced : Balanced interior) :
    LeftOpen ('(' :: (interior ++ ')' :: rest)) offset ↔
      ∃ more, offset = interior.byteLength + 2 + more ∧ LeftOpen rest more := by
  have closed : matchingParen? ('(' :: (interior ++ ')' :: rest)) 0 =
      some (0 + 1 + interior.byteLength) :=
    matchingParen?_eq_some_iff.2 ⟨[], interior, rest, rfl, balanced, rfl, rfl⟩
  have size : Text.byteLength ('(' :: (interior ++ [')'])) = interior.byteLength + 2 := by
    have whole := byteLength_group interior []
    rw [Text.byteLength_nil] at whole
    omega
  have behind (more : Nat) : LeftOpen ('(' :: (interior ++ ')' :: rest))
      (interior.byteLength + 2 + more) ↔ LeftOpen rest more := by
    have parts := leftOpen_append ('(' :: (interior ++ [')'])) rest more
    rwa [size, List.cons_append, List.append_assoc] at parts
  constructor
  · intro leftOpen
    rcases Nat.lt_or_ge offset (interior.byteLength + 2) with inside | enough
    · rcases leftOpen_iff.1 leftOpen with ⟨t, here, opens, _⟩
      cases t with
      | nil => contradiction
      | cons c t =>
          -- What opens between the two parentheses is closed there too.
          obtain rfl := eq_open_of_opensSubquery opens
          rcases closes_within closed here (Nat.zero_le offset) (by omega) with ⟨close, _, found⟩
          rw [leftOpen.2] at found
          contradiction
    · rcases Nat.exists_eq_add_of_le enough with ⟨more, rfl⟩
      exact ⟨more, rfl, (behind more).1 leftOpen⟩
  · rintro ⟨more, rfl, leftOpen⟩
    exact (behind more).2 leftOpen

open unclosedStarts

theorem mem_unclosedFrom_cons (absent : subquery? (c :: s) = none) :
    offset ∈ unclosedFrom start (c :: s) (segments (c :: s)) ↔
      offset = start ∧ opensSubquery (c :: s) = true ∨
        offset ∈ unclosedFrom (start + c.utf8Size) s (segments s) := by
  rw [segments_cons_of_none absent, unclosedFrom, List.tail_cons]
  by_cases opens : opensSubquery (c :: s) = true <;> simp [opens]

theorem unclosedFrom_group
    (found : subquery? ('(' :: (interior ++ ')' :: rest)) = some (interior, rest)) :
    unclosedFrom start ('(' :: (interior ++ ')' :: rest))
      (segments ('(' :: (interior ++ ')' :: rest))) =
        unclosedFrom (start + interior.byteLength + 2) rest (segments rest) := by
  have left : ('(' :: (interior ++ ')' :: rest)).drop (interior.length + 2) = rest := by simp
  rw [segments_cons_of_some found, unclosedFrom, left]

theorem mem_unclosedFrom_iff : offset ∈ unclosedFrom start s (segments s) ↔
    ∃ more, offset = start + more ∧ LeftOpen s more := by
  induction s using subquery_induction generalizing start with
  | nil =>
      rw [segments, Pattern.scan, unclosedFrom]
      refine iff_of_false List.not_mem_nil ?_
      rintro ⟨_, _, leftOpen⟩
      exact not_leftOpen_nil leftOpen
  | plain c s absent ih =>
      simp only [mem_unclosedFrom_cons absent, ih, leftOpen_cons_iff absent]
      constructor
      · rintro (⟨rfl, opens⟩ | ⟨more, rfl, leftOpen⟩)
        · exact ⟨0, rfl, .inl ⟨rfl, opens⟩⟩
        · exact ⟨c.utf8Size + more, Nat.add_assoc _ _ _, .inr ⟨more, rfl, leftOpen⟩⟩
      · rintro ⟨_, rfl, ⟨rfl, opens⟩ | ⟨more, rfl, leftOpen⟩⟩
        · exact .inl ⟨rfl, opens⟩
        · exact .inr ⟨more, (Nat.add_assoc _ _ _).symm, leftOpen⟩
  | group interior rest balanced found ih =>
      simp only [unclosedFrom_group found, ih, leftOpen_group_iff balanced]
      constructor
      · rintro ⟨more, rfl, leftOpen⟩
        exact ⟨interior.byteLength + 2 + more, by omega, more, rfl, leftOpen⟩
      · rintro ⟨_, rfl, more, rfl, leftOpen⟩
        exact ⟨more, by omega, leftOpen⟩

theorem increasing_unclosedFrom (start : Nat) (s : Text) :
    (unclosedFrom start s (segments s)).Pairwise (· < ·) := by
  induction s using subquery_induction generalizing start with
  | nil =>
      rw [segments, Pattern.scan, unclosedFrom]
      exact .nil
  | plain c s absent ih =>
      have positive := Char.utf8Size_pos c
      rw [segments_cons_of_none absent, unclosedFrom, List.tail_cons]
      split
      · refine List.pairwise_cons.2 ⟨fun later member => ?_, ih _⟩
        rcases mem_unclosedFrom_iff.1 member with ⟨more, rfl, _⟩
        omega
      · exact ih _
  | group interior rest balanced found ih =>
      rw [unclosedFrom_group found]
      exact ih _

/-- The places that are logged are those of the subqueries that are never closed, from left to
right. -/
theorem unclosedStarts_exact (sql : Text) :
    (∀ start, start ∈ unclosedStarts sql ↔
      OpensAt sql start ∧ matchingParen? sql start = none) ∧
    (unclosedStarts sql).Pairwise (· < ·) := by
  refine ⟨fun start => ?_, increasing_unclosedFrom 0 sql⟩
  rw [unclosedStarts, mem_unclosedFrom_iff]
  simp [LeftOpen]

end Unclosed

section Dropped

def Event.fragment? : Event → Option Text
  | .dropped fragment => some fragment
  | _ => none

theorem extractionLog_eq (inherited : Aliases) (sql : Text) :
    extractionLog inherited sql =
      .scope (inherited.extend (Aliases.ofSql sql)) :: (unclosedStarts sql).map .unclosed ++
        ((interiors sql).flatMap fun interior =>
          .subquery interior :: extractionLog (inherited.extend (Aliases.ofSql sql)) interior) ++
        ((whereFragments (outerText sql)).filter fun fragment =>
          (Condition.ofFragment? (inherited.extend (Aliases.ofSql sql)) fragment).isNone).map
            .dropped := by
  rw [extractionLog]
  simp [List.flatMap_subtype, List.unattach_attach]

/-- The dropped fragments are those that no condition comes of, scope by scope. -/
theorem dropped_in_order (inherited : Aliases) (sql : Text) :
    (extractionLog inherited sql).filterMap Event.fragment? =
      (scopes inherited sql).flatMap fun scope =>
        (whereFragments (outerText scope.text)).filter fun fragment =>
          (Condition.ofFragment? scope.aliases fragment).isNone := by
  have unnamed (starts : List Nat) :
      (starts.map Event.unclosed).filterMap Event.fragment? = [] := by
    simp [List.filterMap_map, Event.fragment?]
  have named (fragments : List Text) :
      (fragments.map Event.dropped).filterMap Event.fragment? = fragments := by
    rw [List.filterMap_map]
    exact List.filterMap_some
  have nested (aliases : Aliases) :
      ((interiors sql).map fun interior =>
        (extractionLog aliases interior).filterMap Event.fragment?) =
      (interiors sql).map fun interior =>
        (scopes aliases interior).flatMap fun scope =>
          (whereFragments (outerText scope.text)).filter fun fragment =>
            (Condition.ofFragment? scope.aliases fragment).isNone :=
    List.map_congr_left fun interior inside => dropped_in_order aliases interior
  rw [extractionLog_eq, scopes_eq, List.filterMap_append, List.filterMap_append, named,
    List.flatMap_append, List.flatMap_singleton, List.flatMap_assoc, List.filterMap_flatMap,
    List.filterMap_cons_none rfl, unnamed, List.nil_append]
  simp only [List.filterMap_cons_none (show Event.fragment? (.subquery _) = none from rfl),
    List.flatMap_def, nested]
termination_by sql.length
decreasing_by exact length_lt_of_mem_interiors inside

end Dropped

end QueryConditions
