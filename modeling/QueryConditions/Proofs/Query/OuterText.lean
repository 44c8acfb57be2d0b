import QueryConditions.Proofs.Query.Balance
import QueryConditions.Proofs.Text.Excerpts

/-!
The outer text, character by character and subquery by subquery. A placeholder is no part of
an opening of a subquery, so the openings of the outer text are those of the text itself that
are never closed; and an excerpt has no openings that the text did not have.
-/

namespace QueryConditions

variable {s t rest interior part : Text} {c : Char}

/-- A subquery does not look behind itself. -/
theorem scan_subqueries (before : Option Char) (s : Text) :
    subqueries.scan before s = subqueries.scan none s :=
  subqueries.scan_of_read? rfl

theorem suffix_group (inside rest : Text) : rest <:+ '(' :: (inside ++ ')' :: rest) :=
  ⟨'(' :: (inside ++ [')']), by simp⟩

/-- A suffix begins in the second text, or with a character of the first one. -/
theorem suffix_append_cases (suffix : rest <:+ s ++ t) :
    rest <:+ t ∨ ∃ c ∈ s, ∃ tail, rest = c :: tail := by
  induction s with
  | nil => exact .inl suffix
  | cons c s ih =>
      rcases List.suffix_cons_iff.1 suffix with rfl | suffix
      · exact .inr ⟨c, List.mem_cons_self, s ++ t, rfl⟩
      · rcases ih suffix with inside | ⟨d, member, tail, rfl⟩
        · exact .inl inside
        · exact .inr ⟨d, List.mem_cons_of_mem c member, tail, rfl⟩

/-- What holds of a text when it holds behind its first character, or behind the subquery that
it begins with. -/
@[elab_as_elim]
theorem subquery_induction {holds : Text → Prop} (nil : holds [])
    (plain : ∀ c s, subquery? (c :: s) = none → holds s → holds (c :: s))
    (group : ∀ interior rest, Balanced interior →
      subquery? ('(' :: (interior ++ ')' :: rest)) = some (interior, rest) →
      holds rest → holds ('(' :: (interior ++ ')' :: rest)))
    (s : Text) : holds s := by
  fun_induction subqueries.scan none s with
  | case1 => exact nil
  | case2 before c tail absent ih => exact plain c tail absent ih
  | case3 before c tail interior rest found ih =>
      rcases subquery?_eq_some found with ⟨balanced, shape⟩
      rw [shape] at found ⊢
      exact group interior rest balanced found ih

theorem segments_cons_of_none (absent : subquery? (c :: s) = none) :
    segments (c :: s) = .plain c :: segments s := by
  have read : subqueries.read? none (c :: s) = none := absent
  rw [segments, subqueries.scan_cons_of_none read, scan_subqueries]
  rfl

theorem segments_cons_of_some (found : subquery? (c :: s) = some (interior, rest)) :
    segments (c :: s) = .found interior :: segments rest :=
  subqueries.scan_cons_of_some found

theorem outerText_nil : outerText [] = [] := by
  rw [outerText, segments, Pattern.scan]
  rfl

theorem outerText_cons_of_none (absent : subquery? (c :: s) = none) :
    outerText (c :: s) = c :: outerText s := by
  rw [outerText, segments_cons_of_none absent]
  rfl

theorem outerText_cons_of_some (found : subquery? (c :: s) = some (interior, rest)) :
    outerText (c :: s) = Segment.outer (.found interior) ++ outerText rest := by
  rw [outerText, segments_cons_of_some found, List.flatMap_cons]
  rfl

/-- Nothing is taken out of a text, or the outer text goes on with a placeholder where the
first subquery stands. -/
theorem outerText_cases (s : Text) : outerText s = s ∨ ∃ before interior rest,
    s = before ++ '(' :: (interior ++ ')' :: rest) ∧
      outerText s = before ++ (Segment.outer (.found interior) ++ outerText rest) := by
  induction s using subquery_induction with
  | nil => exact .inl outerText_nil
  | plain c s absent ih =>
      rw [outerText_cons_of_none absent]
      rcases ih with same | ⟨before, interior, rest, rfl, outer⟩
      · exact .inl (congrArg (c :: ·) same)
      · exact .inr ⟨c :: before, interior, rest, rfl, congrArg (c :: ·) outer⟩
  | group interior rest balanced found ih =>
      exact .inr ⟨[], interior, rest, rfl, outerText_cons_of_some found⟩

section Flat

theorem plain_of_spans {start : Nat} {pieces : List Segment}
    (flat : subquerySpans.spansFrom start pieces = []) :
    ∀ piece ∈ pieces, ∃ c, piece = .plain c := by
  induction pieces generalizing start with
  | nil => simp
  | cons piece pieces ih =>
      cases piece with
      | found interior => simp [subquerySpans.spansFrom] at flat
      | plain c =>
          intro other member
          rcases List.mem_cons.1 member with rfl | member
          · exact ⟨c, rfl⟩
          · exact ih flat other member

theorem interiors_of_flat (flat : subquerySpans s = []) : interiors s = [] := by
  apply List.filterMap_eq_nil_iff.2
  intro piece member
  obtain ⟨c, rfl⟩ := plain_of_spans flat piece member
  rfl

theorem outerText_of_flat (flat : subquerySpans s = []) : outerText s = s := by
  have same : ∀ piece ∈ segments s, Segment.outer piece = Segment.source piece := by
    intro piece member
    obtain ⟨c, rfl⟩ := plain_of_spans flat piece member
    rfl
  calc outerText s = (segments s).flatMap Segment.source := List.flatMap_congr same
    _ = s := segments_source none s

end Flat

def Unopened (s : Text) : Prop := ∀ rest, rest <:+ s → opensSubquery rest = false

def AllClosed (s : Text) : Prop :=
  ∀ rest, rest <:+ s → opensSubquery rest = true → (group? rest).isSome = true

theorem AllClosed.of_suffix (allClosed : AllClosed s) (suffix : t <:+ s) : AllClosed t :=
  fun rest inside => allClosed rest (inside.trans suffix)

theorem allClosed_of_balanced (balanced : Balanced s) : AllClosed s := by
  intro rest suffix opens
  cases rest with
  | nil => contradiction
  | cons c rest =>
      obtain rfl := eq_open_of_opensSubquery opens
      obtain ⟨inside, after, balanced', rfl⟩ := balanced.group_of_suffix suffix
      rw [group?_balanced balanced']
      rfl

theorem opensSubquery_append (opens : opensSubquery s = true) (boundary : wordEnds t = true) :
    opensSubquery (s ++ t) = true := by
  unfold opensSubquery at opens
  split at opens
  · next inside =>
      split at opens
      · next after read =>
          have some_char : (inside.dropWhile isBlank).isEmpty = false :=
            List.isEmpty_eq_false_iff.2 (ne_nil_of_keyword? (by decide) read)
          have skipped : Text.skipBlanks (inside ++ t) = Text.skipBlanks inside ++ t := by
            simp [Text.skipBlanks, List.dropWhile_append, some_char]
          simp only [List.cons_append, opensSubquery, skipped, keyword?_append read t]
          exact wordEnds_append opens boundary
      · contradiction
  · contradiction

theorem Unopened.excerpt (unopened : Unopened s) (excerpt : IsExcerpt part s) :
    Unopened part := by
  obtain ⟨left, right, rfl, boundary⟩ := excerpt
  rintro rest ⟨before, rfl⟩
  cases opens : opensSubquery rest with
  | false => rfl
  | true =>
      have suffix : rest ++ right <:+ left ++ (before ++ rest ++ right) := ⟨left ++ before, by simp⟩
      have still := opensSubquery_append opens boundary
      rw [unopened _ suffix] at still
      contradiction

theorem Unopened.append (closed : '(' ∉ s) (unopened : Unopened t) : Unopened (s ++ t) := by
  intro rest suffix
  rcases suffix_append_cases suffix with inside | ⟨c, member, tail, rfl⟩
  · exact unopened rest inside
  · exact opensSubquery_cons_of_ne (ne_of_mem_of_not_mem member closed) tail

/-- A placeholder does not open a subquery and ends every word before it. -/
theorem opensSubquery_append_placeholder (before rest : Text) :
    opensSubquery ('(' :: (before ++ (Segment.outer (.found interior) ++ rest))) =
      opensSubquery ('(' :: before) := by
  have letters : "SELECT".toList.all isWord = true := by decide
  have word : isWord ' ' = false := by decide
  have shape : Segment.outer (.found interior) ++ rest = ' ' :: (placeholder ++ ' ' :: rest) := by
    simp [Segment.outer]
  simp only [shape, opensSubquery, Text.skipBlanks, List.dropWhile_append]
  cases blank : (before.dropWhile isBlank).isEmpty with
  | true =>
      -- Only blanks stand before the placeholder, and its first word is not SELECT.
      have other : keyword? "SELECT".toList
          ((' ' :: (placeholder ++ ' ' :: rest)).dropWhile isBlank) = none := rfl
      rw [if_pos rfl, other, List.isEmpty_iff.1 blank]
      rfl
  | false =>
      rw [if_neg Bool.false_ne_true, keyword?_append_stop letters word]
      cases keyword? "SELECT".toList (before.dropWhile isBlank) with
      | none => rfl
      | some after => exact wordEnds_append_stop word after _

theorem opensSubquery_outerText (s : Text) :
    opensSubquery ('(' :: outerText s) = opensSubquery ('(' :: s) := by
  rcases outerText_cases s with same | ⟨before, interior, rest, rfl, outer⟩
  · rw [same]
  · rw [outer, opensSubquery_append_placeholder,
      opensSubquery_append_stop (by decide) (by decide)]

/-- What opens in the outer text opens in the text and is not closed there. -/
theorem unopened_outerText (allClosed : AllClosed s) : Unopened (outerText s) := by
  induction s using subquery_induction with
  | nil =>
      intro rest suffix
      rw [outerText_nil, List.suffix_nil] at suffix
      rw [suffix]
      rfl
  | plain c s absent ih =>
      rw [outerText_cons_of_none absent]
      intro rest suffix
      rcases List.suffix_cons_iff.1 suffix with rfl | suffix
      · by_contra opens
        rw [Bool.not_eq_false] at opens
        obtain rfl := eq_open_of_opensSubquery opens
        rw [opensSubquery_outerText] at opens
        -- Then it opens in the text too, where it is closed and would have been taken out.
        have closed := allClosed _ List.suffix_rfl opens
        rw [subquery?, if_pos opens] at absent
        rw [absent] at closed
        contradiction
      · exact ih (allClosed.of_suffix (List.suffix_cons c s)) rest suffix
  | group interior rest balanced found ih =>
      have clear : '(' ∉ ' ' :: placeholder ++ [' '] := by decide
      rw [outerText_cons_of_some found]
      exact (ih (allClosed.of_suffix (suffix_group interior rest))).append clear

end QueryConditions
