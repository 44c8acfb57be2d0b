import Mathlib.Data.List.Infix
import QueryConditions.Proofs.Query.OuterText

/-!
Texts taken apart. Every subquery leaves a mark in the outer text, and the outer text has no
subquery of its own: a mark is balanced as the group was, so what was never closed stays so.
If no placeholder stood in the text, the marks are the only ones in the outer text, and the text
comes back when they are replaced by the groups.
-/

namespace QueryConditions

variable {s t rest interior word : Text} {c : Char}

section Flat

def mark : Text := ' ' :: placeholder ++ [' ']

theorem outerText_cons_mark (found : subquery? (c :: s) = some (interior, rest)) :
    outerText (c :: s) = mark ++ outerText rest :=
  outerText_cons_of_some found

theorem balanced_of_no_parens (opens : '(' ∉ s) (closes : ')' ∉ s) : Balanced s := by
  induction s with
  | nil => exact .nil
  | cons c s ih =>
      rw [List.mem_cons, not_or] at opens closes
      exact .char (Ne.symm opens.1) (Ne.symm closes.1) (ih opens.2 closes.2)

theorem isSome_untilClose?_balanced (balanced : Balanced s) (depth : Nat) (t : Text) :
    (untilClose? depth (s ++ t)).isSome = (untilClose? depth t).isSome := by
  rw [untilClose?_balanced balanced, Option.isSome_map]

/-- What is closed behind a text is closed behind its outer text. -/
theorem isSome_untilClose?_outerText (depth : Nat) (s : Text) :
    (untilClose? depth (outerText s)).isSome = (untilClose? depth s).isSome := by
  induction s using subquery_induction generalizing depth with
  | nil => rw [outerText_nil]
  | plain c s absent ih =>
      rw [outerText_cons_of_none absent]
      by_cases close : c = ')'
      · cases depth with
        | zero => simp [untilClose?, close]
        | succ outer => simp [untilClose?, close, ih]
      · by_cases opens : c = '(' <;> simp [untilClose?, close, opens, ih]
  | group interior rest balanced found ih =>
      have group : Balanced ('(' :: (interior ++ [')'])) := .group balanced .nil
      have marked : Balanced mark := balanced_of_no_parens (by decide) (by decide)
      have whole : '(' :: (interior ++ ')' :: rest) = '(' :: (interior ++ [')']) ++ rest := by simp
      rw [outerText_cons_mark found, isSome_untilClose?_balanced marked, ih, whole,
        isSome_untilClose?_balanced group]

def Flat (s : Text) : Prop := ∀ rest, rest <:+ s → subquery? rest = none

theorem Flat.append (closed : '(' ∉ s) (flat : Flat t) : Flat (s ++ t) := by
  intro rest suffix
  rcases suffix_append_cases suffix with inside | ⟨c, member, tail, rfl⟩
  · exact flat rest inside
  · exact subquery?_cons_of_ne (ne_of_mem_of_not_mem member closed) tail

theorem flat_outerText (s : Text) : Flat (outerText s) := by
  induction s using subquery_induction with
  | nil =>
      intro rest suffix
      rw [outerText_nil, List.suffix_nil] at suffix
      rw [suffix]
      rfl
  | plain c s absent ih =>
      rw [outerText_cons_of_none absent]
      intro rest suffix
      rcases List.suffix_cons_iff.1 suffix with rfl | suffix
      · by_cases opens : opensSubquery (c :: outerText s) = true
        · -- The subquery opens in the text as well and is never closed there.
          obtain rfl := eq_open_of_opensSubquery opens
          rw [opensSubquery_outerText] at opens
          have never : untilClose? 0 s = none := by
            simpa [subquery?, opens, group?] using absent
          have still := isSome_untilClose?_outerText 0 s
          rw [never] at still
          simpa [subquery?, opensSubquery_outerText, opens, group?] using still
        · exact if_neg opens
      · exact ih rest suffix
  | group interior rest balanced found ih =>
      rw [outerText_cons_mark found]
      exact ih.append (by decide)

theorem segments_of_flat (flat : Flat s) : segments s = s.map .plain := by
  induction s with
  | nil =>
      rw [segments, Pattern.scan]
      rfl
  | cons c s ih =>
      have later : Flat s := fun rest suffix => flat rest (suffix.trans (List.suffix_cons c s))
      rw [segments_cons_of_none (flat _ List.suffix_rfl), ih later, List.map_cons]

theorem spansFrom_plain (start : Nat) (s : Text) :
    subquerySpans.spansFrom start (s.map .plain) = [] := by
  induction s generalizing start with
  | nil => rfl
  | cons c s ih => exact ih (start + c.utf8Size)

theorem subquerySpans_of_flat (flat : Flat s) : subquerySpans s = [] := by
  rw [subquerySpans, segments_of_flat flat, spansFrom_plain]

end Flat

section Marks

theorem dropPrefix?_mark : s.dropPrefix? mark = some rest ↔ s = mark ++ rest := by
  rw [List.dropPrefix?_eq_some_iff]
  constructor
  · rintro ⟨start, rfl, same⟩
    rw [eq_of_beq same]
  · rintro rfl
    exact ⟨mark, rfl, beq_self_eq_true mark⟩

def marks : Pattern Text where
  read? _ s := (s.dropPrefix? mark).map fun rest => (mark, rest)
  follows found := by
    rcases Option.map_eq_some_iff.1 found with ⟨rest, here, same⟩
    cases same
    rw [dropPrefix?_mark.1 here]
    constructor
    · exact List.suffix_append mark _
    · simp only [mark, List.length_append, List.length_cons]
      omega

def Segment.marked : Segment → Piece Text
  | .plain c => .plain c
  | .found _ => .found mark

/-- A word without blanks does not reach into a mark. -/
theorem prefix_of_prefix_outerText (solid : ' ' ∉ word) (found : word <+: outerText s) :
    word <+: s := by
  rcases outerText_cases s with same | ⟨before, interior, rest, rfl, outer⟩
  · rwa [same] at found
  · rcases found with ⟨tail, whole⟩
    rw [outer] at whole
    rcases List.append_eq_append_iff.1 whole with ⟨more, rfl, _⟩ | ⟨more, shape, cut⟩
    · rw [List.append_assoc]
      exact List.prefix_append word _
    · cases more with
      | nil =>
          rw [shape, List.append_nil]
          exact List.prefix_append before _
      | cons c more =>
          have blank : ' ' = c := (List.cons.inj cut).1
          have inside : ' ' ∈ word := by
            rw [shape, blank]
            exact List.mem_append_right before List.mem_cons_self
          exact absurd inside solid

theorem scan_marks_outerText (absent : ¬ placeholder <:+: s) :
    marks.scan none (outerText s) = (segments s).map Segment.marked := by
  induction s using subquery_induction with
  | nil => rw [outerText_nil, segments, Pattern.scan, Pattern.scan, List.map_nil]
  | plain c s alone ih =>
      have later : ¬ placeholder <:+: s := fun inside => absent (List.infix_cons inside)
      -- A mark that begins at this blank would have its placeholder in the text.
      have unmarked : marks.read? none (c :: outerText s) = none := by
        refine Option.map_eq_none_iff.2 (Option.eq_none_iff_forall_ne_some.2 fun rest here => ?_)
        have behind : outerText s = placeholder ++ ([' '] ++ rest) :=
          (List.cons.inj (dropPrefix?_mark.1 here)).2
        have early := prefix_of_prefix_outerText (by decide) ⟨_, behind.symm⟩
        exact later early.isInfix
      have onward : marks.scan (some c) (outerText s) = marks.scan none (outerText s) :=
        marks.scan_of_read? rfl
      rw [outerText_cons_of_none alone, marks.scan_cons_of_none unmarked, onward, ih later,
        segments_cons_of_none alone, List.map_cons, Segment.marked]
  | group interior rest balanced found ih =>
      have later : ¬ placeholder <:+: rest := fun inside =>
        absent (inside.trans (suffix_group interior rest).isInfix)
      have marked : marks.read? none (mark ++ outerText rest) = some (mark, outerText rest) :=
        Option.map_eq_some_iff.2 ⟨_, dropPrefix?_mark.2 rfl, rfl⟩
      have front : mark ++ outerText rest = ' ' :: (placeholder ++ [' '] ++ outerText rest) := rfl
      rw [front] at marked
      rw [outerText_cons_mark found, front, marks.scan_cons_of_some marked, ih later,
        segments_cons_of_some found, List.map_cons, Segment.marked]

end Marks

section Refill

/-- The text of the pieces, with the given texts in the place of the occurrences, one after
another. -/
def refill : List (Piece Text) → List Text → Text
  | [], _ => []
  | .plain c :: pieces, texts => c :: refill pieces texts
  | .found _ :: pieces, text :: texts => text ++ refill pieces texts
  | .found value :: pieces, [] => value ++ refill pieces []

def enclosed (interior : Text) : Text := '(' :: (interior ++ [')'])

theorem refill_marked (pieces : List Segment) :
    refill (pieces.map Segment.marked) ((pieces.filterMap Piece.value?).map enclosed) =
      pieces.flatMap Segment.source := by
  induction pieces with
  | nil => rfl
  | cons piece pieces ih =>
      cases piece with
      | plain c => exact congrArg (c :: ·) ih
      | found interior => exact congrArg (enclosed interior ++ ·) ih

theorem length_marked (pieces : List Segment) :
    ((pieces.map Segment.marked).filterMap Piece.value?).length =
      (pieces.filterMap Piece.value?).length := by
  induction pieces with
  | nil => rfl
  | cons piece pieces ih =>
      cases piece with
      | plain c => exact ih
      | found interior => exact congrArg (· + 1) ih

/-- The outer text is taken apart no further, and the text is put together again from it and the
interiors, unless a placeholder stood in the text itself. -/
theorem isolation_undone (sql : Text) :
    (subquerySpans (outerText sql) = [] ∧ outerText (outerText sql) = outerText sql ∧
      interiors (outerText sql) = []) ∧
    (¬ placeholder <:+: sql →
      (marks.findAll (outerText sql)).length = (interiors sql).length ∧
      refill (marks.scan none (outerText sql)) ((interiors sql).map enclosed) = sql) := by
  have flat := subquerySpans_of_flat (flat_outerText sql)
  constructor
  · exact ⟨flat, outerText_of_flat flat, interiors_of_flat flat⟩
  · intro absent
    have marked := scan_marks_outerText absent
    constructor
    · rw [Pattern.findAll, marked, length_marked, interiors]
    · rw [marked, interiors, refill_marked]
      exact segments_source none sql

theorem isolation_undone_unclosed :
    ¬ placeholder <:+: "(SELECT b)(select __SUBQUERY) )(SELECT (c)".toList ∧
    (marks.findAll (outerText "(SELECT b)(select __SUBQUERY) )(SELECT (c)".toList)).length =
      (interiors "(SELECT b)(select __SUBQUERY) )(SELECT (c)".toList).length ∧
    refill (marks.scan none (outerText "(SELECT b)(select __SUBQUERY) )(SELECT (c)".toList))
      ((interiors "(SELECT b)(select __SUBQUERY) )(SELECT (c)".toList).map enclosed) =
        "(SELECT b)(select __SUBQUERY) )(SELECT (c)".toList := by
  have absent : ¬ placeholder <:+: "(SELECT b)(select __SUBQUERY) )(SELECT (c)".toList := by
    decide +kernel
  exact ⟨absent, (isolation_undone _).2 absent⟩

end Refill

end QueryConditions
