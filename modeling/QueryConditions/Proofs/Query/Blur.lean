import QueryConditions.Proofs.Text.Blur
import QueryConditions.Query.Clause

/-!
Subqueries and clauses in blurred texts. A blurred text has the blurred subqueries and
the blurred clause of the text. Only the placeholder is not blurred: it has capitals,
whatever the text around it.
-/

namespace QueryConditions

section Subqueries

theorem untilClose?_blur (depth : Nat) (s : Text) :
    untilClose? depth s.blur =
      (untilClose? depth s).map fun (inside, rest) => (inside.blur, rest.blur) := by
  induction s generalizing depth with
  | nil => rfl
  | cons c s ih =>
      simp only [blur_cons, untilClose?, blurChar_eq_open_iff, blurChar_eq_close_iff]
      split
      · cases depth with
        | zero => rfl
        | succ outer =>
            simp only [ih, Option.map_map]
            rfl
      · split
        · simp only [ih, Option.map_map]
          rfl
        · simp only [ih, Option.map_map]
          rfl

theorem group?_blur (s : Text) :
    group? s.blur = (group? s).map fun (inside, rest) => (inside.blur, rest.blur) := by
  cases s with
  | nil => rfl
  | cons c s =>
      by_cases opens : c = '('
      · subst opens
        exact untilClose?_blur 0 s
      · have opens' : blurChar c ≠ '(' := fun same => opens ((blurChar_eq_open_iff c).1 same)
        have absent : group? (c :: s) = none := by
          unfold group?
          split
          · next shape => exact absurd (List.cons.inj shape).1 opens
          · rfl
        have absent' : group? (blurChar c :: Text.blur s) = none := by
          unfold group?
          split
          · next shape => exact absurd (List.cons.inj shape).1 opens'
          · rfl
        rw [blur_cons, absent, absent']
        rfl

theorem opensSubquery_blur (s : Text) : opensSubquery s.blur = opensSubquery s := by
  cases s with
  | nil => rfl
  | cons c s =>
      have letters : "SELECT".toList.all (!isBlank ·) = true := by decide
      by_cases opens : c = '('
      · subst opens
        have shape : blurChar '(' = '(' := by decide
        simp only [blur_cons, shape, opensSubquery, skipBlanks_blur, keyword?_blur letters]
        cases keyword? "SELECT".toList (Text.skipBlanks s) with
        | none => rfl
        | some after => exact wordEnds_blur after
      · have opens' : blurChar c ≠ '(' := fun same => opens ((blurChar_eq_open_iff c).1 same)
        unfold opensSubquery
        rw [blur_cons]
        split
        · next shape => exact absurd (List.cons.inj shape).1 opens'
        · split
          · next shape => exact absurd (List.cons.inj shape).1 opens
          · rfl

theorem subqueries_blind : subqueries.Blind Text.blur := by
  intro before s
  simp only [subqueries, subquery?, opensSubquery_blur, group?_blur]
  split <;> rfl

theorem segments_blur (s : Text) :
    segments s.blur = (segments s).map (Piece.blur Text.blur) :=
  Pattern.scan_blur subqueries_blind none s

theorem interiors_blur (s : Text) : interiors s.blur = (interiors s).map Text.blur := by
  rw [interiors, segments_blur, List.filterMap_map, interiors, List.map_filterMap]
  congr 1
  funext segment
  cases segment <;> rfl

/-- Segments look alike from outside once they are blurred. -/
theorem outer_blur (segment : Segment) :
    Text.blur (Segment.outer (Piece.blur Text.blur segment)) = Text.blur segment.outer := by
  cases segment with
  | plain c => exact congrArg ([·]) (blurChar_blurChar c)
  | found interior => rfl

theorem outerText_blur (s : Text) : (outerText s.blur).blur = (outerText s).blur := by
  rw [outerText, outerText, segments_blur, Text.blur, Text.blur, List.flatMap_map,
    List.map_flatMap, List.map_flatMap]
  congr 1
  funext segment
  exact outer_blur segment

end Subqueries

section Clauses

theorem whereKeyword_blind : whereKeyword.Blind id := by
  intro before s
  have letters : "WHERE".toList.all (!isBlank ·) = true := by decide
  simp only [whereKeyword, wordMayBegin_blur, keyword?_blur letters]
  split
  · cases keyword? "WHERE".toList s with
    | none => rfl
    | some after =>
        simp only [Option.map_some, Option.bind_eq_bind, Option.bind_some, blanks?_blur]
        cases blanks? after <;> rfl
  · rfl

theorem endsClause_blur (s : Text) : endsClause s.blur = endsClause s := by
  have letters : ∀ ender ∈ clauseEnders, ender.all (·.all (!isBlank ·)) = true := by decide
  unfold endsClause
  rw [blanks?_blur]
  cases blanks? s with
  | none => rfl
  | some rest =>
      simp only [Option.map_some]
      rw [Bool.eq_iff_iff, List.any_eq_true, List.any_eq_true]
      refine exists_congr fun ender => and_congr_right fun member => ?_
      rw [keywords?_blur (letters ender member)]
      cases keywords? ender rest with
      | none => rfl
      | some after => exact iff_of_eq (congrArg (· = true) (wordEnds_blur after))

theorem clauseBody_blur (s : Text) : clauseBody s.blur = (clauseBody s).blur := by
  induction s with
  | nil => rfl
  | cons c s ih =>
      have same := endsClause_blur (c :: s)
      rw [blur_cons] at same
      simp only [blur_cons, clauseBody, same, ih]
      split <;> rfl

theorem whereClause?_blur (s : Text) : whereClause? s.blur = (whereClause? s).map Text.blur := by
  have found := Pattern.find?_blur whereKeyword_blind none s
  rw [Option.map_none] at found
  rw [whereClause?, found, whereClause?, Option.map_map, Option.map_map]
  congr 1
  funext reading
  obtain ⟨_, _, rest⟩ := reading
  exact clauseBody_blur rest

theorem connective?_blur (s : Text) : connective? s.blur = (connective? s).map Text.blur := by
  have letters : "AND".toList.all (!isBlank ·) = true := by decide
  have letters' : "OR".toList.all (!isBlank ·) = true := by decide
  simp only [connective?, Option.bind_eq_bind, blanks?_blur]
  cases blanks? s with
  | none => rfl
  | some start =>
      simp only [Option.map_some, Option.bind_some, keyword?_blur letters, keyword?_blur letters',
        ← Option.map_or]
      cases (keyword? "AND".toList start).or (keyword? "OR".toList start) with
      | none => rfl
      | some after => exact blanks?_blur after

theorem connective_blind : connective.Blind id := by
  intro before s
  simp only [connective, connective?_blur, Option.map_map]
  rfl

def clauseParts (sql : Text) : List Text :=
  match whereClause? sql with
  | none => []
  | some clause => (connective.split clause).map Text.trim

theorem clauseParts_blur (s : Text) : clauseParts s.blur = (clauseParts s).map Text.blur := by
  unfold clauseParts
  rw [whereClause?_blur]
  cases whereClause? s with
  | none => rfl
  | some clause =>
      simp only [Option.map_some, Pattern.split_blur connective_blind, List.map_map]
      apply List.map_congr_left
      intro part _
      exact trim_blur part

theorem whereFragments_eq (s : Text) :
    whereFragments s = (clauseParts s).filter fun part => !part.isEmpty && part != placeholder := by
  unfold whereFragments clauseParts
  cases whereClause? s <;> rfl

end Clauses

end QueryConditions
