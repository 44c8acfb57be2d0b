import QueryConditions.Extraction
import QueryConditions.Proofs.Condition.Blur
import QueryConditions.Proofs.Query.Blur

/-!
Letter case and kinds of blanks. Texts that are alike have the same scopes up to blurring,
and from there on the same operators with alike columns and values. Aliases have no part
in it, though they are looked up as they are written.
-/

namespace QueryConditions

/-- The fragments that are left out of a clause state nothing. -/
theorem ofFragment?_placeholder (aliases : Aliases) :
    Condition.ofFragment? aliases placeholder = none := by
  have unmatched : matchOperator? placeholder = none := by decide +kernel
  rw [Condition.ofFragment?, unmatched]
  rfl

theorem ofFragment?_nil (aliases : Aliases) : Condition.ofFragment? aliases [] = none := by
  have unmatched : matchOperator? [] = none := by decide +kernel
  rw [Condition.ofFragment?, unmatched]
  rfl

theorem filterMap_whereFragments (aliases : Aliases) (sql : Text) :
    (whereFragments sql).filterMap (Condition.ofFragment? aliases) =
      (clauseParts sql).filterMap (Condition.ofFragment? aliases) := by
  rw [whereFragments_eq, List.filterMap_filter]
  congr 1
  funext part
  by_cases bare : part = placeholder
  · rw [bare, ofFragment?_placeholder]
    split <;> rfl
  · by_cases empty : part = []
    · rw [empty, ofFragment?_nil]
      split <;> rfl
    · simp [bare, empty]

/-- The conditions in the clause of a text depend on the blurred text only. -/
theorem filterMap_whereFragments_blur (aliases other : Aliases) (sql : Text) :
    ((whereFragments sql.blur).filterMap (Condition.ofFragment? aliases)).map Condition.blurred =
      ((whereFragments sql).filterMap (Condition.ofFragment? other)).map Condition.blurred := by
  rw [filterMap_whereFragments, filterMap_whereFragments, clauseParts_blur, List.filterMap_map,
    List.map_filterMap, List.map_filterMap]
  congr 1
  funext part
  exact ofFragment?_blur aliases other part

theorem conditions_blur (aliases other : Aliases) (sql : Text) :
    (Scope.conditions ⟨sql.blur, aliases⟩).map Condition.blurred =
      (Scope.conditions ⟨sql, other⟩).map Condition.blurred := by
  have outside := filterMap_whereFragments_blur .empty aliases (outerText sql.blur)
  rw [outerText_blur, filterMap_whereFragments_blur .empty other (outerText sql)] at outside
  exact outside.symm

theorem scopes_blur (aliases other : Aliases) (sql : Text) :
    (scopes aliases sql.blur).map Scope.text =
      (scopes other sql).map fun scope => scope.text.blur := by
  rw [scopes_eq, scopes_eq, interiors_blur, List.map_append, List.map_append, List.map_flatMap,
    List.flatMap_map, List.map_flatMap]
  congr 1
  apply List.flatMap_congr
  intro interior member
  exact scopes_blur _ _ interior
termination_by sql.length
decreasing_by exact length_lt_of_mem_interiors member

theorem extract_blur (sql : Text) :
    (extract sql.blur).map Condition.blurred = (extract sql).map Condition.blurred := by
  have byText (sql : Text) : (extract sql).map Condition.blurred =
      ((scopes .empty sql).map fun scope => scope.text.blur).flatMap fun text =>
        (Scope.conditions ⟨text, .empty⟩).map Condition.blurred := by
    rw [extract, extractScope, List.map_flatMap, List.flatMap_map]
    apply List.flatMap_congr
    intro scope _
    exact (conditions_blur .empty scope.aliases scope.text).symm
  have blurred : (scopes .empty sql.blur).map (fun scope => scope.text.blur) =
      (scopes .empty sql).map fun scope => scope.text.blur := by
    have texts := congrArg (List.map Text.blur) (scopes_blur .empty .empty sql)
    simpa only [List.map_map, Function.comp_def, blur_blur] using texts
  rw [byText, byText, blurred]

/-- Alike texts have alike conditions: as many, and each pair with the same operator and
with alike columns and values. -/
theorem extract_alike {s t : Text} (alike : Alike s t) :
    List.Forall₂ (fun first second => Alike first.column second.column ∧
      first.operator = second.operator ∧ Alike first.value second.value)
      (extract s) (extract t) := by
  have same : (extract s).map Condition.blurred = (extract t).map Condition.blurred := by
    rw [← extract_blur s, ← extract_blur t, alike_iff.1 alike]
  rw [← List.forall₂_eq_eq_eq, List.forall₂_map_left_iff, List.forall₂_map_right_iff] at same
  refine same.imp ?_
  intro first second equal
  simp only [Condition.blurred, Prod.mk.injEq] at equal
  exact ⟨alike_iff.2 equal.1, equal.2.1, alike_iff.2 equal.2.2⟩

theorem extract_alike_tab :
    Alike "Select a FROM t WHERE t.A\tIS  nUll and b\nIN (1)".toList
      "SELECT A from T where T.a is\t NULL AND B In (1)".toList ∧
    List.Forall₂ (fun first second => Alike first.column second.column ∧
      first.operator = second.operator ∧ Alike first.value second.value)
      (extract "Select a FROM t WHERE t.A\tIS  nUll and b\nIN (1)".toList)
      (extract "SELECT A from T where T.a is\t NULL AND B In (1)".toList) :=
  ⟨by decide +kernel, extract_alike (by decide +kernel)⟩

end QueryConditions
