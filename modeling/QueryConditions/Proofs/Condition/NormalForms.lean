import Mathlib.Logic.Function.Iterate
import QueryConditions.Proofs.Condition.Normalization

/-!
Normal forms of columns. The column of an expression has one of three forms, and is its own
column. Calls are erased in passes; the last text is the first one without a call, so that
no call that a pass brings to light is left.
-/

namespace QueryConditions

variable {s : Text} {c : Char}

section Calls

/-- Somewhere in the text a word begins with which a scalar function is called. -/
def HasCall (s : Text) : Prop :=
  ∃ left name gap rest, s = left ++ (name ++ (gap ++ '(' :: rest)) ∧
    wordMayBegin left.getLast? = true ∧ IsFunctionName name ∧ gap.all isBlank = true

theorem find?_scalarCall_eq_none_iff : scalarCall.find? none s = none ↔ ¬ HasCall s := by
  rw [Pattern.find?_eq_none_iff]
  constructor
  · rintro unread ⟨left, name, gap, rest, rfl, fresh, isFunction, blanks⟩
    have absent := unread left _ rfl
    rw [scalarCall_of_name isFunction blanks fresh] at absent
    contradiction
  · rintro uncalled left tail rfl
    by_contra found
    rcases Option.ne_none_iff_exists'.1 found with ⟨⟨value, rest⟩, read⟩
    rcases scalarCall_eq_some read with ⟨name, gap, isFunction, blanks, rfl⟩
    have fresh : wordMayBegin left.getLast? = true := by
      by_contra within
      simp [scalarCall, within] at read
    exact uncalled ⟨left, name, gap, rest, rfl, fresh, isFunction, blanks⟩

theorem erase_scalarCall_eq_self_iff : scalarCall.erase s = s ↔ ¬ HasCall s := by
  rw [Pattern.erase_eq_self_iff, find?_scalarCall_eq_none_iff]

/-- Passes go on exactly as long as a call is left. -/
theorem eraseCalls_eq_iterate (s : Text) : ∃ passes,
    eraseCalls s = scalarCall.erase^[passes] s ∧ ¬ HasCall (scalarCall.erase^[passes] s) ∧
      ∀ earlier < passes, HasCall (scalarCall.erase^[earlier] s) := by
  fun_induction eraseCalls s with
  | case1 s stable =>
      refine ⟨0, rfl, erase_scalarCall_eq_self_iff.1 stable, ?_⟩
      intro earlier below
      exact absurd below (Nat.not_lt_zero earlier)
  | case2 s changed ih =>
      obtain ⟨passes, last, uncalled, called⟩ := ih
      refine ⟨passes + 1, last, uncalled, ?_⟩
      intro earlier before
      cases earlier with
      | zero => exact Classical.not_not.1 (mt erase_scalarCall_eq_self_iff.2 changed)
      | succ earlier => exact called earlier (Nat.lt_of_succ_lt_succ before)

/-- The first pass brings the second call to light. -/
example : scalarCall.erase "UPPER CAST((x))".toList = "UPPER (x))".toList ∧
    eraseCalls "UPPER CAST((x))".toList = "x))".toList := by decide +kernel

end Calls

section Fillers

theorem isWord_of_isFiller (filler : isFiller c = true) : isWord c = false := by
  simp only [isFiller, Bool.and_eq_true, Bool.not_eq_true'] at filler
  exact filler.1.1

theorem typeCast_of_filler {before : Option Char} (filler : s.all isFiller = true) :
    typeCast.read? before s = none := by
  by_contra found
  rcases Option.ne_none_iff_exists'.1 found with ⟨result, read⟩
  simp only [typeCast, Option.bind_eq_bind, Option.bind_eq_some_iff] at read
  rcases read with ⟨start, gap, named, as, _⟩
  rcases keyword?_eq_some_iff.1 as with ⟨word, spells, rfl⟩
  have isName : IsName word := isName_of_spells isName_as spells
  rcases exists_cons_of_all isName.1 isName.2 with ⟨c, tail, rfl, letter, _⟩
  -- The letters of AS would be letters of the text.
  have member : c ∈ s := (blanks?_follows gap).1.subset (by simp)
  rw [isWord_of_isFiller (List.all_eq_true.1 filler c member)] at letter
  contradiction

theorem columnRef?_of_filler (filler : s.all isFiller = true) : columnRef? s = none := by
  have wordless : s.all (!isWord ·) = true := by
    apply List.all_eq_true.2
    intro c member
    rw [isWord_of_isFiller (List.all_eq_true.1 filler c member)]
    rfl
  rw [columnRef?, word?_eq_none_iff.2 wordless]
  rfl

theorem normalizeColumn_filler (filler : s.all isFiller = true) (clear : ClearEnds isBlank s) :
    normalizeColumn s = s := by
  have opens : '(' ∉ s := not_mem_of_all filler (by decide)
  have closes : ')' ∉ s := not_mem_of_all filler (by decide)
  have trimmed : Text.trim s = s := strip_of_clear clear
  have uncalled : eraseCalls s = s := eraseCalls_of_stable (erase_scalarCall_of_no_open opens)
  have uncast : typeCast.erase s = s := by
    apply Pattern.erase_of_absent
    intro before rest suffix
    apply typeCast_of_filler
    exact List.all_eq_true.2 fun c member => List.all_eq_true.1 filler c (suffix.subset member)
  have bare : s.filter (fun c => c != '(' && c != ')') = s :=
    withoutParentheses_of_absent opens closes
  simp only [normalizeColumn, trimmed, uncalled, uncast, bare, columnRef?_of_filler filler,
    Option.getD_none]

end Fillers

theorem clearEnds_normalizeColumn (expr : Text) : ClearEnds isBlank (normalizeColumn expr) := by
  unfold normalizeColumn
  generalize typeCast.erase (eraseCalls (Text.trim expr)) = erased
  simp only
  cases found : columnRef? (erased.filter fun c => c != '(' && c != ')') with
  | some column => exact clearEnds_of_all (isColumn_of_columnRef? found).solid
  | none => exact clear_strip isBlank _

/-- The form of a column, the end of the passes that erase calls, and that a column is its
own column. -/
theorem normalizeColumn_normal (expr : Text) :
    (IsColumn (normalizeColumn expr) ∨
      (normalizeColumn expr).all isFiller = true ∧ ClearEnds isBlank (normalizeColumn expr)) ∧
    (∃ passes, eraseCalls (Text.trim expr) = scalarCall.erase^[passes] (Text.trim expr) ∧
      ¬ HasCall (scalarCall.erase^[passes] (Text.trim expr)) ∧
      ∀ earlier < passes, HasCall (scalarCall.erase^[earlier] (Text.trim expr))) ∧
    normalizeColumn (normalizeColumn expr) = normalizeColumn expr := by
  have clear := clearEnds_normalizeColumn expr
  have passes := eraseCalls_eq_iterate (Text.trim expr)
  rcases normalizeColumn_forms expr with isColumn | filler
  · exact ⟨.inl isColumn, passes, normalizeColumn_column isColumn⟩
  · exact ⟨.inr ⟨filler, clear⟩, passes, normalizeColumn_filler filler clear⟩

end QueryConditions
