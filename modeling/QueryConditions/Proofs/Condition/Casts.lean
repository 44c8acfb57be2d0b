import QueryConditions.Proofs.Condition.Normalization

/-!
Casts to types with parameters. The type goes with its AS, but its parameters stay, and the
parentheses around them are deleted last of all: what is left of the parameters then stands
right behind the column, and goes on with it if it begins as a name does.
-/

namespace QueryConditions

variable {column type parameters s t : Text}

def castTo (column type parameters : Text) : Text :=
  "CAST(".toList ++ (column ++ (" AS ".toList ++ (type ++ '(' :: (parameters ++ "))".toList))))

def castRemains (type parameters : Text) : Text :=
  -- Where the type is erased as a call, AS is read with the first word of the parameters.
  typeCast.erase (if IsFunctionName type then " AS ".toList ++ parameters else parameters)

section Passes

/-- The type and its parameters, or the parameters if the type is erased as a call. -/
def typeRemains (type parameters : Text) : Text :=
  if IsFunctionName type then parameters ++ "))".toList
  else type ++ '(' :: (parameters ++ "))".toList)

theorem erase_scalarCall_column (isColumn : IsColumn column) (ends : wordEnds t = true)
    (closed : ∀ c ∈ (Text.skipBlanks t).head?, c ≠ '(') :
    scalarCall.erase (column ++ t) = column ++ scalarCall.erase t := by
  cases isColumn with
  | bare isName => exact erase_scalarCall_name isName ends (.inr closed)
  | @dotted table name isTable isName =>
      have dot : ∀ c ∈ (Text.skipBlanks ('.' :: (name ++ t))).head?, c ≠ '(' := by
        rintro c ⟨⟩
        decide
      rw [List.append_assoc, List.cons_append,
        erase_scalarCall_name isTable (wordEnds_cons (by decide) _) (.inr dot),
        erase_scalarCall_cons (by decide), erase_scalarCall_name isName ends (.inr closed),
        List.append_assoc, List.cons_append]

theorem erase_scalarCall_as (isColumn : IsColumn column) (s : Text) :
    scalarCall.erase (column ++ (" AS ".toList ++ s)) =
      column ++ (" AS ".toList ++ scalarCall.erase s) := by
  have other : ¬ IsFunctionName "AS".toList := by decide
  have later : scalarCall.erase (" AS ".toList ++ s) = " AS ".toList ++ scalarCall.erase s := by
    have word := erase_scalarCall_name isName_as (wordEnds_cons (by decide : isWord ' ' = false) s)
      (.inl other)
    rw [erase_scalarCall_cons (by decide)] at word
    exact (erase_scalarCall_cons (by decide) _).trans (congrArg (' ' :: ·) word)
  have closed : ∀ c ∈ (Text.skipBlanks (" AS ".toList ++ s)).head?, c ≠ '(' := by
    rintro c ⟨⟩
    decide
  have ends : wordEnds (" AS ".toList ++ s) = true := wordEnds_cons (by decide) _
  rw [erase_scalarCall_column isColumn ends closed, later]

theorem no_open_append_close (closed : '(' ∉ parameters) : '(' ∉ parameters ++ "))".toList := by
  simp [closed]

theorem erase_scalarCall_type (isType : IsName type) (closed : '(' ∉ parameters) :
    scalarCall.erase (type ++ '(' :: (parameters ++ "))".toList)) =
      typeRemains type parameters := by
  have inside := no_open_append_close closed
  unfold typeRemains
  split
  · next isFunction =>
      have called := erase_call isFunction (rfl : ([] : Text).all isBlank = true)
        (parameters ++ "))".toList)
      rwa [erase_scalarCall_of_no_open inside] at called
  · next other =>
      rw [erase_scalarCall_name isType (wordEnds_cons (by decide) _) (.inl other),
        erase_scalarCall_cons (by decide), erase_scalarCall_of_no_open inside]

theorem erase_typeRemains (isType : IsName type) (closed : '(' ∉ parameters) :
    scalarCall.erase (typeRemains type parameters) = typeRemains type parameters := by
  by_cases isFunction : IsFunctionName type
  · rw [typeRemains, if_pos isFunction, erase_scalarCall_of_no_open (no_open_append_close closed)]
  · have same := erase_scalarCall_type isType closed
    rwa [typeRemains, if_neg isFunction] at same ⊢

theorem eraseCalls_castTo (isColumn : IsColumn column) (isType : IsName type)
    (closed : '(' ∉ parameters) :
    eraseCalls (castTo column type parameters) =
      column ++ (" AS ".toList ++ typeRemains type parameters) := by
  have first : scalarCall.erase (castTo column type parameters) =
      column ++ (" AS ".toList ++ typeRemains type parameters) := by
    have called := erase_call (by decide : IsFunctionName "CAST".toList)
      (rfl : ([] : Text).all isBlank = true)
      (column ++ (" AS ".toList ++ (type ++ '(' :: (parameters ++ "))".toList))))
    rwa [erase_scalarCall_as isColumn, erase_scalarCall_type isType closed] at called
  -- The pass that erases CAST erases the type too where it is called, so a second finds nothing.
  rw [← eraseCalls_erase, first]
  apply eraseCalls_of_stable
  rw [erase_scalarCall_as isColumn, erase_typeRemains isType closed]

theorem trim_castTo (column type parameters : Text) :
    Text.trim (castTo column type parameters) = castTo column type parameters := by
  apply strip_of_clear
  constructor
  · rintro c ⟨⟩
    decide
  · have suffix : "))".toList <:+ castTo column type parameters :=
      (List.suffix_append parameters _).trans ((List.suffix_cons '(' _).trans
        ((List.suffix_append type _).trans ((List.suffix_append " AS ".toList _).trans
          ((List.suffix_append column _).trans (List.suffix_append "CAST(".toList _)))))
    intro c last
    cases Option.some.inj (last.symm.trans (getLast?_of_suffix suffix rfl))
    decide

theorem erase_typeCast_close (s : Text) :
    typeCast.erase (s ++ "))".toList) = typeCast.erase s ++ "))".toList := by
  have first := erase_typeCast_append_stop (by decide : isWord ')' = false) (by decide) s [')']
  have last := erase_typeCast_append_stop (by decide : isWord ')' = false) (by decide) [] []
  rw [Pattern.erase_nil, List.nil_append] at last
  rwa [last] at first

/-- Nothing is left of a name of a type, and its parentheses go last. -/
theorem withoutParentheses_typeRemains (isType : IsName type) (opens : '(' ∉ parameters)
    (closes : ')' ∉ parameters) :
    withoutParentheses (typeCast.erase (" AS ".toList ++ typeRemains type parameters)) =
      castRemains type parameters := by
  have kept (s : Text) (opens : '(' ∉ s) (closes : ')' ∉ s) :
      withoutParentheses (typeCast.erase s ++ "))".toList) = typeCast.erase s := by
    have part := (Pattern.erase_sublist typeCast s).subset
    rw [withoutParentheses_append, withoutParentheses_of_absent (fun member => opens (part member))
      (fun member => closes (part member))]
    exact List.append_nil _
  unfold typeRemains castRemains
  split
  · rw [← List.append_assoc, erase_typeCast_close]
    exact kept _ (by simpa using opens) (by simpa using closes)
  · have ends : wordEnds ('(' :: (parameters ++ "))".toList)) = true := wordEnds_cons (by decide) _
    have spacing : IsSpacing " ".toList := by decide
    have read : typeCast.read? none
        (" AS ".toList ++ (type ++ '(' :: (parameters ++ "))".toList))) = some ((), _) :=
      typeCast_of_words spacing rfl spacing isType ends
    rw [Pattern.erase_of_read? read, Pattern.erase_cons (typeCast_freshAfter '(')
      (typeCast_of_not_blank (by decide) _), erase_typeCast_close]
    exact kept parameters opens closes

end Passes

/-- What a cast to a type with parameters leaves, and when it is the column alone. -/
theorem normalizeColumn_castTo (isColumn : IsColumn column) (isType : IsName type)
    (opens : '(' ∉ parameters) (closes : ')' ∉ parameters) :
    normalizeColumn (castTo column type parameters) =
        column ++ continuation column (castRemains type parameters) ∧
      (normalizeColumn (castTo column type parameters) = column ↔
        ¬ GoesOn column (castRemains type parameters)) := by
  have erased : typeCast.erase (eraseCalls (Text.trim (castTo column type parameters))) =
      [] ++ (column ++ typeCast.erase (" AS ".toList ++ typeRemains type parameters)) := by
    rw [trim_castTo, eraseCalls_castTo isColumn isType opens,
      erase_typeCast_append isColumn.solid]
    rfl
  have whole := normalizeColumn_of_erased isColumn rfl erased
  rw [withoutParentheses_typeRemains isType opens closes] at whole
  refine ⟨whole, ?_⟩
  rw [whole, List.append_right_eq_self, continuation_eq_nil_iff]

theorem normalizeColumn_castTo_each_way :
    normalizeColumn "CAST(e.price AS DECIMAL( 10, 2))".toList = "e.price".toList ∧
    normalizeColumn "CAST(price AS upper(10,2))".toList = "price".toList ∧
    normalizeColumn "CAST(price AS DECIMAL(10,2))".toList = "price10".toList := by
  have type : IsName "DECIMAL".toList := ⟨by decide, by decide⟩
  have price : IsName "price".toList := ⟨by decide, by decide⟩
  have dotted := normalizeColumn_castTo (.dotted ⟨by decide, by decide⟩ price : IsColumn
    ("e".toList ++ '.' :: "price".toList)) type (by decide : '(' ∉ " 10, 2".toList) (by decide)
  have upper : IsName "upper".toList := ⟨by decide, by decide⟩
  have called := normalizeColumn_castTo (.bare price) upper (by decide : '(' ∉ "10,2".toList)
    (by decide)
  have fused := normalizeColumn_castTo (.bare price) type (by decide : '(' ∉ "10,2".toList)
    (by decide)
  refine ⟨dotted.2.2 (continuation_eq_nil_iff.1 ?_), called.2.2 (continuation_eq_nil_iff.1 ?_),
    fused.1.trans ?_⟩
  · decide +kernel
  · decide +kernel
  · decide +kernel

/-- The parameters of a type can go on with the column before them. -/
theorem castTo_keeps_parameters :
    ¬ ∀ column type parameters : Text, IsColumn column → ¬ Spells "AS".toList column →
      IsName type → '(' ∉ parameters → ')' ∉ parameters →
        normalizeColumn (castTo column type parameters) = column := by
  intro always
  have column := always "price".toList "DECIMAL".toList "10,2".toList
    (.bare ⟨by decide, by decide⟩) (by decide) ⟨by decide, by decide⟩ (by decide) (by decide)
  have fused : normalizeColumn (castTo "price".toList "DECIMAL".toList "10,2".toList) =
      "price10".toList := by decide +kernel
  rw [fused] at column
  exact absurd column (by decide)

end QueryConditions
