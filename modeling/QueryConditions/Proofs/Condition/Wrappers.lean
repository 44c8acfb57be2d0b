import QueryConditions.Proofs.Condition.Normalization

/-!
Columns in calls. A call of a scalar function around a column has blanks before the column
and, behind it, blanks, a type after AS or further arguments, and its parenthesis. However
many calls stand around a column, one pass leaves blanks before it, no pass after that
brings anything next to it, and so it is the column of the whole expression.
-/

namespace QueryConditions

variable {column s t gap expr rest : Text}

inductive CallHead : Text → Prop
  | mk {name gap inside : Text} : IsFunctionName name → gap.all isBlank = true →
      inside.all isBlank = true → CallHead (name ++ (gap ++ '(' :: inside))

/-- The end of a call behind its first argument, with further arguments, whatever they are,
or with a type after AS. -/
inductive CallTail : Text → Prop
  | alone {gap : Text} : gap.all isBlank = true → CallTail (gap ++ [')'])
  | arguments {gap others : Text} : gap.all isBlank = true →
      CallTail (gap ++ ',' :: (others ++ [')']))
  | cast {before as after type gap : Text} : IsSpacing before → Spells "AS".toList as →
      IsSpacing after → IsName type → gap.all isBlank = true →
        CallTail (before ++ (as ++ (after ++ (type ++ (gap ++ [')'])))))

/-- The column, or a call with such an expression as its first argument. -/
inductive Wraps (column : Text) : Text → Prop
  | column : Wraps column column
  | call {head inner tail : Text} : CallHead head → Wraps column inner → CallTail tail →
      Wraps column (head ++ (inner ++ tail))

inductive CallTails : Text → Prop
  | nil : CallTails []
  | more {tail rest : Text} : CallTail tail → CallTails rest → CallTails (tail ++ rest)

section Shapes

theorem CallTail.getLast? (tail : CallTail t) : t.getLast? = some ')' := by
  cases tail with
  | alone blanks => exact List.getLast?_concat
  | @arguments gap others blanks =>
      rw [← List.cons_append, ← List.append_assoc, List.getLast?_concat]
  | @cast before as after type gap spacing spells spacing' isName blanks =>
      simp only [← List.append_assoc, List.getLast?_concat]

theorem CallHead.head? (head : CallHead s) : ∃ c tail, s = c :: tail ∧ isWord c = true := by
  cases head with
  | mk isFunction _ _ =>
      rcases isFunction.isName with ⟨some_char, letters⟩
      rcases exists_cons_of_all some_char letters with ⟨c, name, rfl, letter, _⟩
      exact ⟨c, _, rfl, letter⟩

theorem Wraps.trim_eq (isColumn : IsColumn column) (wraps : Wraps column expr) :
    Text.trim expr = expr := by
  apply strip_of_clear
  cases wraps with
  | column => exact clearEnds_of_all isColumn.solid
  | @call head inner tail opens _ closes =>
      constructor
      · rcases opens.head? with ⟨c, rest, rfl, letter⟩
        intro d first
        cases first
        exact Bool.eq_false_iff.2 fun blank => by simp [isWord_of_isBlank blank] at letter
      · intro c last
        rw [List.getLast?_append, List.getLast?_append, closes.getLast?] at last
        cases last
        rfl

theorem CallTail.ends_word (tail : CallTail t) (rest : Text) : wordEnds (t ++ rest) = true := by
  cases tail with
  | alone blanks =>
      rw [List.append_assoc]
      exact wordEnds_blanks_append blanks (wordEnds_cons (by decide) rest)
  | arguments blanks =>
      rw [List.append_assoc]
      exact wordEnds_blanks_append blanks (wordEnds_cons (by decide) _)
  | cast spacing =>
      rcases spacing with ⟨some_char, blanks⟩
      rcases exists_cons_of_all some_char blanks with ⟨c, before, rfl, blank, _⟩
      exact wordEnds_cons (isWord_of_isBlank blank) _

theorem CallTails.ends_word (tails : CallTails t) : wordEnds t = true := by
  cases tails with
  | nil => rfl
  | more tail _ => exact tail.ends_word _

end Shapes

section Passes

/-- A pass goes over the end of a call, and over text without calls before it, and erases no
more than what is in the further arguments. -/
theorem CallTail.erase_append (tail : CallTail t) (closed : '(' ∉ s) (rest : Text) :
    ∃ t', CallTail t' ∧
      scalarCall.erase (s ++ (t ++ rest)) = s ++ (t' ++ scalarCall.erase rest) := by
  have blank {gap : Text} (blanks : gap.all isBlank = true) : '(' ∉ gap :=
    not_mem_of_all blanks (by decide)
  have word {name : Text} (isName : IsName name) : '(' ∉ name :=
    not_mem_of_all isName.2 (by decide)
  have close (s : Text) (closed : '(' ∉ s) :
      scalarCall.erase (s ++ ')' :: rest) = s ++ ')' :: scalarCall.erase rest :=
    erase_scalarCall_append closed (by decide) (by decide) (by decide) rest
  -- Only further arguments can have calls in them.
  cases tail with
  | @alone gap blanks =>
      have alone := close (s ++ gap) (by simp [closed, blank blanks])
      exact ⟨gap ++ [')'], .alone blanks, by simpa using alone⟩
  | @arguments gap args blanks =>
      have inside : '(' ∉ s ++ gap := by simp [closed, blank blanks]
      have comma := erase_scalarCall_append inside (by decide : isWord ',' = false) (by decide)
        (by decide) (args ++ ')' :: rest)
      have close := erase_scalarCall_append_stop (by decide : isWord ')' = false) (by decide)
        (by decide) args rest
      rw [close] at comma
      refine ⟨gap ++ ',' :: (scalarCall.erase args ++ [')']), .arguments blanks, ?_⟩
      simpa using comma
  | @cast before as after type gap spacing spells spacing' isName blanks =>
      have isAs : IsName as := isName_of_spells ⟨by decide, by decide⟩ spells
      have cast := close (s ++ (before ++ (as ++ (after ++ (type ++ gap))))) (by
        simp [closed, blank spacing.2, word isAs, blank spacing'.2, word isName, blank blanks])
      exact ⟨_, .cast spacing spells spacing' isName blanks, by simpa using cast⟩

theorem CallTails.erase_append (tails : CallTails t) (closed : '(' ∉ s) :
    ∃ t', CallTails t' ∧ scalarCall.erase (s ++ t) = s ++ t' := by
  induction tails generalizing s with
  | nil =>
      refine ⟨[], .nil, ?_⟩
      rw [List.append_nil, erase_scalarCall_of_no_open closed]
  | @more tail others ends _ ih =>
      rcases ends.erase_append closed others with ⟨tail', ends, first⟩
      rcases ih List.not_mem_nil with ⟨others', tails, later⟩
      rw [List.nil_append, List.nil_append] at later
      exact ⟨tail' ++ others', .more ends tails, by rw [first, later]⟩

def Unwrapped (column s : Text) : Prop :=
  ∃ gap t, gap.all isBlank = true ∧ CallTails t ∧ s = gap ++ (column ++ t)

theorem Unwrapped.erase (isColumn : IsColumn column) (unwrapped : Unwrapped column s) :
    Unwrapped column (scalarCall.erase s) := by
  rcases unwrapped with ⟨gap, t, blanks, tails, rfl⟩
  rcases tails.erase_append isColumn.no_open with ⟨rest, tails, erased⟩
  exact ⟨gap, rest, blanks, tails, by rw [erase_scalarCall_blanks blanks, erased]⟩

/-- One pass erases all calls around the column. -/
theorem Wraps.erase_append (isColumn : IsColumn column) (wraps : Wraps column expr)
    (tails : CallTails rest) : Unwrapped column (scalarCall.erase (expr ++ rest)) := by
  -- The ends of the calls further out stand behind the expression.
  induction wraps generalizing rest with
  | column =>
      rcases tails.erase_append isColumn.no_open with ⟨rest, tails, erased⟩
      exact ⟨[], rest, rfl, tails, erased⟩
  | @call head inner tail opens _ closes ih =>
      rcases ih (.more closes tails) with ⟨gap, t, blanks, tails, erased⟩
      cases opens with
      | @mk name before inside isFunction blanks' blanks'' =>
          refine ⟨inside ++ gap, t, by simp [blanks, blanks''], tails, ?_⟩
          have called := erase_call isFunction blanks' (inside ++ (inner ++ (tail ++ rest)))
          rw [erase_scalarCall_blanks blanks'', erased] at called
          simpa using called

theorem Wraps.unwrapped (isColumn : IsColumn column) (wraps : Wraps column expr) :
    Unwrapped column (eraseCalls expr) := by
  rw [← eraseCalls_erase]
  have first := wraps.erase_append isColumn .nil
  rw [List.append_nil] at first
  exact eraseCalls_induction (fun _ unwrapped => unwrapped.erase isColumn) first

end Passes

section Casts

/-- Without casts and parentheses nothing of the end of a call goes on with a column. -/
theorem CallTail.not_goesOn (tail : CallTail t)
    (stops : ¬ GoesOn column (withoutParentheses (typeCast.erase rest))) :
    ¬ GoesOn column (withoutParentheses (typeCast.erase (t ++ rest))) := by
  have blank {gap : Text} (blanks : gap.all isBlank = true) :
      (typeCast.erase gap).all isBlank = true :=
    List.all_eq_true.2 fun c member =>
      List.all_eq_true.1 blanks c ((Pattern.erase_sublist typeCast gap).subset member)
  have close {gap : Text} (blanks : gap.all isBlank = true) :
      ¬ GoesOn column (withoutParentheses (typeCast.erase (gap ++ ')' :: rest))) := by
    rw [erase_typeCast_append_stop (by decide) (by decide), withoutParentheses_append,
      withoutParentheses_of_blanks (blank blanks)]
    exact not_goesOn_blanks_append (blank blanks) stops
  -- What is left of a call behind its first argument begins with blanks or with a comma.
  cases tail with
  | alone blanks =>
      rw [List.append_assoc]
      exact close blanks
  | arguments blanks =>
      rw [List.append_assoc, List.cons_append, erase_typeCast_append_stop (by decide) (by decide),
        withoutParentheses_append, withoutParentheses_of_blanks (blank blanks)]
      exact not_goesOn_blanks_append (blank blanks) (not_goesOn_cons (by decide) (by decide))
  | @cast before as after type gap spacing spells spacing' isName blanks =>
      have ends : wordEnds (gap ++ ([')'] ++ rest)) = true :=
        wordEnds_blanks_append blanks (wordEnds_cons (by decide) rest)
      simp only [List.append_assoc]
      rw [Pattern.erase_of_read? (typeCast_of_words spacing spells spacing' isName ends)]
      exact close blanks

theorem CallTails.not_goesOn (tails : CallTails t) (column : Text) :
    ¬ GoesOn column (withoutParentheses (typeCast.erase t)) := by
  induction tails with
  | nil =>
      rw [Pattern.erase_nil, withoutParentheses, List.filter_nil]
      exact continuation_eq_nil_iff.1 (continuation_nil column)
  | more ends _ ih => exact ends.not_goesOn ih

/-- The column does not stand for the AS of a cast if it is not AS itself. -/
theorem blanks?_of_keyword?_column (isColumn : IsColumn column)
    (other : ¬ Spells "AS".toList column) (ends : wordEnds t = true)
    (read : keyword? "AS".toList (column ++ t) = some rest) : blanks? rest = none := by
  rcases keyword?_eq_some_iff.1 read with ⟨as, spells, whole⟩
  have isAs : IsName as := isName_of_spells ⟨by decide, by decide⟩ spells
  by_contra found
  rcases Option.ne_none_iff_exists'.1 found with ⟨after, skipped⟩
  rcases blanks?_eq_some_iff.1 skipped with ⟨⟨gap, ⟨some_char, blanks⟩, rfl⟩, _⟩
  rcases exists_cons_of_all some_char blanks with ⟨c, gap, rfl, blank, _⟩
  have ends' : wordEnds (c :: (gap ++ after)) = true := wordEnds_cons (isWord_of_isBlank blank) _
  cases isColumn with
  | bare isName =>
      rcases name_append_inj isName isAs ends ends' whole with ⟨rfl, _⟩
      exact other spells
  | @dotted table name isTable isName =>
      have dot : wordEnds ('.' :: (name ++ t)) = true := wordEnds_cons (by decide) _
      rw [List.append_assoc, List.cons_append] at whole
      have behind := (name_append_inj isTable isAs dot ends' whole).2
      have first : c = '.' := (List.cons.inj behind).1.symm
      subst first
      exact absurd blank (by decide)

theorem typeCast_blanks_column (isColumn : IsColumn column) (other : ¬ Spells "AS".toList column)
    (blanks : gap.all isBlank = true) (ends : wordEnds t = true) (before : Option Char) :
    typeCast.read? before (gap ++ (column ++ t)) = none := by
  have solid := head?_append_of_all isColumn.ne_nil isColumn.solid t
  by_cases empty : gap = []
  · subst empty
    rcases List.exists_cons_of_ne_nil isColumn.ne_nil with ⟨c, column, rfl⟩
    exact typeCast_of_not_blank (solid c rfl) (column ++ t)
  · have start := blanks?_eq_some_iff.2 ⟨⟨gap, ⟨empty, blanks⟩, rfl⟩, solid⟩
    simp only [typeCast, start, Option.bind_eq_bind, Option.bind_some]
    cases read : keyword? "AS".toList (column ++ t) with
    | none => rfl
    | some rest =>
        rw [Option.bind_some, blanks?_of_keyword?_column isColumn other ends read]
        rfl

theorem erase_typeCast_blanks (isColumn : IsColumn column) (other : ¬ Spells "AS".toList column)
    (blanks : gap.all isBlank = true) (ends : wordEnds t = true) :
    typeCast.erase (gap ++ (column ++ t)) = gap ++ (column ++ typeCast.erase t) := by
  induction gap with
  | nil => exact erase_typeCast_append isColumn.solid t
  | cons c gap ih =>
      have absent := typeCast_blanks_column isColumn other blanks ends none
      rw [List.all_cons, Bool.and_eq_true] at blanks
      rw [List.cons_append] at absent ⊢
      rw [Pattern.erase_cons (typeCast_freshAfter c) absent, ih blanks.2, List.cons_append]

end Casts

/-- However many calls stand around a column, it is the column of the expression. -/
theorem normalizeColumn_wrapped (isColumn : IsColumn column)
    (other : ¬ Spells "AS".toList column) (wraps : Wraps column expr) :
    normalizeColumn expr = column := by
  rcases wraps.unwrapped isColumn with ⟨gap, t, blanks, tails, called⟩
  have erased : typeCast.erase (eraseCalls (Text.trim expr)) =
      gap ++ (column ++ typeCast.erase t) := by
    rw [wraps.trim_eq isColumn, called, erase_typeCast_blanks isColumn other blanks tails.ends_word]
  rw [normalizeColumn_of_erased isColumn blanks erased,
    continuation_eq_nil_iff.2 (tails.not_goesOn column), List.append_nil]

theorem normalizeColumn_wrapped_thrice :
    IsColumn "o.name".toList ∧
    Wraps "o.name".toList "UPPER (nvl( cast(o.name\tAs CHAR ) , f(x) || ')' ))".toList ∧
    normalizeColumn "UPPER (nvl( cast(o.name\tAs CHAR ) , f(x) || ')' ))".toList =
      "o.name".toList := by
  have isColumn : IsColumn "o.name".toList :=
    @IsColumn.dotted "o".toList "name".toList ⟨by decide, by decide⟩ ⟨by decide, by decide⟩
  have cast : CallTail "\tAs CHAR )".toList :=
    @CallTail.cast "\t".toList "As".toList " ".toList "CHAR".toList " ".toList (by decide)
      (by decide) (by decide) ⟨by decide, by decide⟩ rfl
  have arguments : CallTail " , f(x) || ')' )".toList :=
    @CallTail.arguments " ".toList " f(x) || ')' ".toList rfl
  have inner : Wraps "o.name".toList "cast(o.name\tAs CHAR )".toList :=
    .call (@CallHead.mk "cast".toList [] [] (by decide) rfl rfl) .column cast
  have middle : Wraps "o.name".toList "nvl( cast(o.name\tAs CHAR ) , f(x) || ')' )".toList :=
    .call (@CallHead.mk "nvl".toList [] " ".toList (by decide) rfl rfl) inner arguments
  have outer : Wraps "o.name".toList
      "UPPER (nvl( cast(o.name\tAs CHAR ) , f(x) || ')' ))".toList :=
    .call (@CallHead.mk "UPPER".toList " ".toList [] (by decide) rfl rfl) middle
      (@CallTail.alone [] rfl)
  exact ⟨isColumn, outer, normalizeColumn_wrapped isColumn (by decide) outer⟩

end QueryConditions
