import QueryConditions.Proofs.Condition.Normalization
import QueryConditions.Proofs.Condition.Stated

/-!
Conditions with their values in quotes. What a fragment states can be written down again:
its value is a piece of the fragment, so that it holds no marker that would be read before
the operator, and the quotes keep it apart from the text around it.
-/

namespace QueryConditions

variable {condition : Condition}

namespace Condition

def operand (condition : Condition) : Option Text :=
  if condition.operator.isUnary then none else some ('\'' :: (condition.value ++ ['\'']))

def operandText (condition : Condition) : Text := condition.operand.elim [] (' ' :: ·)

def predicate (condition : Condition) : Text :=
  ' ' :: (condition.operator.token ++ condition.operandText)

def quoted (condition : Condition) : Text := condition.qualifiedColumn ++ condition.predicate

/-- Column, operator and value of the condition can be told apart in its written form. -/
structure Legible (condition : Condition) : Prop where
  column : IsName condition.column
  table : condition.table = [] ∨ IsName condition.table
  operator : condition.operator ≠ .notIn
  value_of_unary : condition.operator.isUnary = true → condition.value = []
  unquoted : ClearEnds isQuote condition.value

/-- What is true of the conditions that fragments state about a column with a name. -/
structure Restatable (condition : Condition) : Prop extends Legible condition where
  no_end : clauseEnd.Absent condition.value []
  no_connective : connector.Absent condition.value []
  no_earlier : ∀ other ∈ condition.operator.earlier,
    (operatorMarker other).Absent condition.value []

end Condition

section Stated

variable {aliases : Aliases} {fragment : Text}

theorem legible_of_fragment (stated : Condition.ofFragment? aliases fragment = some condition)
    (column : IsName condition.column)
    (table : condition.table = [] ∨ IsName condition.table) : condition.Legible := by
  obtain ⟨c, tail, found, rfl, matched, ends, operator, value⟩ := match_of_fragment stated
  exact {
    column := column
    table := table
    operator := operator ▸ notIn_never_found matched
    value_of_unary := fun unary => value ▸ value_of_unary ends (operator ▸ unary)
    unquoted := value ▸ clearEnds_value ends }

theorem restatable_of_fragment
    (tables : ∀ name table, aliases.get? name = some table → IsName table)
    (fragmentary : Fragmentary fragment)
    (stated : Condition.ofFragment? aliases fragment = some condition)
    (column : IsName condition.column) : condition.Restatable := by
  have excerpt := excerpt_of_fragment stated
  have table : condition.table = [] ∨ IsName condition.table := by
    rcases reference_of_fragment tables stated with ⟨_, table⟩ | ⟨filler, _⟩
    · exact table
    · exact absurd column (not_isName_of_filler filler)
  exact {
    legible_of_fragment stated column table with
    no_end := fragmentary.no_end.excerpt excerpt
    no_connective := fragmentary.no_connective.excerpt excerpt
    no_earlier := no_earlier_of_fragment stated }

end Stated

namespace Condition

section Predicates

theorem operand_of_unary (unary : condition.operator.isUnary = true) :
    condition.operand = none := by
  simp [operand, unary]

theorem operand_of_binary (binary : condition.operator.isUnary = false) :
    condition.operand = some ('\'' :: (condition.value ++ ['\''])) := by
  simp [operand, binary]

/-- A marker that does not begin at the operator or in the value is absent. -/
theorem absent_predicate {m : Marker} {t : Text} (stop : m.StopsAt '\'')
    (unary : condition.operator.isUnary = true → m.Absent (' ' :: condition.operator.token) t)
    (binary : condition.operator.isUnary = false →
      m.Absent (' ' :: condition.operator.token ++ [' ']) [])
    (value : m.Absent condition.value []) : m.Absent condition.predicate t := by
  unfold predicate operandText
  cases arity : condition.operator.isUnary with
  | true => simpa [operand_of_unary arity] using unary arity
  | false =>
      -- The two quotes cut the text into pieces that are read one by one.
      have last : m.Absent ['\''] t := Marker.absent_stop_cons stop t
      have inside : m.Absent condition.value (['\''] ++ t) := (Marker.absent_stop stop).2 value
      have quote : m.Absent ['\''] (condition.value ++ ['\''] ++ t) :=
        Marker.absent_stop_cons stop _
      have before : m.Absent (' ' :: condition.operator.token ++ [' '])
          ('\'' :: (condition.value ++ ['\''] ++ t)) := (Marker.absent_stop stop).2 (binary arity)
      have whole := Marker.absent_append.2 ⟨before,
        Marker.absent_append.2 ⟨quote, Marker.absent_append.2 ⟨inside, last⟩⟩⟩
      simpa [operand_of_binary arity] using whole

/-- What does not begin in all that is said of the column does not begin in the value either. -/
theorem absent_value {m : Marker} (legible : condition.Legible) (stop : m.StopsAt '\'')
    (absent : m.Absent condition.predicate []) : m.Absent condition.value [] := by
  unfold predicate operandText at absent
  cases arity : condition.operator.isUnary with
  | true =>
      rw [legible.value_of_unary arity]
      exact Marker.absent_nil []
  | false =>
      have shape : ' ' :: (condition.operator.token ++
            ' ' :: '\'' :: (condition.value ++ ['\''])) =
          (' ' :: condition.operator.token ++ [' ', '\'']) ++ (condition.value ++ ['\'']) := by simp
      rw [operand_of_binary arity, Option.elim_some, shape] at absent
      have behind := (Marker.absent_append.1 absent).2
      exact (Marker.absent_stop stop).1 (Marker.absent_append.1 behind).1

/-- No operator begins in the written form of another, but for the IN of NOT IN. -/
theorem absent_token (op other : Operator) (different : other ≠ op) (operator : op ≠ .notIn) :
    if op.isUnary then (operatorMarker other).Absent (' ' :: op.token) []
    else (operatorMarker other).Absent (' ' :: op.token ++ [' ']) [] := by
  revert different operator
  cases op <;> cases other <;> decide

end Predicates

section Reading

theorem isColumn_qualifiedColumn (legible : condition.Legible) :
    IsColumn condition.qualifiedColumn := by
  unfold qualifiedColumn
  rcases legible.table with none | isTable
  · simpa [none] using IsColumn.bare legible.column
  · have some_char := isTable.1
    simpa [some_char] using IsColumn.dotted isTable legible.column

theorem splitQualified_qualifiedColumn (legible : condition.Legible) :
    splitQualified condition.qualifiedColumn =
      (if condition.table.isEmpty then none else some condition.table, condition.column) := by
  unfold qualifiedColumn
  rcases legible.table with none | isTable
  · simpa [none] using splitQualified_name legible.column
  · have some_char := isTable.1
    simpa [some_char] using splitQualified_dotted isTable condition.column

/-- After a text without blanks the operator is found at the first blank. -/
theorem find?_spaced_of_solid {op : Operator} {before : Option Char} {start s after : Text}
    {right : Option Text} (solid : start.all (!isBlank ·) = true)
    (fresh : before.all (!isBlank ·) = true)
    (read : ∀ before : Option Char, before.all (!isBlank ·) = true →
      (spacedOperator op).read? before (' ' :: s) = some (right, after)) :
    (spacedOperator op).find? before (start ++ ' ' :: s) = some (start, right, after) := by
  induction start generalizing before with
  | nil => simp [Pattern.find?, read before fresh]
  | cons c start ih =>
      simp only [List.all_cons, Bool.and_eq_true, Bool.not_eq_true'] at solid
      have absent : blanks? (c :: (start ++ ' ' :: s)) = none := by simp [blanks?, solid.1]
      have here : (spacedOperator op).read? before (c :: (start ++ ' ' :: s)) = none := by
        simp [spacedOperator, absent]
      have fresh' : (some c).all (!isBlank ·) = true := by simp [solid.1]
      have later := ih solid.2 fresh'
      simp [Pattern.find?, here, later]

/-- So the match has that text on its left. -/
theorem spacedMatch?_of_solid {op : Operator} {start s after : Text} {right : Option Text}
    (some_char : start ≠ []) (solid : start.all (!isBlank ·) = true)
    (read : ∀ before : Option Char, before.all (!isBlank ·) = true →
      (spacedOperator op).read? before (' ' :: s) = some (right, after)) :
    spacedMatch? (start ++ ' ' :: s) op = some ⟨op, start, right⟩ := by
  have trimmed : Text.trim start = start := strip_of_clear (clearEnds_of_all solid)
  have fresh : (none : Option Char).all (!isBlank ·) = true := rfl
  rcases exists_cons_of_all some_char solid with ⟨c, tail, rfl, _, later⟩
  have found := find?_spaced_of_solid later fresh read
  rw [List.cons_append, spacedMatch?, found]
  simp [trimmed]

theorem keywords?_token (op : Operator) (t : Text) :
    keywords? op.parts (Text.skipBlanks (op.token ++ t)) = some t := by
  cases op <;> rfl

theorem spacedOperand?_operand (condition : Condition) :
    spacedOperand? condition.operator condition.operandText = some condition.operand := by
  unfold operandText spacedOperand?
  cases arity : condition.operator.isUnary with
  | true =>
      rw [operand_of_unary arity]
      rfl
  | false =>
      have gap : Text.trim (' ' :: '\'' :: (condition.value ++ ['\''])) =
          Text.trim ('\'' :: (condition.value ++ ['\''])) := rfl
      have blank : isBlank ' ' = true := by decide
      simp [operand_of_binary arity, gap, trim_quoted, blank]

theorem read?_predicate {before : Option Char} (fresh : before.all (!isBlank ·) = true)
    (condition : Condition) :
    (spacedOperator condition.operator).read? before condition.predicate =
      some (condition.operand, condition.operandText) := by
  have gap : blanks? condition.predicate =
      some (Text.skipBlanks (condition.operator.token ++ condition.operandText)) := rfl
  exact read?_spaced fresh gap (keywords?_token _ _) (spacedOperand?_operand condition)

theorem spacedMatch?_quoted (isColumn : IsColumn condition.qualifiedColumn) :
    spacedMatch? condition.quoted condition.operator =
      some ⟨condition.operator, condition.qualifiedColumn, condition.operand⟩ := by
  exact spacedMatch?_of_solid isColumn.ne_nil isColumn.solid fun before fresh =>
    read?_predicate fresh condition

theorem getLast?_quoted (condition : Condition) :
    ∀ c ∈ condition.quoted.getLast?, isBlank c = false := by
  intro c last
  unfold quoted predicate operandText at last
  cases arity : condition.operator.isUnary with
  | true =>
      have ends (op : Operator) : op.token.getLast?.all (!isBlank ·) = true := by
        cases op <;> decide
      have shape : condition.qualifiedColumn ++ ' ' :: (condition.operator.token ++ []) =
          (condition.qualifiedColumn ++ [' ']) ++ condition.operator.token := by simp
      rw [operand_of_unary arity, Option.elim_none, shape,
        List.getLast?_append_of_ne_nil _ (Operator.token_ne_nil _)] at last
      have solid := ends condition.operator
      rw [Option.mem_def.1 last] at solid
      simpa using solid
  | false =>
      have shape : condition.qualifiedColumn ++ ' ' :: (condition.operator.token ++
            ' ' :: '\'' :: (condition.value ++ ['\''])) =
          (condition.qualifiedColumn ++ ' ' :: (condition.operator.token ++
            ' ' :: '\'' :: condition.value)) ++ ['\''] := by simp
      rw [operand_of_binary arity, Option.elim_some, shape, List.getLast?_concat] at last
      cases last
      rfl

/-- Another operator is found in the written form only if it stands in the value. -/
theorem spacedMatch?_quoted_eq_none_iff (legible : condition.Legible) {other : Operator}
    (different : other ≠ condition.operator) :
    spacedMatch? condition.quoted other = none ↔
      (operatorMarker other).Absent condition.value [] := by
  have isColumn := isColumn_qualifiedColumn legible
  have solid := isColumn.solid
  have last := getLast?_quoted condition
  have stop : (operatorMarker other).StopsAt '\'' := operatorMarker_stopsAt rfl
  obtain ⟨c, start, shape⟩ := List.exists_cons_of_ne_nil isColumn.ne_nil
  rw [shape] at solid
  simp only [List.all_cons, Bool.and_eq_true] at solid
  rw [quoted, shape, List.cons_append] at last ⊢
  rw [spacedMatch?_eq_none_iff last, Marker.absent_append]
  constructor
  · rintro ⟨_, absent⟩
    exact absent_value legible stop absent
  · intro absent
    have token := absent_token condition.operator other different legible.operator
    refine ⟨Marker.absent_of_solid solid.2 _, absent_predicate stop ?_ ?_ absent⟩
    · intro unary
      simpa [unary] using token
    · intro binary
      simpa [binary] using token

def resolved (aliases : Aliases) (condition : Condition) : Condition :=
  { condition with
    table := if condition.table.isEmpty then [] else aliases.resolve condition.table }

theorem resolved_empty (condition : Condition) : condition.resolved .empty = condition := by
  rcases condition with ⟨column, table, operator, value⟩
  cases table <;> rfl

/-- A condition is what its written form states, unless the value has an earlier operator. -/
theorem ofFragment?_quoted (legible : condition.Legible)
    (no_earlier : ∀ other ∈ condition.operator.earlier,
      (operatorMarker other).Absent condition.value []) (aliases : Aliases) :
    ofFragment? aliases condition.quoted = some (condition.resolved aliases) := by
  have isColumn := isColumn_qualifiedColumn legible
  have matched : matchOperator? condition.quoted =
      some ⟨condition.operator, condition.qualifiedColumn, condition.operand⟩ := by
    have here := spacedMatch?_quoted isColumn
    have none : ∀ other ∈ condition.operator.earlier,
        spacedMatch? condition.quoted other = none := fun other earlier =>
      (spacedMatch?_quoted_eq_none_iff legible (ne_of_mem_earlier earlier)).2
        (no_earlier other earlier)
    exact matchOperator?_of_spacedMatch? here none
  have value : condition.operand.elim [] stripQuotes = condition.value := by
    cases arity : condition.operator.isUnary with
    | true =>
        rw [operand_of_unary arity, legible.value_of_unary arity]
        rfl
    | false =>
        rw [operand_of_binary arity]
        exact stripQuotes_quoted legible.unquoted
  have table :
      (if condition.table.isEmpty then none else some condition.table).elim [] aliases.resolve =
        if condition.table.isEmpty then [] else aliases.resolve condition.table := by
    cases condition.table <;> rfl
  rw [ofFragment?, matched]
  simp only [Option.map_some, normalizeColumn_column isColumn,
    splitQualified_qualifiedColumn legible, value, table, resolved]

theorem ofFragment?_quoted_self (legible : condition.Legible)
    (no_earlier : ∀ other ∈ condition.operator.earlier,
      (operatorMarker other).Absent condition.value []) :
    ofFragment? .empty condition.quoted = some condition := by
  rw [ofFragment?_quoted legible no_earlier, resolved_empty]

end Reading

section Standalone

/-- Between a column and BY there is always an operator. -/
theorem keywords?_by {word start : Text} (letters : word.all isWord = true)
    (solid : start.all (!isBlank ·) = true) (op : Operator) (t : Text) :
    keywords? [word, "BY".toList] (start ++ ' ' :: (op.token ++ t)) = none := by
  have stop : isWord ' ' = false := by decide
  have other : keyword? "BY".toList (Text.skipBlanks (op.token ++ t)) = none := by
    cases op <;> rfl
  simp only [keywords?, keyword?_append_stop letters stop, Option.bind_eq_bind]
  cases read : keyword? word start with
  | none => rfl
  | some after =>
      simp only [Option.map_some, Option.bind_some]
      -- The word is the whole column and BY would be the operator, or the column goes on.
      cases after with
      | nil =>
          have gap : blanks? ([] ++ ' ' :: (op.token ++ t)) =
              some (Text.skipBlanks (op.token ++ t)) := rfl
          rw [gap, Option.bind_some, other]
      | cons c after =>
          have inside := (keyword?_suffix read).subset List.mem_cons_self
          have blank := List.all_eq_true.1 solid c inside
          have absent : blanks? (c :: after ++ ' ' :: (op.token ++ t)) = none := by
            simpa [blanks?] using blank
          rw [absent]
          rfl

/-- IS NULL and IS NOT NULL have no word of a clause's end or of a connective. -/
theorem absent_unary {op : Operator} (unary : op.isUnary = true) (t : Text) :
    clauseEnd.Absent (' ' :: op.token) t ∧ connector.Absent (' ' :: op.token) t := by
  cases op <;> first
    | contradiction
    | constructor <;> repeat first | exact trivial | refine ⟨rfl, ?_⟩

theorem absent_binary {op : Operator} (binary : op.isUnary = false) :
    clauseEnd.Absent (' ' :: op.token ++ [' ']) [] ∧
      connector.Absent (' ' :: op.token ++ [' ']) [] := by
  cases op <;> first
    | contradiction
    | decide

theorem head?_quoted (restatable : condition.Restatable) (t : Text) :
    ∀ c ∈ (condition.quoted ++ t).head?, isBlank c = false := by
  have isColumn := isColumn_qualifiedColumn restatable.toLegible
  have solid := isColumn.solid
  obtain ⟨c, start, shape⟩ := List.exists_cons_of_ne_nil isColumn.ne_nil
  rw [shape] at solid
  simpa [quoted, shape] using List.all_eq_true.1 solid c List.mem_cons_self

/-- After a blank the column is not read as an end of the clause. -/
theorem begins_quoted (restatable : condition.Restatable)
    (unlike : ∀ word ∈ ["HAVING".toList, "LIMIT".toList],
      beginsWithWord word condition.qualifiedColumn = false) (t : Text) :
    clauseEnd.begins (' ' :: (condition.quoted ++ t)) = false := by
  have solid := (isColumn_qualifiedColumn restatable.toLegible).solid
  have blank : isBlank ' ' = true := by decide
  have shape : condition.quoted ++ t = condition.qualifiedColumn ++
      ' ' :: (condition.operator.token ++ (condition.operandText ++ t)) := by
    simp [quoted, predicate]
  have having := unlike "HAVING".toList (by simp)
  have limit := unlike "LIMIT".toList (by simp)
  rw [Marker.begins_blank blank, Text.skipBlanks, dropWhile_of_clear (head?_quoted restatable t),
    shape, reads_clauseEnd, keywords?_by (by decide) solid, keywords?_by (by decide) solid,
    beginsWithWord_append (by decide), beginsWithWord_append (by decide), having, limit]
  rfl

theorem standalone_quoted (restatable : condition.Restatable)
    (unlike : ∀ word ∈ ["HAVING".toList, "LIMIT".toList],
      beginsWithWord word condition.qualifiedColumn = false) : Standalone condition.quoted := by
  have isColumn := isColumn_qualifiedColumn restatable.toLegible
  have quote : isQuote '\'' = true := rfl
  have first := head?_quoted restatable []
  rw [List.append_nil] at first
  refine ⟨?_, ⟨first, getLast?_quoted condition⟩, ?_, ?_⟩
  · simp [quoted, isColumn.ne_nil]
  · intro t
    have said : clauseEnd.Absent condition.predicate t :=
      absent_predicate (clauseEnd_stopsAt quote) (fun unary => (absent_unary unary t).1)
        (fun binary => (absent_binary binary).1) restatable.no_end
    exact ⟨begins_quoted restatable unlike t,
      Marker.absent_append.2 ⟨Marker.absent_of_solid isColumn.solid _, said⟩⟩
  · intro t
    have said : connector.Absent condition.predicate t :=
      absent_predicate (connector_stopsAt quote) (fun unary => (absent_unary unary t).2)
        (fun binary => (absent_binary binary).2) restatable.no_connective
    exact Marker.absent_append.2 ⟨Marker.absent_of_solid isColumn.solid _, said⟩

end Standalone

end Condition

end QueryConditions
