import QueryConditions.Condition.Json
import QueryConditions.Proofs.Json.ReadBack

/-!
Conditions read back. A condition is read off the object that it is written as, whether this
object stands on one line or on several, and whatever characters its texts have.
-/

namespace QueryConditions.Condition

open Json

variable {α : Type} {rest gap last sep line : Text} {value : α}

section Fields

theorem takes_readText (text rest : Text) : Takes (readText (quoted text ++ rest)) text rest := by
  rw [quoted_append]
  apply takes_afterSpace
  rw [skipSpace_cons (by decide)]
  exact takes_pass (takes_stringBody text rest) '"'

theorem takes_readOperator (op : Operator) (rest : Text) :
    Takes (readOperator (quoted op.token ++ rest)) op rest := by
  rw [quoted_append]
  apply takes_afterSpace
  rw [skipSpace_cons (by decide)]
  refine takes_bind (takes_stringBody op.token rest) fun follows => ?_
  simp only [operatorOf, Operator.ofToken?_token]
  exact takes_ok _

theorem takes_valued {read : (s : Text) → Reading α s} (spaces : IsGap sep)
    (takes : Takes (afterSpace read (line ++ rest)) value rest) :
    Takes (valued (afterSpace read) (':' :: (sep ++ line) ++ rest)) value rest := by
  rw [List.cons_append, List.append_assoc]
  exact takes_bind (takes_colon _) fun _ =>
    takes_bind (takes_afterSpace_gap spaces takes) fun _ => takes_ok _

theorem ofName?_name (field : Field) : Field.ofName? field.name = some field := by
  cases field <;> decide

end Fields

section Objects

def fieldText (condition : Condition) : Field → Text
  | .column => condition.column
  | .table => condition.table
  | .operator => condition.operator.token
  | .value => condition.value

def Draft.fill (draft : Draft) (condition : Condition) : Field → Draft
  | .column => { draft with column? := some condition.column }
  | .table => { draft with table? := some condition.table }
  | .operator => { draft with operator? := some condition.operator }
  | .value => { draft with value? := some condition.value }

def fieldLine (sep : Text) (condition : Condition) (field : Field) : Text :=
  quoted field.name ++ ':' :: (sep ++ quoted (condition.fieldText field))

theorem takes_readEntry {draft : Draft} {field : Field} (missing : draft.has field = false)
    (spaces : IsGap sep) (condition : Condition) (rest : Text) :
    Takes (readEntry draft field.name (':' :: (sep ++ quoted (condition.fieldText field)) ++ rest))
      (draft.fill condition field) rest := by
  unfold readEntry
  simp only [ofName?_name, missing, Bool.false_eq_true, ↓reduceIte]
  cases field
  case operator =>
    exact takes_map (takes_valued spaces (takes_readOperator _ rest)) fun _ => ⟨rfl, rfl⟩
  all_goals exact takes_map (takes_valued spaces (takes_readText _ rest)) fun _ => ⟨rfl, rfl⟩

theorem entriesRead_fieldLines (spaces : IsGap sep) (condition : Condition) :
    EntriesRead readEntry (Field.all.map (fieldLine sep condition)) {}
      ⟨condition.column, condition.table, condition.operator, condition.value⟩ :=
  .cons (takes_readEntry rfl spaces condition) <|
    .cons (takes_readEntry rfl spaces condition) <|
      .cons (takes_readEntry rfl spaces condition) <|
        .cons (takes_readEntry rfl spaces condition) (.nil _)

/-- A condition is read off an object with its four fields, however they are spaced. -/
theorem parse_laid (spaces : IsGap gap) (last_spaces : IsGap last) (sep_spaces : IsGap sep)
    (condition : Condition) :
    parse ('\x7b' :: (laid gap last (Field.all.map (fieldLine sep condition)) ++ ['\x7d'])) =
      .ok condition := by
  have object := takes_foldEntries spaces last_spaces
    (entriesRead_fieldLines sep_spaces condition) []
  have whole : Takes (readObject _) condition [] := takes_bind object fun _ => takes_ok _
  apply readWhole_of_takes
  apply takes_afterSpace
  rw [skipSpace_cons (by decide)]
  exact takes_pass whole '\x7b'

theorem parse_compact (condition : Condition) : parse condition.toJson.compact = .ok condition := by
  have lines : condition.toJson.compact =
      '\x7b' :: (laid [] [] (Field.all.map (fieldLine [] condition)) ++ ['\x7d']) := by
    simp [toJson, compact, compactEntries, laid, Field.all, fieldLine, fieldText]
  rw [lines]
  exact parse_laid isGap_nil isGap_nil isGap_nil condition

theorem parse_pretty (condition : Condition) : parse condition.toJson.pretty = .ok condition := by
  have lines : condition.toJson.pretty = block '\x7b' '\x7d' 0
      (Field.all.map (fieldLine [' '] condition)) := rfl
  rw [lines, block_eq_laid]
  exact parse_laid (isGap_indent _) (isGap_indent _) isGap_blank condition

end Objects

end QueryConditions.Condition
