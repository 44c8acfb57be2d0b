import QueryConditions.Proofs.Condition.Normalization
import QueryConditions.Proofs.Condition.Occurrences
import QueryConditions.Proofs.Extraction.Records
import QueryConditions.Proofs.Query.OuterText

/-!
Where the characters of conditions come from. Column and value of a condition are left of its
fragment, its table is left of the fragment or a name, and a fragment is left of the query but
for placeholders. So whatever all characters of a query have in common, those of its conditions
have, if word characters and the space have it.
-/

namespace QueryConditions

variable {p : Char → Bool} {s part sql fragment column : Text} {condition : Condition}
  {aliases : Aliases}

section Fragment

theorem all_of_sublist (sublist : part.Sublist s) (all : s.all p = true) : part.all p = true :=
  List.all_eq_true.2 fun c member => List.all_eq_true.1 all c (sublist.subset member)

theorem IsExcerpt.sublist (excerpt : IsExcerpt part s) : part.Sublist s := by
  obtain ⟨left, right, rfl, _⟩ := excerpt
  exact (List.sublist_append_left part right).trans (List.sublist_append_right left _)

theorem columnRef?_sublist (found : columnRef? s = some column) : column.Sublist s := by
  simp only [columnRef?, Option.bind_eq_bind, Option.bind_eq_some_iff] at found
  obtain ⟨⟨first, rest⟩, read, found⟩ := found
  have within : (first ++ rest).Sublist s :=
    word?_append read ▸ (List.dropWhile_suffix (!isWord ·)).sublist
  have bare : first.Sublist s := (List.sublist_append_left first rest).trans within
  split at found
  · next after shape =>
    obtain rfl : rest = '.' :: after := shape
    split at found
    · next second rest' read' =>
        cases found
        have behind : second.Sublist after :=
          word?_append read' ▸ List.sublist_append_left second rest'
        have dotted := behind.cons_cons '.'
        exact (dotted.append_left first).trans within
    · cases found
      exact bare
  · cases found
    exact bare

theorem eraseCalls_sublist (s : Text) : (eraseCalls s).Sublist s :=
  eraseCalls_induction (fun t kept => (scalarCall.erase_sublist t).trans kept) (List.Sublist.refl s)

theorem normalizeColumn_sublist (s : Text) : (normalizeColumn s).Sublist s := by
  have bare : ((typeCast.erase (eraseCalls (Text.trim s))).filter
      fun c => c != '(' && c != ')').Sublist s :=
    List.filter_sublist.trans ((typeCast.erase_sublist _).trans
      ((eraseCalls_sublist _).trans (excerpt_trim s).sublist))
  unfold normalizeColumn
  simp only
  cases found : columnRef? ((typeCast.erase (eraseCalls (Text.trim s))).filter
      fun c => c != '(' && c != ')') with
  | some column => exact (columnRef?_sublist found).trans bare
  | none => exact (excerpt_trim _).sublist.trans bare

theorem left_sublist {found : OperatorMatch} (matched : matchOperator? fragment = some found) :
    found.left.Sublist fragment := by
  obtain ⟨op, place, divides, rfl⟩ := divides_of_match matched
  rw [← divides.whole]
  exact (excerpt_trim place.left).sublist.trans (List.sublist_append_left place.left _)

theorem all_of_fragment (words : ∀ c, isWord c = true → p c = true)
    (tables : ∀ name table, aliases.get? name = some table → IsName table)
    (all : fragment.all p = true)
    (stated : Condition.ofFragment? aliases fragment = some condition) :
    condition.column.all p = true ∧ condition.table.all p = true ∧
      condition.value.all p = true := by
  have value := all_of_sublist (excerpt_of_fragment stated).sublist all
  obtain ⟨found, matched, rfl⟩ := Option.map_eq_some_iff.1 stated
  have normal := all_of_sublist
    ((normalizeColumn_sublist found.left).trans (left_sublist matched)) all
  obtain ⟨column, qualifiers⟩ := splitQualified_all normal
  refine ⟨column, ?_, value⟩
  simp only
  cases qualified : (splitQualified (normalizeColumn found.left)).1 with
  | none => rfl
  | some qualifier =>
      rcases resolve_cases tables qualifier with isName | same
      · exact List.all_eq_true.2 fun c member => words c (List.all_eq_true.1 isName.2 c member)
      · rw [Option.elim_some, same]
        exact qualifiers qualifier qualified

end Fragment

section Query

theorem all_outerText (words : ∀ c, isWord c = true → p c = true) (space : p ' ' = true)
    (all : s.all p = true) : (outerText s).all p = true := by
  induction s using subquery_induction with
  | nil => rw [outerText_nil]; rfl
  | plain c s absent ih =>
      rw [List.all_cons, Bool.and_eq_true] at all
      rw [outerText_cons_of_none absent, List.all_cons, all.1, ih all.2]
      rfl
  | group interior rest _ found ih =>
      have placed : (Segment.outer (.found interior)).all p = true := by
        have letters : placeholder.all isWord = true := by decide
        refine List.all_eq_true.2 fun c member => ?_
        simp only [Segment.outer, List.cons_append, List.mem_cons, List.mem_append,
          List.not_mem_nil, or_false] at member
        rcases member with rfl | inside | rfl
        · exact space
        · exact words c (List.all_eq_true.1 letters c inside)
        · exact space
      have later := ih (all_of_sublist (suffix_group interior rest).sublist all)
      rw [outerText_cons_of_some found, List.all_append, placed, later]
      rfl

theorem all_of_mem_scopes {inherited : Aliases} {scope : Scope}
    (member : scope ∈ scopes inherited sql) (all : sql.all p = true) :
    scope.text.all p = true := by
  refine scopes_invariant (fun _ text => text.all p = true) ?_ all member
  intro _ text interior whole inside
  obtain ⟨left, right, rfl⟩ := mem_interiors_split inside
  refine all_of_sublist ?_ whole
  exact (List.sublist_append_left interior _).trans
    ((List.sublist_cons_self '(' _).trans (List.sublist_append_right left _))

/-- The conditions of a query have no characters of their own but those of names and spaces. -/
theorem all_of_mem_extract (words : ∀ c, isWord c = true → p c = true) (space : p ' ' = true)
    (all : sql.all p = true) (member : condition ∈ extract sql) :
    condition.column.all p = true ∧ condition.table.all p = true ∧
      condition.value.all p = true := by
  obtain ⟨scope, inside, fragment, found, stated⟩ := stated_of_mem_extract member
  have outer := all_outerText words space (all_of_mem_scopes inside all)
  exact all_of_fragment words (isName_of_scope inside)
    (all_of_sublist (excerpt_of_mem_whereFragments found).sublist outer) stated

end Query

end QueryConditions
