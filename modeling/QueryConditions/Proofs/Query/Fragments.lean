import QueryConditions.Proofs.Query.Connectives

/-!
Fragments of clauses. In a fragment of a clause neither the end of the clause nor a
connective begins, and that remains true of every piece that is cut out of it. The other
way round, pieces in which neither begins are the fragments of the clause that is made
of them with AND.
-/

namespace QueryConditions

variable {s t : Text}

section ClauseEnd

def clauseEnd : Marker where
  spellings := clauseEnders
  spaced := false
  spelled := by decide

theorem clauseEnd_stopsAt {c : Char} (quote : isQuote c = true) : clauseEnd.StopsAt c := by
  simp only [isQuote, Bool.or_eq_true, beq_iff_eq] at quote
  rcases quote with rfl | rfl <;> decide

theorem endsClause_eq (s : Text) : endsClause s = clauseEnd.begins s := by
  unfold endsClause Marker.begins
  cases blanks? s <;> rfl

def beginsWithWord (word s : Text) : Bool := (keyword? word s).any wordEnds

theorem beginsWithWord_append {word : Text} (letters : word.all isWord = true) (s t : Text) :
    beginsWithWord word (s ++ ' ' :: t) = beginsWithWord word s := by
  have stop : isWord ' ' = false := by decide
  unfold beginsWithWord
  rw [keyword?_append_stop letters stop, Option.any_map]
  cases keyword? word s with
  | none => rfl
  | some after => exact wordEnds_append_stop stop after t

theorem reads_clauseEnd (s : Text) : clauseEnd.reads s =
    ((keywords? ["GROUP".toList, "BY".toList] s).any wordEnds ||
      ((keywords? ["ORDER".toList, "BY".toList] s).any wordEnds ||
        (beginsWithWord "HAVING".toList s || beginsWithWord "LIMIT".toList s))) := by
  rw [← Bool.or_false (beginsWithWord "LIMIT".toList s)]
  rfl

/-- The body is followed by the end of the text or of the clause, and has none in it. -/
theorem clauseBody_split (s : Text) : ∃ rest, s = clauseBody s ++ rest ∧
    (rest = [] ∨ clauseEnd.begins rest = true) ∧ clauseEnd.Absent (clauseBody s) rest := by
  induction s with
  | nil => exact ⟨[], rfl, .inl rfl, trivial⟩
  | cons c s ih =>
      simp only [clauseBody, endsClause_eq]
      split
      · next found => exact ⟨c :: s, rfl, .inr found, trivial⟩
      · next absent =>
          obtain ⟨rest, whole, stops, none⟩ := ih
          refine ⟨rest, congrArg (c :: ·) whole, stops, ?_, none⟩
          rw [List.cons_append, ← whole]
          simpa using absent

theorem clauseBody_append {body rest : Text} (stops : rest = [] ∨ clauseEnd.begins rest = true)
    (absent : clauseEnd.Absent body rest) : clauseBody (body ++ rest) = body := by
  induction body with
  | nil =>
      cases rest with
      | nil => rfl
      | cons c rest =>
          have found := stops.resolve_left (List.cons_ne_nil c rest)
          rw [← endsClause_eq] at found
          exact if_pos found
  | cons c body ih =>
      have here : clauseEnd.begins (c :: (body ++ rest)) = false := absent.1
      rw [List.cons_append, clauseBody, endsClause_eq, here, ih absent.2]
      rfl

theorem wordEnds_of_stops {rest : Text} (stops : rest = [] ∨ clauseEnd.begins rest = true) :
    wordEnds rest = true := by
  rcases stops with rfl | found
  · rfl
  · exact Marker.wordEnds_of_begins found

theorem excerpt_clauseBody (s : Text) : IsExcerpt (clauseBody s) s := by
  obtain ⟨rest, whole, stops, _⟩ := clauseBody_split s
  exact ⟨[], rest, whole, wordEnds_of_stops stops⟩

theorem no_end_clauseBody (s : Text) : clauseEnd.Absent (clauseBody s) [] := by
  obtain ⟨rest, _, stops, absent⟩ := clauseBody_split s
  exact absent.alone (wordEnds_of_stops stops)

theorem clauseBody_of_absent (absent : clauseEnd.Absent s []) : clauseBody s = s := by
  have whole := clauseBody_append (.inl rfl) absent
  rwa [List.append_nil] at whole

end ClauseEnd

section Fragments

/-- A text that can be a fragment: nothing in it ends the clause or the fragment. -/
structure Fragmentary (s : Text) : Prop where
  trimmed : ClearEnds isBlank s
  no_end : clauseEnd.Absent s []
  no_connective : connector.Absent s []

theorem part_of_mem_whereFragments {sql fragment : Text} (member : fragment ∈ whereFragments sql) :
    ∃ source part, source <:+ sql ∧ part ∈ connective.split (clauseBody source) ∧
      fragment = Text.trim part := by
  unfold whereFragments at member
  split at member
  · simp at member
  · next clause found =>
      obtain ⟨⟨before, keyword, source⟩, here, rfl⟩ := Option.map_eq_some_iff.1 found
      obtain ⟨tail, rfl, follows⟩ := whereKeyword.find?_append here
      obtain ⟨part, inside, trimmed⟩ := List.mem_map.1 (List.mem_filter.1 member).1
      exact ⟨source, part, follows.1.trans (List.suffix_append before tail), inside, trimmed.symm⟩

theorem excerpt_of_mem_whereFragments {sql fragment : Text}
    (member : fragment ∈ whereFragments sql) : IsExcerpt fragment sql := by
  obtain ⟨source, part, suffix, inside, rfl⟩ := part_of_mem_whereFragments member
  have within := (excerpt_clauseBody source).trans (.of_suffix suffix)
  exact (excerpt_trim part).trans ((isPart_of_mem_split inside).excerpt.trans within)

theorem fragmentary_of_mem {sql fragment : Text} (member : fragment ∈ whereFragments sql) :
    Fragmentary fragment := by
  obtain ⟨source, part, _, inside, rfl⟩ := part_of_mem_whereFragments member
  have cut := isPart_of_mem_split inside
  have trimmed := excerpt_trim part
  exact ⟨clear_strip isBlank part,
    (no_end_clauseBody source).excerpt (trimmed.trans cut.excerpt),
    cut.no_connective.excerpt trimmed⟩

/-- A text that stays a fragment next to others. -/
structure Standalone (s : Text) : Prop where
  some_char : s ≠ []
  trimmed : ClearEnds isBlank s
  no_end : ∀ t, clauseEnd.Absent (' ' :: s) t
  no_connective : ∀ t, connector.Absent s t

variable {parts : List Text}

theorem rejoinable_of_standalone (standalone : ∀ part ∈ parts, Standalone part)
    (bare : placeholder ∉ parts) : Rejoinable parts where
  some_char part member := (standalone part member).some_char
  no_placeholder _ member same := bare (same ▸ member)
  trimmed part member := (standalone part member).trimmed
  unbroken part member := unbroken_iff.2 ((standalone part member).no_connective [])
  apart := List.pairwise_of_forall_mem_list fun part member _ _ c rest _ =>
    unbroken_iff.2 ((standalone part member).no_connective (c :: rest))

theorem no_end_intercalate {part : Text} (standalone : ∀ other ∈ part :: parts, Standalone other) :
    clauseEnd.Absent (' ' :: " AND ".toList.intercalate (part :: parts)) [] := by
  induction parts generalizing part with
  | nil =>
      rw [List.intercalate_singleton]
      exact (standalone part (by simp)).no_end []
  | cons second others ih =>
      have later := ih fun other member => standalone other (List.mem_cons_of_mem part member)
      -- The blank behind AND goes to the next part, which may not end the clause after it.
      have connective : clauseEnd.Absent " AND".toList
          ((' ' :: " AND ".toList.intercalate (second :: others)) ++ []) :=
        ⟨rfl, Marker.absent_of_solid (by decide) _⟩
      have cut := Marker.absent_append.2 ⟨connective, later⟩
      have whole := Marker.absent_append.2 ⟨(standalone part (by simp)).no_end _, cut⟩
      simpa [List.intercalate_cons_cons] using whole

/-- A clause of fragments joined with AND has these fragments. -/
theorem whereFragments_intercalate (nonempty : parts ≠ [])
    (standalone : ∀ part ∈ parts, Standalone part) (bare : placeholder ∉ parts) :
    whereFragments ("WHERE ".toList ++ " AND ".toList.intercalate parts) = parts := by
  obtain ⟨part, others, rfl⟩ := List.exists_cons_of_ne_nil nonempty
  have joins : IsJoined (part :: others) (" AND ".toList.intercalate (part :: others)) :=
    isJoined_intercalate (by decide) _
  have rejoinable := rejoinable_of_standalone standalone bare
  have no_end := (no_end_intercalate standalone).2
  have clause : whereClause? ("WHERE ".toList ++ " AND ".toList.intercalate (part :: others)) =
      some (clauseBody (Text.skipBlanks (" AND ".toList.intercalate (part :: others)))) := rfl
  rw [Text.skipBlanks, dropWhile_of_clear (joins.solid rejoinable), clauseBody_of_absent no_end]
    at clause
  simp only [whereFragments, clause]
  exact joins.splitConditions_eq rejoinable

end Fragments

end QueryConditions
