import QueryConditions.Condition.Match
import QueryConditions.Proofs.Text.Markers
import QueryConditions.Proofs.Text.Trim

/-!
The operator of a fragment. An operator between blanks is a marker, and an operator is
found only where none of the earlier ones begins. NOT IN is never found: the IN in it is
earlier.
-/

namespace QueryConditions

variable {op : Operator} {c : Char} {s tail : Text}

section Spaced

def operatorMarker (op : Operator) : Marker where
  spellings := [op.parts]
  spaced := !op.isUnary
  spelled := by cases op <;> decide

theorem operatorMarker_stopsAt (quote : isQuote c = true) : (operatorMarker op).StopsAt c := by
  simp only [isQuote, Bool.or_eq_true, beq_iff_eq] at quote
  rcases quote with rfl | rfl <;> cases op <;> decide

theorem reads_operatorMarker (s : Text) :
    (operatorMarker op).reads s = (keywords? op.parts s).any (operatorMarker op).ends := by
  simp [Marker.reads, operatorMarker]

theorem isSome_spacedOperand? (solid : ∀ c ∈ s.getLast?, isBlank c = false) :
    (spacedOperand? op s).isSome = (operatorMarker op).ends s := by
  unfold spacedOperand? Marker.ends
  by_cases unary : op.isUnary = true
  · by_cases ends : wordEnds s = true <;> simp [operatorMarker, unary, ends]
  · rcases s with - | ⟨gap, - | ⟨d, s⟩⟩
    · simp [operatorMarker, unary]
    · have here : isBlank gap = false := solid gap rfl
      simp [operatorMarker, unary, here]
    · by_cases blank : isBlank gap = true <;> simp [operatorMarker, unary, blank]

theorem read?_spaced {before : Option Char} {start after : Text} {right : Option Text}
    (fresh : before.all (!isBlank ·) = true) (gap : blanks? s = some start)
    (words : keywords? op.parts start = some after) (ends : spacedOperand? op after = some right) :
    (spacedOperator op).read? before s = some (right, after) := by
  simp [spacedOperator, fresh, gap, words, ends]

theorem read?_spaced_eq_none_iff {before : Option Char}
    (fresh : before.all (!isBlank ·) = true) (solid : ∀ c ∈ s.getLast?, isBlank c = false) :
    (spacedOperator op).read? before s = none ↔ (operatorMarker op).begins s = false := by
  simp only [spacedOperator, fresh, if_true, Option.bind_eq_bind, Marker.begins]
  cases gap : blanks? s with
  | none => simp
  | some start =>
      simp only [Option.bind_some, Option.any_some, reads_operatorMarker]
      cases read : keywords? op.parts start with
      | none => simp
      | some after =>
          have suffix : after <:+ s := (keywords?_suffix read).trans (blanks?_follows gap).1
          have same : (spacedOperand? op after).isSome = (operatorMarker op).ends after :=
            isSome_spacedOperand? fun c last => solid c (getLast?_of_suffix suffix last)
          simp only [Option.bind_some, Option.any_some, ← same]
          cases spacedOperand? op after <;> simp

/-- From inside of blanks nothing is found that does not begin where the blanks do. -/
theorem find?_spaced_eq_none_iff {before : Option Char}
    (fresh : before.all (!isBlank ·) = true ∨ (operatorMarker op).begins s = false)
    (solid : ∀ c ∈ s.getLast?, isBlank c = false) :
    (spacedOperator op).find? before s = none ↔ (operatorMarker op).Absent s [] := by
  induction s generalizing before with
  | nil => exact iff_of_true rfl trivial
  | cons c s ih =>
      have here : (spacedOperator op).read? before (c :: s) = none ↔
          (operatorMarker op).begins (c :: s) = false := by
        by_cases start : before.all (!isBlank ·) = true
        · exact read?_spaced_eq_none_iff start solid
        · exact iff_of_true (if_neg start) (fresh.resolve_left start)
      rw [Marker.absent_cons, List.append_nil, ← here, Pattern.find?]
      cases read : (spacedOperator op).read? before (c :: s) with
      | some found => simp
      | none =>
          -- Behind a blank nothing is read, but then nothing began at that blank either.
          have next : (some c).all (!isBlank ·) = true ∨ (operatorMarker op).begins s = false := by
            by_cases blank : isBlank c = true
            · exact .inr (Marker.begins_of_begins_cons blank (here.1 read))
            · exact .inl (by simpa using blank)
          simp [ih next (getLast?_tail solid)]

theorem spacedMatch?_eq_none_iff (solid : ∀ d ∈ (c :: tail).getLast?, isBlank d = false) :
    spacedMatch? (c :: tail) op = none ↔ (operatorMarker op).Absent tail [] := by
  have solid' := getLast?_tail solid
  rw [spacedMatch?, Option.map_eq_none_iff, find?_spaced_eq_none_iff (.inl rfl) solid']

theorem isSome_spacedOperand?_append {t : Text} (boundary : wordEnds t = true)
    (found : (spacedOperand? op s).isSome = true) : (spacedOperand? op (s ++ t)).isSome = true := by
  unfold spacedOperand? at found ⊢
  by_cases unary : op.isUnary = true
  · have ends : wordEnds s = true := by simpa [unary] using found
    simp [unary, wordEnds_append ends boundary]
  · rcases s with - | ⟨gap, - | ⟨d, s⟩⟩
    · simp [unary] at found
    · simp [unary] at found
    · simpa [unary] using found

theorem isSome_read?_spaced_append {before : Option Char} {t : Text} (boundary : wordEnds t = true)
    (found : ((spacedOperator op).read? before s).isSome = true) :
    ((spacedOperator op).read? before (s ++ t)).isSome = true := by
  rcases Option.isSome_iff_exists.1 found with ⟨_, read⟩
  simp only [spacedOperator] at read
  split at read
  · next fresh =>
      simp only [Option.bind_eq_bind, Option.bind_eq_some_iff] at read
      rcases read with ⟨start, gap, after, words, right, ends, _⟩
      have spelled := (operatorMarker op).spelled op.parts List.mem_cons_self
      have more : start ≠ [] := ne_nil_of_keywords? spelled.1 spelled.2 words
      have still := isSome_spacedOperand?_append boundary (Option.isSome_of_eq_some ends)
      rcases Option.isSome_iff_exists.1 still with ⟨operand, ends⟩
      exact Option.isSome_of_eq_some (read?_spaced fresh (blanks?_append gap more t)
        (keywords?_append spelled.2 words t) ends)
  · simp at read

/-- Blanks at the end can be needed behind an operator, but they never hide one. -/
theorem absent_of_spacedMatch? (unmatched : spacedMatch? (c :: tail) op = none) :
    (operatorMarker op).Absent (Text.trimEnd tail) [] := by
  have unfound := Option.map_eq_none_iff.1 unmatched
  have solid : ∀ d ∈ (Text.trimEnd tail).getLast?, isBlank d = false :=
    getLast?_rdropWhile isBlank tail
  have fresh : (none : Option Char).all (!isBlank ·) = true := rfl
  rcases trimEnd_append tail with ⟨blanks, whole, boundary⟩
  rw [whole] at unfound
  apply (find?_spaced_eq_none_iff (.inl fresh) solid).1
  exact Pattern.find?_eq_none_of_append _
    (fun _ _ found => isSome_read?_spaced_append boundary found) unfound

/-- The last word of NOT IN is IN, and the blanks before it follow a word. -/
theorem spacedMatch?_isIn_of_notIn {fragment : Text}
    (matched : (spacedMatch? fragment .notIn).isSome = true) :
    (spacedMatch? fragment .isIn).isSome = true := by
  cases fragment with
  | nil => simp [spacedMatch?] at matched
  | cons c tail =>
      simp only [spacedMatch?, Option.isSome_map] at matched ⊢
      obtain ⟨⟨skipped, right, rest⟩, place⟩ := Option.isSome_iff_exists.1 matched
      obtain ⟨start, rfl, read⟩ := Pattern.read?_of_find? _ place
      simp only [spacedOperator] at read
      split at read
      · simp only [Operator.parts, keywords?, Option.bind_eq_bind, Option.bind_eq_some_iff,
          Option.pure_def, Option.some.injEq, Prod.mk.injEq] at read
        obtain ⟨words, gap, after, ⟨middle, not, next, gap', isIn⟩, operand, ends, rfl, rfl⟩ := read
        obtain ⟨blanks, rfl⟩ := (blanks?_follows gap).1
        obtain ⟨word, rfl, length, letters⟩ := word_of_keyword? (by decide) not
        have some_char : word ≠ [] := List.ne_nil_of_length_eq_add_one length
        -- IN is read behind the word NOT unless it is found before that.
        by_contra absent
        have unfound : (spacedOperator .isIn).find? none ((skipped ++ blanks ++ word) ++ middle) =
            none := by
          simpa using absent
        have behind : ((skipped ++ blanks ++ word).getLast?.or none).all (!isBlank ·) = true := by
          rw [List.getLast?_append_of_ne_nil _ some_char, List.getLast?_eq_some_getLast some_char]
          have last := List.all_eq_true.1 letters _ (List.getLast_mem some_char)
          by_contra blank
          rw [isWord_of_isBlank (by simpa using blank)] at last
          contradiction
        have found : (spacedOperator .isIn).read? _ middle = some (operand, after) :=
          read?_spaced behind gap' isIn ends
        rw [Pattern.read?_of_find?_eq_none _ unfound] at found
        contradiction
      · simp at read

end Spaced

section Symbols

def isSign (c : Char) : Bool := c == '<' || c == '>' || c == '!' || c == '='

theorem token_signs (symbolic : op.isSymbolic = true) : op.token.all isSign = true := by
  cases op <;> first | decide | simp [Operator.isSymbolic] at symbolic

theorem symbol?_eq_some_iff {symbol rest : Text} :
    symbol? symbol s = some rest ↔ s = symbol ++ rest := by
  induction symbol generalizing s with
  | nil => simp [symbol?]
  | cons sign symbol ih =>
      cases s with
      | nil => simp [symbol?]
      | cons c s =>
          by_cases same : sign = c
          · simp [symbol?, same, ih]
          · simp [symbol?, same, Ne.symm same]

end Symbols

section Found

def Operator.earlier (op : Operator) : List Operator := Operator.priority.takeWhile (· ≠ op)

theorem ne_of_mem_earlier {other : Operator} (earlier : other ∈ op.earlier) : other ≠ op := by
  simpa using List.mem_takeWhile_imp earlier

theorem priority_split (op : Operator) :
    ∃ later, Operator.priority = op.earlier ++ op :: later := by
  cases op <;> exact ⟨_, rfl⟩

theorem findSome?_priority_eq_some_iff {find : Operator → Option OperatorMatch}
    (own : ∀ op found, find op = some found → found.operator = op) {found : OperatorMatch} :
    Operator.priority.findSome? find = some found ↔
      find found.operator = some found ∧ ∀ other ∈ found.operator.earlier, find other = none := by
  rw [List.findSome?_eq_some_iff]
  constructor
  · rintro ⟨before, op, after, split, here, absent⟩
    obtain rfl := own op found here
    -- Nothing before the operator matches, so the operator itself is not among those.
    have different : ∀ other ∈ before, decide (other ≠ found.operator) = true := by
      intro other member
      refine decide_eq_true fun same => ?_
      have none := absent other member
      rw [same, here] at none
      contradiction
    have earlier : found.operator.earlier = before := by
      rw [Operator.earlier, split, List.takeWhile_append_of_pos different]
      simp
    exact ⟨here, earlier ▸ absent⟩
  · rintro ⟨here, absent⟩
    obtain ⟨later, split⟩ := priority_split found.operator
    exact ⟨_, _, later, split, here, absent⟩

theorem operator_of_spacedMatch? {fragment : Text} {found : OperatorMatch}
    (here : spacedMatch? fragment op = some found) : found.operator = op := by
  cases fragment with
  | nil => simp [spacedMatch?] at here
  | cons c tail =>
      obtain ⟨_, _, rfl⟩ := Option.map_eq_some_iff.1 here
      rfl

theorem operator_of_compactMatch? {fragment : Text} {found : OperatorMatch}
    (here : compactMatch? fragment op = some found) :
    found.operator = op ∧ op.isSymbolic = true := by
  unfold compactMatch? at here
  split at here
  · next symbolic =>
      obtain ⟨_, _, rfl⟩ := Option.map_eq_some_iff.1 here
      exact ⟨rfl, symbolic⟩
  · simp at here

theorem matchOperator?_of_spacedMatch? {fragment : Text} {found : OperatorMatch}
    (here : spacedMatch? fragment found.operator = some found)
    (none : ∀ other ∈ found.operator.earlier, spacedMatch? fragment other = none) :
    matchOperator? fragment = some found := by
  have first := (findSome?_priority_eq_some_iff fun op found => operator_of_spacedMatch?).2
    ⟨here, none⟩
  rw [matchOperator?, first]
  rfl

/-- Without an operator between blanks none of them comes before the one that is found. -/
theorem spacedMatch?_earlier {fragment : Text} {found : OperatorMatch}
    (matched : matchOperator? fragment = some found) :
    ∀ other ∈ found.operator.earlier, spacedMatch? fragment other = none := by
  rcases Option.or_eq_some_iff.1 matched with spaced | ⟨none, _⟩
  · exact ((findSome?_priority_eq_some_iff fun op found => operator_of_spacedMatch?).1 spaced).2
  · exact fun other _ => List.findSome?_eq_none_iff.1 none other (Operator.mem_priority other)

/-- An operator between blanks leaves the later ones no chance. -/
theorem exists_match_earlier {fragment : Text} {first : Operator} (earlier : first ∈ op.earlier)
    (spaced : spacedMatch? fragment first ≠ none) :
    ∃ found, matchOperator? fragment = some found ∧ found.operator ∈ op.earlier ∧
      spacedMatch? fragment found.operator = some found := by
  cases taken : op.earlier.findSome? (spacedMatch? fragment) with
  | none => exact absurd (List.findSome?_eq_none_iff.1 taken first earlier) spaced
  | some found =>
      rcases List.exists_of_findSome?_eq_some taken with ⟨other, member, here⟩
      obtain rfl := operator_of_spacedMatch? here
      rcases priority_split op with ⟨later, split⟩
      refine ⟨found, ?_, member, here⟩
      rw [matchOperator?, split, List.findSome?_append, taken]
      rfl

theorem notIn_never_found {fragment : Text} {found : OperatorMatch}
    (matched : matchOperator? fragment = some found) : found.operator ≠ .notIn := by
  intro same
  have earlier := spacedMatch?_earlier matched .isIn (by rw [same]; decide)
  rcases Option.or_eq_some_iff.1 matched with spaced | ⟨_, compact⟩
  · have here := ((findSome?_priority_eq_some_iff fun op found =>
      operator_of_spacedMatch?).1 spaced).1
    rw [same] at here
    have taken := spacedMatch?_isIn_of_notIn (Option.isSome_of_eq_some here)
    rw [earlier] at taken
    contradiction
  · obtain ⟨op, _, here⟩ := List.exists_of_findSome?_eq_some compact
    obtain ⟨rfl, symbolic⟩ := operator_of_compactMatch? here
    rw [same] at symbolic
    contradiction

theorem spacedOperand?_eq_some {after : Text} {right : Option Text}
    (read : spacedOperand? op after = some right) :
    right = if op.isUnary then none else some (Text.trim after) := by
  unfold spacedOperand? at read
  split at read
  · next unary =>
      split at read
      · cases read
        simp [unary]
      · simp at read
  · next binary =>
      split at read
      · split at read
        · cases read
          simp [binary]
        · simp at read
      · simp at read

theorem compactOperand?_eq_some {after right : Text} (read : compactOperand? after = some right) :
    right = Text.trim after := by
  unfold compactOperand? at read
  split at read
  · next shape =>
      split at read
      · cases read
        rw [Text.trim, shape]
      · simp at read
  · simp at read

theorem suffix_of_follows_cons {rest : Text} (follows : Follows rest (c :: tail)) :
    rest <:+ tail := by
  rcases List.suffix_cons_iff.1 follows.1 with rfl | suffix
  · exact absurd follows.2 (Nat.lt_irrefl _)
  · exact suffix

theorem read?_spaced_eq_some {before : Option Char} {after : Text} {right : Option Text}
    (read : (spacedOperator op).read? before s = some (right, after)) :
    right = if op.isUnary then none else some (Text.trim after) := by
  simp only [spacedOperator] at read
  split at read
  · simp only [Option.bind_eq_bind, Option.bind_eq_some_iff, Option.pure_def,
      Option.some.injEq, Prod.mk.injEq] at read
    obtain ⟨_, _, _, _, _, operand, rfl, rfl⟩ := read
    exact spacedOperand?_eq_some operand
  · simp at read

theorem read?_compact_eq_some {before : Option Char} {right after : Text}
    (read : (compactOperator op).read? before s = some (right, after)) :
    right = Text.trim after := by
  simp only [compactOperator] at read
  split at read
  · simp only [Option.bind_eq_bind, Option.bind_eq_some_iff, Option.pure_def,
      Option.some.injEq, Prod.mk.injEq] at read
    obtain ⟨_, _, _, operand, rfl, rfl⟩ := read
    exact compactOperand?_eq_some operand
  · simp at read

/-- No operand, or the end of the fragment without the blanks before it. -/
def EndsFragment (tail : Text) (found : OperatorMatch) : Prop :=
  found.right = none ∧ found.operator.isUnary = true ∨
    ∃ after, after <:+ tail ∧ found.right = some (Text.trim after) ∧
      found.operator.isUnary = false

theorem endsFragment_of_spacedMatch? {found : OperatorMatch}
    (here : spacedMatch? (c :: tail) op = some found) : EndsFragment tail found := by
  obtain ⟨⟨left, right, rest⟩, place, rfl⟩ := Option.map_eq_some_iff.1 here
  obtain ⟨start, rfl, read⟩ := Pattern.read?_of_find? _ place
  have after : rest <:+ left ++ start :=
    ((spacedOperator op).follows read).1.trans (List.suffix_append left start)
  have shape := read?_spaced_eq_some read
  by_cases unary : op.isUnary = true
  · exact .inl ⟨by simpa [unary] using shape, unary⟩
  · exact .inr ⟨rest, after, by simpa [unary] using shape, by simpa using unary⟩

theorem endsFragment_of_compactMatch? {found : OperatorMatch}
    (here : compactMatch? (c :: tail) op = some found) : EndsFragment tail found := by
  obtain ⟨rfl, symbolic⟩ := operator_of_compactMatch? here
  have binary : found.operator.isUnary = false := by
    cases shape : found.operator <;> simp_all [Operator.isSymbolic, Operator.isUnary]
  simp only [compactMatch?, symbolic, if_true] at here
  obtain ⟨⟨left, right, rest⟩, place, same⟩ := Option.map_eq_some_iff.1 here
  obtain ⟨start, whole, read⟩ := Pattern.read?_of_find? _ place
  -- A symbol is never empty, so what follows it has lost the first character at least.
  have follows := follows_of_suffix ⟨left, whole.symm⟩ ((compactOperator found.operator).follows read)
  refine .inr ⟨rest, suffix_of_follows_cons follows, ?_, binary⟩
  rw [← same, read?_compact_eq_some read]

theorem endsFragment_of_matchOperator? {found : OperatorMatch}
    (matched : matchOperator? (c :: tail) = some found) : EndsFragment tail found := by
  rcases Option.or_eq_some_iff.1 matched with spaced | ⟨_, compact⟩
  · obtain ⟨op, _, here⟩ := List.exists_of_findSome?_eq_some spaced
    exact endsFragment_of_spacedMatch? here
  · obtain ⟨op, _, here⟩ := List.exists_of_findSome?_eq_some compact
    exact endsFragment_of_compactMatch? here

end Found

end QueryConditions
