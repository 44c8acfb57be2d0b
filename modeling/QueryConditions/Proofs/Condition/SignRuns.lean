import QueryConditions.Proofs.Condition.Occurrences

/-!
Signs in a row. The signs between two operands are read as one symbol or not at all: no part
of them is taken for an operator, however many blanks stand around them.
-/

namespace QueryConditions

variable {op : Operator} {left right run left' right' symbol : Text} {place : Place}

section Runs

def isComparisonSign (c : Char) : Bool := c == '<' || c == '>' || c == '='

def IsSignRun (run : Text) : Prop :=
  ∃ signs, signs ≠ [] ∧ signs.all isComparisonSign = true ∧ (run = signs ∨ run = '!' :: signs)

theorem isSign_of_isComparisonSign {c : Char} (sign : isComparisonSign c = true) :
    isSign c = true := by
  simp only [isComparisonSign, isSign, Bool.or_eq_true] at sign ⊢
  rcases sign with (less | greater) | equals
  · exact .inl (.inl (.inl less))
  · exact .inl (.inl (.inr greater))
  · exact .inr equals

theorem IsSignRun.shape (isRun : IsSignRun run) : ∃ sign signs,
    run = sign :: signs ∧ isSign sign = true ∧ signs.all isComparisonSign = true := by
  rcases isRun with ⟨signs, some_sign, all, rfl | rfl⟩
  · rcases exists_cons_of_all some_sign all with ⟨sign, signs, rfl, first, all⟩
    exact ⟨sign, signs, rfl, isSign_of_isComparisonSign first, all⟩
  · exact ⟨'!', signs, rfl, rfl, all⟩

theorem IsSignRun.signs (isRun : IsSignRun run) : run.all isSign = true := by
  rcases isRun.shape with ⟨sign, signs, rfl, first, all⟩
  refine List.all_eq_true.2 fun c member => ?_
  rcases List.mem_cons.1 member with rfl | later
  · exact first
  · exact isSign_of_isComparisonSign (List.all_eq_true.1 all c later)

theorem not_isSign_of_mem {c : Char} (plain : left.all (!isSign ·) = true) (member : c ∈ left) :
    isSign c = false := by
  simpa using List.all_eq_true.1 plain c member

theorem left_eq_of_run (isRun : IsSignRun run) (plain : left.all (!isSign ·) = true)
    (plain' : right.all (!isSign ·) = true) (signs : symbol.all isSign = true)
    (some_sign : symbol ≠ []) (before : ∀ c ∈ left'.getLast?, isSign c = false)
    (same : left ++ (run ++ right) = left' ++ (symbol ++ right')) : left = left' := by
  rcases List.exists_cons_of_ne_nil some_sign with ⟨sign, more, rfl⟩
  simp only [List.all_cons, Bool.and_eq_true] at signs
  rcases List.append_eq_append_iff.1 same with ⟨middle, rfl, rest⟩ | ⟨middle, rfl, rest⟩
  · rcases List.eq_nil_or_concat middle with rfl | ⟨start, last, rfl⟩
    · simp
    · have unsigned : isSign last = false := before last (by simp)
      -- The last character before the symbol is in the run, or else the symbol is behind it.
      rcases List.append_eq_append_iff.1 rest with ⟨tail, _, whole⟩ | ⟨tail, whole, _⟩
      · have later := not_isSign_of_mem plain' (c := sign) (by simp [whole])
        rw [signs.1] at later
        contradiction
      · have inside := List.all_eq_true.1 isRun.signs last (by simp [whole])
        rw [unsigned] at inside
        contradiction
  · cases middle with
    | nil => simp
    | cons c middle =>
        have first : sign = c := by simpa using congrArg List.head? rest
        have unsigned := not_isSign_of_mem plain (c := c) (by simp)
        rw [← first, signs.1] at unsigned
        contradiction

theorem run_eq_of_run (isRun : IsSignRun run) (plain : right.all (!isSign ·) = true)
    (signs : symbol.all isSign = true) (some_sign : symbol ≠ [])
    (behind : ∀ c ∈ right'.head?, isComparisonSign c = false)
    (same : run ++ right = symbol ++ right') : run = symbol ∧ right = right' := by
  rcases isRun.shape with ⟨sign, more, rfl, _, all⟩
  rcases List.append_eq_append_iff.1 same with ⟨middle, rfl, rfl⟩ | ⟨middle, whole, rfl⟩
  · cases middle with
    | nil => simp
    | cons c middle =>
        have unsigned := not_isSign_of_mem plain (c := c) (by simp)
        rw [List.all_eq_true.1 signs c (by simp)] at unsigned
        contradiction
  · cases middle with
    | nil => simpa using whole
    | cons c middle =>
        -- Signs of comparison go on behind the symbol.
        rcases List.exists_cons_of_ne_nil some_sign with ⟨d, symbol, rfl⟩
        rw [List.cons_append, List.cons.injEq] at whole
        have inside := List.all_eq_true.1 all c (by simp [whole.2])
        rw [behind c rfl] at inside
        contradiction

end Runs

section Symbols

theorem parts_of_symbolic (symbolic : op.isSymbolic = true) : op.parts = [op.token] := by
  cases op <;> first | rfl | contradiction

theorem isSign_iff {c : Char} : isSign c = true ↔ c ∈ ['<', '>', '!', '='] := by
  simp [isSign, or_assoc]

theorem isComparisonSign_iff {c : Char} : isComparisonSign c = true ↔ c ∈ ['<', '>', '='] := by
  simp [isComparisonSign, or_assoc]

/-- Signs have no letter case. -/
theorem eq_sign_of_foldCase {c sign : Char} (signed : isSign sign = true)
    (same : foldCase c = foldCase sign) : c = sign := by
  have kept (other : Char) (member : other ∈ ['<', '>', '!', '=']) :
      (foldCase c == other) = (c == other) ∧ foldCase other = other := by
    simp only [List.mem_cons, List.not_mem_nil, or_false] at member
    rcases member with rfl | rfl | rfl | rfl <;>
      exact ⟨map_foldCase (f := (· == _)) (by decide) (by decide) (by decide) c, by decide⟩
  rcases kept sign (isSign_iff.1 signed) with ⟨here, fixed⟩
  rw [same, fixed] at here
  simpa using here.symm

theorem eq_of_spells_signs {keyword word : Text} (signs : keyword.all isSign = true)
    (spells : Spells keyword word) : word = keyword := by
  induction keyword generalizing word with
  | nil => simpa [Spells] using spells
  | cons sign keyword ih =>
      simp only [List.all_cons, Bool.and_eq_true] at signs
      cases word with
      | nil => simp [Spells] at spells
      | cons c word =>
          simp only [Spells, List.map_cons, List.cons.injEq] at spells
          rw [eq_sign_of_foldCase signs.1 spells.1, ih signs.2 spells.2]

theorem spelling_of_symbolic {spelling : Text} (symbolic : op.isSymbolic = true)
    (spells : SpellsAll op.parts spelling) : spelling = op.token := by
  rw [parts_of_symbolic symbolic] at spells
  cases spells with
  | last word => exact eq_of_spells_signs (token_signs symbolic) word

theorem isSign_of_isBlank {c : Char} (blank : isBlank c = true) : isSign c = false := by
  by_contra signed
  have sign : c ∈ ['<', '>', '!', '='] := isSign_iff.1 (by simpa using signed)
  simp only [List.mem_cons, List.not_mem_nil, or_false] at sign
  rcases sign with rfl | rfl | rfl | rfl <;> exact absurd blank (by decide)

theorem getLast?_append_gap {s gap : Text} (blanks : gap.all isBlank = true)
    (last : gap = [] → ∀ c ∈ s.getLast?, isSign c = false) :
    ∀ c ∈ (s ++ gap).getLast?, isSign c = false := by
  intro c here
  by_cases no_gap : gap = []
  · rw [no_gap, List.append_nil] at here
    exact last no_gap c here
  · rw [List.getLast?_append_of_ne_nil _ no_gap] at here
    exact isSign_of_isBlank (List.all_eq_true.1 blanks c (List.mem_of_mem_getLast? here))

theorem head?_gap_append {s gap : Text} (blanks : gap.all isBlank = true)
    (first : gap = [] → ∀ c ∈ s.head?, isComparisonSign c = false) :
    ∀ c ∈ (gap ++ s).head?, isComparisonSign c = false := by
  intro c here
  cases gap with
  | nil => exact first rfl c here
  | cons d gap =>
      cases here
      have unsigned := isSign_of_isBlank (List.all_eq_true.1 blanks c List.mem_cons_self)
      by_contra sign
      rw [isSign_of_isComparisonSign (by simpa using sign)] at unsigned
      contradiction

/-- Two operands without signs and signs between them, and no operator that is a keyword. -/
structure Compares (left run right : Text) : Prop where
  signs : IsSignRun run
  plain_left : left.all (!isSign ·) = true
  plain_right : right.all (!isSign ·) = true
  some_left : ∃ c ∈ left, isBlank c = false
  some_right : ∃ c ∈ right, isBlank c = false
  no_keyword : ∀ op : Operator, op.isSymbolic = false →
    spacedMatch? (left ++ (run ++ right)) op = none

theorem binary_of_symbolic (symbolic : op.isSymbolic = true) : op.isUnary = false := by
  cases op <;> first | rfl | contradiction

/-- A place of a symbol in such a text is the whole run. -/
theorem split_of_run (compares : Compares left run right) (symbolic : op.isSymbolic = true)
    (divides : Divides op (left ++ (run ++ right)) place)
    (before : place.leftGap = [] → ∀ c ∈ place.left.getLast?, isSign c = false)
    (behind : place.rightGap = [] → ∀ c ∈ place.right.head?, isComparisonSign c = false) :
    run = op.token ∧ place.split op = ⟨op, Text.trim left, some (Text.trim right)⟩ := by
  have whole := divides.whole
  rw [Place.text, spelling_of_symbolic symbolic divides.spelling, ← List.append_assoc] at whole
  have start : left = place.left ++ place.leftGap :=
    left_eq_of_run compares.signs compares.plain_left compares.plain_right (token_signs symbolic)
      op.token_ne_nil (getLast?_append_gap divides.leftGap before) whole.symm
  rw [← start] at whole
  rcases run_eq_of_run compares.signs compares.plain_right (token_signs symbolic) op.token_ne_nil
    (head?_gap_append divides.rightGap behind) (List.append_cancel_left whole.symm) with
    ⟨same, rest⟩
  refine ⟨same, ?_⟩
  rw [start, rest, trim_append_blanks divides.leftGap, trim_blanks_append divides.rightGap]
  simp [Place.split, binary_of_symbolic symbolic]

theorem eq_of_match (compares : Compares left run right) {found : OperatorMatch}
    (matched : matchOperator? (left ++ (run ++ right)) = some found) :
    run = found.operator.token ∧
      found = ⟨found.operator, Text.trim left, some (Text.trim right)⟩ := by
  rcases Option.or_eq_some_iff.1 matched with spaced | ⟨_, compact⟩
  · rcases List.exists_of_findSome?_eq_some spaced with ⟨op, _, here⟩
    have symbolic : op.isSymbolic = true := by
      by_contra keyword
      rw [compares.no_keyword op (by simpa using keyword)] at here
      contradiction
    rcases spacedMatch?_leftmost here with ⟨place, ⟨at_place, _⟩, rfl⟩
    have gaps := at_place.binary (binary_of_symbolic symbolic)
    exact split_of_run compares symbolic at_place.divides
      (fun no_gap => absurd no_gap at_place.leftGap.1) (fun no_gap => absurd no_gap gaps.1.1)
  · rcases List.exists_of_findSome?_eq_some compact with ⟨op, _, here⟩
    rcases compactMatch?_leftmost here with ⟨place, ⟨at_place, _⟩, rfl⟩
    refine split_of_run compares at_place.symbolic at_place.divides (fun _ => ?_) (fun _ => ?_)
    · rcases at_place.left with ⟨c, last, _, unsigned⟩
      rintro d here
      cases Option.some.inj (last.symm.trans here)
      simpa using mt isSign_iff.1 unsigned
    · rcases at_place.right with ⟨c, first, _, unsigned⟩
      rintro d here
      cases Option.some.inj (first.symm.trans here)
      simpa using mt isComparisonSign_iff.1 unsigned

theorem symbolic_of_signs (signs : op.token.all isSign = true) : op.isSymbolic = true := by
  cases op <;> first | rfl | exact absurd signs (by decide)

/-- A run that is a symbol occurs as that symbol, next to the operands or behind blanks. -/
theorem isSome_match_of_run (compares : Compares left run right) (symbol : op.token = run) :
    (matchOperator? (left ++ (run ++ right))).isSome = true := by
  have occurs : OccursCompact (left ++ (run ++ right)) op := by
    rcases solid_before_blanks compares.some_left with ⟨start, c, leftGap, blanks, solid, rfl⟩
    rcases blanks_before_solid compares.some_right with ⟨rightGap, d, rest, blanks', solid', rfl⟩
    refine ⟨⟨start ++ [c], leftGap, run, rightGap, d :: rest⟩, ?_⟩
    exact {
      whole := by simp [Place.text]
      symbolic := symbolic_of_signs (symbol ▸ compares.signs.signs)
      leftGap := blanks
      spelling := symbol.symm
      rightGap := blanks'
      left := by
        have unsigned := not_isSign_of_mem compares.plain_left (c := c) (by simp)
        exact ⟨c, by simp, solid, mt isSign_iff.2 (by simp [unsigned])⟩
      right := by
        have unsigned := not_isSign_of_mem compares.plain_right (c := d) (by simp)
        refine ⟨d, rfl, solid', fun sign => ?_⟩
        rw [isSign_of_isComparisonSign (isComparisonSign_iff.2 sign)] at unsigned
        contradiction }
  by_contra unmatched
  have none := Option.not_isSome_iff_eq_none.1 unmatched
  have compact := List.findSome?_eq_none_iff.1 (Option.or_eq_none_iff.1 none).2 op
    (Operator.mem_priority op)
  rw [← isSome_compactMatch?_iff, compact] at occurs
  contradiction

/-- Signs between two operands are read as the symbol that they make up, and as nothing if they
make up none; blanks around them change nothing. -/
theorem signs_read_whole (compares : Compares left run right) :
    (∀ op : Operator, op.token = run →
      matchOperator? (left ++ (run ++ right)) =
        some ⟨op, Text.trim left, some (Text.trim right)⟩) ∧
    ((∀ op : Operator, op.isSymbolic = true → op.token ≠ run) →
      matchOperator? (left ++ (run ++ right)) = none) ∧
    ∀ left' right' : Text, Compares left' run right' → Text.trim left' = Text.trim left →
      Text.trim right' = Text.trim right →
        matchOperator? (left' ++ (run ++ right')) = matchOperator? (left ++ (run ++ right)) := by
  have whole {left right : Text} (compares : Compares left run right) {op : Operator}
      (symbol : op.token = run) : matchOperator? (left ++ (run ++ right)) =
        some ⟨op, Text.trim left, some (Text.trim right)⟩ := by
    rcases Option.isSome_iff_exists.1 (isSome_match_of_run compares symbol) with ⟨found, matched⟩
    rcases eq_of_match compares matched with ⟨same, split⟩
    rw [← Operator.token_injective (symbol.trans same)] at split
    rw [matched, split]
  have none {left right : Text} (compares : Compares left run right)
      (other : ∀ op : Operator, op.token ≠ run) :
      matchOperator? (left ++ (run ++ right)) = none := by
    -- Whatever is found has the whole run for its token.
    by_contra matched
    rcases Option.ne_none_iff_exists'.1 matched with ⟨found, matched⟩
    exact other found.operator (eq_of_match compares matched).1.symm
  refine ⟨fun op => whole compares, fun other => none compares fun op symbol => ?_, ?_⟩
  · exact other op (symbolic_of_signs (symbol ▸ compares.signs.signs)) symbol
  · intro left' right' compares' same same'
    by_cases some_symbol : ∃ op : Operator, op.token = run
    · rcases some_symbol with ⟨op, symbol⟩
      rw [whole compares symbol, whole compares' symbol, same, same']
    · rw [not_exists] at some_symbol
      rw [none compares some_symbol, none compares' some_symbol]

theorem signs_read_whole_loose :
    matchOperator? "\te.pay<=  5 ".toList = some ⟨.le, "e.pay".toList, some "5".toList⟩ ∧
    matchOperator? "e.pay <= 5".toList = matchOperator? "\te.pay<=  5 ".toList ∧
    matchOperator? "e.pay !<= 5".toList = none := by
  have run : IsSignRun "<=".toList := ⟨"<=".toList, by decide, by decide, .inl rfl⟩
  have negated : IsSignRun "!<=".toList := ⟨"<=".toList, by decide, by decide, .inr rfl⟩
  have loose : Compares "\te.pay".toList "<=".toList "  5 ".toList :=
    ⟨run, by decide, by decide, ⟨'e', by decide, by decide⟩, ⟨'5', by decide, by decide⟩,
      fun op keyword => by cases op <;> first | contradiction | decide +kernel⟩
  have spaced : Compares "e.pay ".toList "<=".toList " 5".toList :=
    ⟨run, by decide, by decide, ⟨'e', by decide, by decide⟩, ⟨'5', by decide, by decide⟩,
      fun op keyword => by cases op <;> first | contradiction | decide +kernel⟩
  have none : Compares "e.pay ".toList "!<=".toList " 5".toList :=
    ⟨negated, by decide, by decide, ⟨'e', by decide, by decide⟩, ⟨'5', by decide, by decide⟩,
      fun op keyword => by cases op <;> first | contradiction | decide +kernel⟩
  exact ⟨(signs_read_whole loose).1 .le rfl,
    (signs_read_whole loose).2.2 _ _ spaced (by decide) (by decide),
    (signs_read_whole none).2.1 fun op _ => by cases op <;> decide⟩

end Symbols

end QueryConditions
