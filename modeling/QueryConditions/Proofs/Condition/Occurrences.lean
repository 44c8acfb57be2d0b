import QueryConditions.Proofs.Condition.Operators
import QueryConditions.Proofs.Text.Spellings

/-!
Where operators occur in a fragment. An operator occurs between blanks or, if it is a symbol,
between characters that are no part of a longer symbol. Main statement: the match of a
fragment is the first occurrence of the first operator that occurs between blanks, or else of
the first symbol that occurs at all, and only blanks around the operator are lost.
-/

namespace QueryConditions

variable {op : Operator} {fragment : Text}

section Places

structure Place where
  left : Text
  leftGap : Text
  spelling : Text
  rightGap : Text
  right : Text

namespace Place

variable {place other : Place}

def text (place : Place) : Text :=
  place.left ++ (place.leftGap ++ (place.spelling ++ (place.rightGap ++ place.right)))

def start (place : Place) : Nat := place.left.length + place.leftGap.length

def split (op : Operator) (place : Place) : OperatorMatch :=
  ⟨op, Text.trim place.left, if op.isUnary then none else some (Text.trim place.right)⟩

/-- Operators do not begin with a blank, so the text before the blanks tells which comes first. -/
theorem start_le (same : place.text = other.text) (blanks : place.leftGap.all isBlank = true)
    {c : Char} {tail : Text} (spelling : other.spelling = c :: tail) (solid : isBlank c = false)
    (shorter : place.left.length ≤ other.left.length) : place.start ≤ other.start := by
  by_contra before
  simp only [start] at before
  have there : other.text[other.start]? = some c := by
    simp [text, start, spelling]
  have here : place.text[other.start]? =
      place.leftGap[other.start - place.left.length]? := by
    rw [text, List.getElem?_append_right (by simp only [start]; omega),
      List.getElem?_append_left (by simp only [start]; omega)]
  rw [same, there] at here
  have blank := List.all_eq_true.1 blanks c (List.mem_of_getElem? here.symm)
  rw [solid] at blank
  contradiction

end Place

/-- The operator stands between blanks, or before the end of a word if it takes no value. -/
structure SpacedAt (op : Operator) (fragment : Text) (place : Place) : Prop where
  whole : place.text = fragment
  left : place.left ≠ []
  leftGap : IsSpacing place.leftGap
  spelling : SpellsAll op.parts place.spelling
  unary : op.isUnary = true → place.rightGap = [] ∧ wordEnds place.right = true
  binary : op.isUnary = false → IsSpacing place.rightGap ∧ place.right ≠ []

/-- The operator is a symbol, and no sign of another symbol is next to it but for blanks. -/
structure CompactAt (op : Operator) (fragment : Text) (place : Place) : Prop where
  whole : place.text = fragment
  symbolic : op.isSymbolic = true
  leftGap : place.leftGap.all isBlank = true
  spelling : place.spelling = op.token
  rightGap : place.rightGap.all isBlank = true
  left : ∃ c ∈ place.left.getLast?, isBlank c = false ∧ c ∉ ['<', '>', '!', '=']
  right : ∃ c ∈ place.right.head?, isBlank c = false ∧ c ∉ ['<', '>', '=']

def OccursSpaced (fragment : Text) (op : Operator) : Prop := ∃ place, SpacedAt op fragment place

def OccursCompact (fragment : Text) (op : Operator) : Prop := ∃ place, CompactAt op fragment place

def IsLeftmost (kind : Place → Prop) (place : Place) : Prop :=
  kind place ∧ ∀ other, kind other → place.start ≤ other.start

def IsFirst (kind : Operator → Prop) (op : Operator) : Prop :=
  kind op ∧ ∀ other ∈ op.earlier, ¬ kind other

end Places

section Spaced

variable {place : Place} {after : Text} {operand : Option Text}

theorem writable_parts (op : Operator) : Writable op.parts := by cases op <;> decide

theorem parts_ne_nil (op : Operator) : op.parts ≠ [] := by cases op <;> decide

theorem spacedOperand?_split (read : spacedOperand? op after = some operand) :
    ∃ gap right, after = gap ++ right ∧
      (op.isUnary = true → gap = [] ∧ wordEnds right = true) ∧
      (op.isUnary = false → IsSpacing gap ∧ right ≠ []) ∧
      operand = if op.isUnary then none else some (Text.trim right) := by
  have taken := spacedOperand?_eq_some read
  unfold spacedOperand? at read
  split at read
  · next unary =>
      split at read
      · next ends => exact ⟨[], after, rfl, fun _ => ⟨rfl, ends⟩, by simp [unary], taken⟩
      · simp at read
  · next binary =>
      split at read
      · next gap c right =>
          split at read
          · next blank =>
              have trimmed : Text.trim (gap :: c :: right) = Text.trim (c :: right) :=
                trim_blanks_append (s := [gap]) (by simp [blank]) (c :: right)
              refine ⟨[gap], c :: right, rfl, by simp [binary], ?_, trimmed ▸ taken⟩
              exact fun _ => ⟨⟨List.cons_ne_nil _ _, by simp [blank]⟩, List.cons_ne_nil _ _⟩
          · simp at read
      · simp at read

theorem spacedOperand?_of_spacedAt (at_place : SpacedAt op fragment place) :
    (spacedOperand? op (place.rightGap ++ place.right)).isSome = true := by
  unfold spacedOperand?
  cases arity : op.isUnary with
  | true =>
      rcases at_place.unary arity with ⟨no_gap, ends⟩
      simp [no_gap, ends]
  | false =>
      rcases at_place.binary arity with ⟨⟨some_blank, blanks⟩, some_char⟩
      rcases List.exists_cons_of_ne_nil some_blank with ⟨gap, gaps, shape⟩
      rcases List.exists_cons_of_ne_nil (List.append_ne_nil_of_right_ne_nil gaps some_char) with
        ⟨c, tail, shape'⟩
      simp only [shape, List.all_cons, Bool.and_eq_true] at blanks
      simp [shape, shape', blanks.1]

/-- Reading at the blanks before an operator, or at more of them. -/
theorem isSome_read?_of_spacedAt (at_place : SpacedAt op fragment place) {blanks : Text}
    (more : blanks.all isBlank = true) {before : Option Char}
    (fresh : before.all (!isBlank ·) = true) :
    ((spacedOperator op).read? before (blanks ++ (place.leftGap ++
      (place.spelling ++ (place.rightGap ++ place.right))))).isSome = true := by
  rcases head?_of_spellsAll (writable_parts op) at_place.spelling with ⟨c, tail, shape, solid⟩
  have gap : blanks? (blanks ++ (place.leftGap ++
      (place.spelling ++ (place.rightGap ++ place.right)))) =
        some (place.spelling ++ (place.rightGap ++ place.right)) := by
    refine blanks?_eq_some_iff.2 ⟨⟨blanks ++ place.leftGap, ⟨?_, ?_⟩, by simp⟩, ?_⟩
    · exact List.append_ne_nil_of_right_ne_nil _ at_place.leftGap.1
    · rw [List.all_append, more, at_place.leftGap.2]
      rfl
    · simpa [shape] using solid
  have words := (keywords?_eq_some_iff (s := place.spelling ++ (place.rightGap ++ place.right))
    (writable_parts op) (parts_ne_nil op)).2 ⟨_, at_place.spelling, rfl⟩
  rcases Option.isSome_iff_exists.1 (spacedOperand?_of_spacedAt at_place) with ⟨operand, ends⟩
  exact Option.isSome_of_eq_some (read?_spaced fresh gap words ends)

theorem spacedAt_of_read? {before : Option Char} {left s : Text} (some_char : left ≠ [])
    (read : (spacedOperator op).read? before s = some (operand, after)) :
    ∃ place : Place, place.left = left ∧ SpacedAt op (left ++ s) place ∧
      place.split op = ⟨op, Text.trim left, operand⟩ := by
  simp only [spacedOperator] at read
  split at read
  · simp only [Option.bind_eq_bind, Option.bind_eq_some_iff, Option.pure_def,
      Option.some.injEq, Prod.mk.injEq] at read
    rcases read with ⟨words, gap, _, row, _, ends, rfl, rfl⟩
    rcases (blanks?_eq_some_iff.1 gap).1 with ⟨leftGap, spacing, rfl⟩
    rcases (keywords?_eq_some_iff (writable_parts op) (parts_ne_nil op)).1 row with
      ⟨spelling, spells, rfl⟩
    rcases spacedOperand?_split ends with ⟨rightGap, right, rfl, unary, binary, rfl⟩
    exact ⟨⟨left, leftGap, spelling, rightGap, right⟩, rfl,
      ⟨rfl, some_char, spacing, spells, unary, binary⟩, rfl⟩
  · simp at read

/-- An operator between blanks is found where it stands, or another time before that. -/
theorem find?_of_spacedAt {c : Char} {tail : Text} (at_place : SpacedAt op (c :: tail) place) :
    ∃ start operand after, (spacedOperator op).find? none tail = some (start, operand, after) ∧
      start.length < place.left.length := by
  rcases List.exists_cons_of_ne_nil at_place.left with ⟨d, left, shape⟩
  have whole := at_place.whole
  rw [Place.text, shape, List.cons_append, List.cons.injEq] at whole
  -- It is read at the first of the blanks that the text before it ends with.
  have blanks : (left.rtakeWhile isBlank).all isBlank = true :=
    List.all_eq_true.2 fun d member => List.mem_rtakeWhile_imp member
  have parts : Text.trimEnd left ++ left.rtakeWhile isBlank = left :=
    List.rdropWhile_append_rtakeWhile
  have solid : ∀ d ∈ (Text.trimEnd left).getLast?, isBlank d = false :=
    getLast?_rdropWhile isBlank left
  have fresh : ((Text.trimEnd left).getLast?.or none).all (!isBlank ·) = true := by
    cases last : (Text.trimEnd left).getLast? with
    | none => rfl
    | some d => simpa using solid d last
  rcases Pattern.find?_of_read? _ (isSome_read?_of_spacedAt at_place blanks fresh) with
    ⟨start, operand, after, found, bound⟩
  rw [← List.append_assoc, parts, whole.2] at found
  have shorter : (Text.trimEnd left).length ≤ left.length :=
    (List.rdropWhile_prefix isBlank left).length_le
  rw [shape, List.length_cons]
  exact ⟨start, operand, after, found, by omega⟩

theorem spacedMatch?_leftmost {found : OperatorMatch}
    (matched : spacedMatch? fragment op = some found) :
    ∃ place, IsLeftmost (SpacedAt op fragment) place ∧ found = place.split op := by
  cases fragment with
  | nil => simp [spacedMatch?] at matched
  | cons c tail =>
      rcases Option.map_eq_some_iff.1 matched with ⟨⟨start, operand, after⟩, first, rfl⟩
      rcases Pattern.read?_of_find? _ first with ⟨rest, whole, read⟩
      rcases spacedAt_of_read? (List.cons_ne_nil c start) read with ⟨place, left, at_place, same⟩
      rw [List.cons_append, ← whole] at at_place
      refine ⟨place, ⟨at_place, fun other at_other => ?_⟩, same.symm⟩
      rcases find?_of_spacedAt at_other with ⟨_, _, _, again, bound⟩
      rw [first] at again
      cases again
      rcases head?_of_spellsAll (writable_parts op) at_other.spelling with ⟨d, more, shape, solid⟩
      refine Place.start_le (at_place.whole.trans at_other.whole.symm) at_place.leftGap.2 shape
        solid ?_
      rw [left]
      exact bound

theorem isSome_spacedMatch?_iff :
    (spacedMatch? fragment op).isSome = true ↔ OccursSpaced fragment op := by
  constructor
  · intro matched
    rcases Option.isSome_iff_exists.1 matched with ⟨found, matched⟩
    rcases spacedMatch?_leftmost matched with ⟨place, leftmost, _⟩
    exact ⟨place, leftmost.1⟩
  · rintro ⟨place, at_place⟩
    cases fragment with
    | nil =>
        have empty := (List.append_eq_nil_iff.1 at_place.whole).1
        exact absurd empty at_place.left
    | cons c tail =>
        rcases find?_of_spacedAt at_place with ⟨start, operand, after, found, _⟩
        simp [spacedMatch?, found]

end Spaced

section Compact

variable {place : Place} {operand after : Text}

theorem mayPrecedeSymbol_iff {c : Char} :
    mayPrecedeSymbol c = true ↔ isBlank c = false ∧ c ∉ ['<', '>', '!', '='] := by
  simp [mayPrecedeSymbol, and_assoc]

theorem mayFollowSymbol_iff {c : Char} :
    mayFollowSymbol c = true ↔ isBlank c = false ∧ c ∉ ['<', '>', '='] := by
  simp [mayFollowSymbol, and_assoc]

/-- A text is the blanks that it begins with and what is left without them. -/
theorem blanks_append_skipBlanks (s : Text) :
    ∃ gap, gap.all isBlank = true ∧ s = gap ++ Text.skipBlanks s :=
  ⟨s.takeWhile isBlank, List.all_takeWhile, (List.takeWhile_append_dropWhile).symm⟩

theorem compactOperand?_split (read : compactOperand? after = some operand) :
    ∃ gap right, after = gap ++ right ∧ gap.all isBlank = true ∧
      right.head?.any mayFollowSymbol = true ∧ operand = Text.trim right := by
  rcases blanks_append_skipBlanks after with ⟨gap, blanks, whole⟩
  refine ⟨gap, Text.skipBlanks after, whole, blanks, ?_, ?_⟩
  · unfold compactOperand? at read
    split at read
    · next shape =>
        split at read
        · next follows => simp [shape, follows]
        · simp at read
    · simp at read
  · have trimmed := trim_blanks_append blanks (Text.skipBlanks after)
    rwa [← whole, ← compactOperand?_eq_some read] at trimmed

theorem compactAt_of_read? {left s : Text} (symbolic : op.isSymbolic = true)
    (read : (compactOperator op).read? left.getLast? s = some (operand, after)) :
    ∃ place : Place, place.left = left ∧ CompactAt op (left ++ s) place ∧
      place.split op = ⟨op, Text.trim left, some operand⟩ := by
  have binary : op.isUnary = false := by
    cases op <;> simp_all [Operator.isSymbolic, Operator.isUnary]
  simp only [compactOperator] at read
  split at read
  · next precedes =>
      simp only [Option.bind_eq_bind, Option.bind_eq_some_iff, Option.pure_def,
        Option.some.injEq, Prod.mk.injEq] at read
      rcases read with ⟨_, symbol, _, ends, rfl, rfl⟩
      rcases blanks_append_skipBlanks s with ⟨leftGap, blanks, whole⟩
      rcases compactOperand?_split ends with ⟨rightGap, right, rfl, blanks', follows, rfl⟩
      rw [symbol?_eq_some_iff.1 symbol] at whole
      rcases (Option.any_eq_true _ _).1 precedes with ⟨c, last, precedes⟩
      rcases (Option.any_eq_true _ _).1 follows with ⟨d, first, follows⟩
      refine ⟨⟨left, leftGap, op.token, rightGap, right⟩, rfl, ?_, by simp [Place.split, binary]⟩
      exact {
        whole := by rw [whole]; rfl
        symbolic := symbolic
        leftGap := blanks
        spelling := rfl
        rightGap := blanks'
        left := ⟨c, last, mayPrecedeSymbol_iff.1 precedes⟩
        right := ⟨d, first, mayFollowSymbol_iff.1 follows⟩ }
  · simp at read

theorem head?_token (op : Operator) : ∃ c tail, op.token = c :: tail ∧ isBlank c = false := by
  cases op <;> exact ⟨_, _, rfl, by decide⟩

/-- A symbol is found where it stands, or another time before that. -/
theorem find?_of_compactAt (at_place : CompactAt op fragment place) :
    ∃ start operand after, (compactOperator op).find? none fragment =
        some (start, operand, after) ∧ start.length ≤ place.left.length := by
  rcases at_place.left with ⟨c, last, precedes⟩
  rcases at_place.right with ⟨d, first, follows⟩
  rcases List.head?_eq_some_iff.1 first with ⟨rest, shape⟩
  rcases head?_token op with ⟨sign, signs, token, solid⟩
  have symbol : Text.skipBlanks (place.leftGap ++
      (place.spelling ++ (place.rightGap ++ place.right))) =
        op.token ++ (place.rightGap ++ place.right) := by
    rw [at_place.spelling]
    exact skipBlanks_append at_place.leftGap (by simpa [token] using solid)
  have operand : Text.skipBlanks (place.rightGap ++ place.right) = d :: rest := by
    rw [shape]
    exact skipBlanks_append at_place.rightGap (by simpa using follows.1)
  have read : ((compactOperator op).read? (place.left.getLast?.or none) (place.leftGap ++
      (place.spelling ++ (place.rightGap ++ place.right)))).isSome = true := by
    simp [compactOperator, Option.mem_def.1 last, mayPrecedeSymbol_iff.2 precedes, symbol,
      symbol?_eq_some_iff.2 rfl, compactOperand?, operand, mayFollowSymbol_iff.2 follows]
  rcases Pattern.find?_of_read? _ read with ⟨start, right, after, found, bound⟩
  exact ⟨start, right, after, at_place.whole ▸ found, bound⟩

theorem compactMatch?_leftmost {found : OperatorMatch}
    (matched : compactMatch? fragment op = some found) :
    ∃ place, IsLeftmost (CompactAt op fragment) place ∧ found = place.split op := by
  rcases operator_of_compactMatch? matched with ⟨_, symbolic⟩
  rw [compactMatch?, if_pos symbolic] at matched
  rcases Option.map_eq_some_iff.1 matched with ⟨⟨start, operand, after⟩, first, rfl⟩
  rcases Pattern.read?_of_find? _ first with ⟨rest, whole, read⟩
  rw [Option.or_none] at read
  rcases compactAt_of_read? symbolic read with ⟨place, left, at_place, same⟩
  rw [← whole] at at_place
  refine ⟨place, ⟨at_place, fun other at_other => ?_⟩, same.symm⟩
  rcases find?_of_compactAt at_other with ⟨_, _, _, again, bound⟩
  rw [first] at again
  cases again
  rcases head?_token op with ⟨sign, signs, token, solid⟩
  refine Place.start_le (at_place.whole.trans at_other.whole.symm) at_place.leftGap
    (at_other.spelling.trans token) solid ?_
  rw [left]
  exact bound

theorem isSome_compactMatch?_iff :
    (compactMatch? fragment op).isSome = true ↔ OccursCompact fragment op := by
  constructor
  · intro matched
    rcases Option.isSome_iff_exists.1 matched with ⟨found, matched⟩
    rcases compactMatch?_leftmost matched with ⟨place, leftmost, _⟩
    exact ⟨place, leftmost.1⟩
  · rintro ⟨place, at_place⟩
    rcases find?_of_compactAt at_place with ⟨start, operand, after, found, _⟩
    simp [compactMatch?, at_place.symbolic, found]

end Compact

section Match

variable {place : Place} {find : Operator → Option OperatorMatch} {kind : Operator → Prop}
  {found : OperatorMatch}

theorem findSome?_priority_first (own : ∀ op found, find op = some found → found.operator = op)
    (kinds : ∀ op, (find op).isSome = true ↔ kind op)
    (first : Operator.priority.findSome? find = some found) :
    IsFirst kind found.operator ∧ find found.operator = some found := by
  rcases (findSome?_priority_eq_some_iff own).1 first with ⟨here, earlier⟩
  refine ⟨⟨(kinds _).1 (Option.isSome_of_eq_some here), fun other before => ?_⟩, here⟩
  rw [← kinds, earlier other before]
  exact Bool.false_ne_true

theorem findSome?_priority_isSome_iff (kinds : ∀ op, (find op).isSome = true ↔ kind op) :
    (Operator.priority.findSome? find).isSome = true ↔ ∃ op, kind op := by
  rw [List.findSome?_isSome_iff]
  constructor
  · rintro ⟨op, _, some_match⟩
    exact ⟨op, (kinds op).1 some_match⟩
  · rintro ⟨op, occurs⟩
    exact ⟨op, Operator.mem_priority op, (kinds op).2 occurs⟩

/-- Between blanks the first operator wins, at its first place. -/
theorem match_of_occursSpaced (occurs : ∃ op, OccursSpaced fragment op) :
    ∃ op place, IsFirst (OccursSpaced fragment) op ∧ IsLeftmost (SpacedAt op fragment) place ∧
      matchOperator? fragment = some (place.split op) := by
  have kinds (op : Operator) :
      (spacedMatch? fragment op).isSome = true ↔ OccursSpaced fragment op :=
    isSome_spacedMatch?_iff
  have some_match := (findSome?_priority_isSome_iff kinds).2 occurs
  rcases Option.isSome_iff_exists.1 some_match with ⟨found, first⟩
  rcases findSome?_priority_first (fun _ _ => operator_of_spacedMatch?) kinds first with
    ⟨first_operator, here⟩
  rcases spacedMatch?_leftmost here with ⟨place, leftmost, same⟩
  refine ⟨found.operator, place, first_operator, leftmost, ?_⟩
  rw [matchOperator?, first, ← same]
  rfl

theorem findSome?_spacedMatch?_eq_none (absent : ¬ ∃ op, OccursSpaced fragment op) :
    Operator.priority.findSome? (spacedMatch? fragment) = none := by
  rw [← findSome?_priority_isSome_iff fun op => isSome_spacedMatch?_iff] at absent
  simpa using absent

/-- Without operators between blanks the first symbol wins, at its first place. -/
theorem match_of_occursCompact (absent : ¬ ∃ op, OccursSpaced fragment op)
    (occurs : ∃ op, OccursCompact fragment op) :
    ∃ op place, IsFirst (OccursCompact fragment) op ∧ IsLeftmost (CompactAt op fragment) place ∧
      matchOperator? fragment = some (place.split op) := by
  have kinds (op : Operator) :
      (compactMatch? fragment op).isSome = true ↔ OccursCompact fragment op :=
    isSome_compactMatch?_iff
  have some_match := (findSome?_priority_isSome_iff kinds).2 occurs
  rcases Option.isSome_iff_exists.1 some_match with ⟨found, first⟩
  rcases findSome?_priority_first (fun _ _ matched => (operator_of_compactMatch? matched).1)
    kinds first with ⟨first_operator, here⟩
  rcases compactMatch?_leftmost here with ⟨place, leftmost, same⟩
  refine ⟨found.operator, place, first_operator, leftmost, ?_⟩
  rw [matchOperator?, findSome?_spacedMatch?_eq_none absent, first, ← same]
  rfl

theorem match_eq_none (absent : ¬ ∃ op, OccursSpaced fragment op)
    (absent' : ¬ ∃ op, OccursCompact fragment op) : matchOperator? fragment = none := by
  have none := findSome?_spacedMatch?_eq_none absent
  rw [← findSome?_priority_isSome_iff fun op => isSome_compactMatch?_iff] at absent'
  rw [matchOperator?, none]
  simpa using absent'

end Match

section Kept

variable {place : Place} {found : OperatorMatch}

/-- Only blanks around the operator are left out, and what follows an operator that takes no
value. -/
def OperatorMatch.Keeps (found : OperatorMatch) (fragment : Text) : Prop :=
  ∃ leftGap spelling rightGap rest,
    leftGap.all isBlank = true ∧ SpellsAll found.operator.parts spelling ∧
      rightGap.all isBlank = true ∧
        fragment = found.left ++ (leftGap ++ (spelling ++ (rightGap ++ found.right.getD rest)))

structure Divides (op : Operator) (fragment : Text) (place : Place) : Prop where
  whole : place.text = fragment
  left : place.left ≠ []
  leftGap : place.leftGap.all isBlank = true
  spelling : SpellsAll op.parts place.spelling
  rightGap : place.rightGap.all isBlank = true
  right : op.isUnary = false → place.right ≠ []

theorem SpacedAt.divides (at_place : SpacedAt op fragment place) : Divides op fragment place where
  whole := at_place.whole
  left := at_place.left
  leftGap := at_place.leftGap.2
  spelling := at_place.spelling
  rightGap := by
    cases arity : op.isUnary with
    | true => simp [(at_place.unary arity).1]
    | false => exact (at_place.binary arity).1.2
  right binary := (at_place.binary binary).2

theorem CompactAt.divides (at_place : CompactAt op fragment place) : Divides op fragment place where
  whole := at_place.whole
  left := by
    rcases at_place.left with ⟨c, last, _⟩
    exact List.ne_nil_of_mem (List.mem_of_mem_getLast? last)
  leftGap := at_place.leftGap
  spelling := by
    rw [at_place.spelling]
    have symbolic := at_place.symbolic
    cases op <;> first | exact .last rfl | contradiction
  rightGap := at_place.rightGap
  right _ := by
    rcases at_place.right with ⟨c, first, _⟩
    exact List.ne_nil_of_mem (List.mem_of_mem_head? first)

theorem trim_ne_nil {c : Char} {s : Text} (member : c ∈ s) (solid : isBlank c = false) :
    Text.trim s ≠ [] := by
  intro empty
  rcases strip_between isBlank s with ⟨left, right, blanks, blanks', whole⟩
  rw [← trim_eq_strip, empty, List.nil_append] at whole
  have all : s.all isBlank = true := by rw [whole, List.all_append, blanks, blanks']; rfl
  rw [List.all_eq_true.1 all c member] at solid
  contradiction

theorem trim_append_of_head? {s : Text} (clear : ∀ c ∈ s.head?, isBlank c = false) :
    ∃ gap, gap.all isBlank = true ∧ s = Text.trim s ++ gap := by
  refine ⟨s.rtakeWhile isBlank, ?_, ?_⟩
  · exact List.all_eq_true.2 fun c member => List.mem_rtakeWhile_imp member
  · rw [trim_eq_strip, strip, dropWhile_of_clear clear, List.rdropWhile_append_rtakeWhile]

theorem append_trim_of_getLast? {s : Text} (clear : ∀ c ∈ s.getLast?, isBlank c = false) :
    ∃ gap, gap.all isBlank = true ∧ s = gap ++ Text.trim s := by
  rcases blanks_append_skipBlanks s with ⟨gap, blanks, whole⟩
  have clear' : ∀ c ∈ (s.dropWhile isBlank).getLast?, isBlank c = false := fun c last =>
    clear c (getLast?_of_suffix (List.dropWhile_suffix isBlank) last)
  refine ⟨gap, blanks, ?_⟩
  rwa [trim_eq_strip, strip, rdropWhile_of_clear clear']

theorem head?_left (divides : Divides op fragment place) : place.left.head? = fragment.head? := by
  rcases List.exists_cons_of_ne_nil divides.left with ⟨c, left, shape⟩
  rw [← divides.whole, Place.text, shape]
  rfl

theorem getLast?_right (divides : Divides op fragment place) (some_char : place.right ≠ []) :
    place.right.getLast? = fragment.getLast? := by
  rw [← divides.whole, Place.text]
  simp only [← List.append_assoc]
  exact (List.getLast?_append_of_ne_nil _ some_char).symm

theorem split_ne_nil (clear : ClearEnds isBlank fragment) (divides : Divides op fragment place) :
    (place.split op).left ≠ [] ∧ ∀ right ∈ (place.split op).right, right ≠ [] := by
  constructor
  · have first := List.head?_eq_some_head divides.left
    have solid := clear.1 _ (head?_left divides ▸ first)
    exact trim_ne_nil (List.head_mem divides.left) solid
  · intro right taken
    cases arity : op.isUnary with
    | true => simp [Place.split, arity] at taken
    | false =>
        have some_char := divides.right arity
        have last := List.getLast?_eq_some_getLast some_char
        have solid := clear.2 _ (getLast?_right divides some_char ▸ last)
        simp only [Place.split, arity, Bool.false_eq_true, if_false, Option.mem_def,
          Option.some.injEq] at taken
        exact taken ▸ trim_ne_nil (List.getLast_mem some_char) solid

theorem keeps_split (clear : ClearEnds isBlank fragment) (divides : Divides op fragment place) :
    (place.split op).Keeps fragment := by
  -- The fragment itself has no blanks at its ends, so trimming cuts next to the operator.
  rcases trim_append_of_head? (s := place.left) (head?_left divides ▸ clear.1) with
    ⟨gap, blanks, whole⟩
  have left : place.text = Text.trim place.left ++ ((gap ++ place.leftGap) ++
      (place.spelling ++ (place.rightGap ++ place.right))) := by
    rw [Place.text, List.append_assoc gap, ← List.append_assoc (Text.trim place.left), ← whole]
  have before : (gap ++ place.leftGap).all isBlank = true := by
    rw [List.all_append, blanks, divides.leftGap]
    rfl
  cases arity : op.isUnary with
  | true =>
      refine ⟨gap ++ place.leftGap, place.spelling, place.rightGap, place.right, before,
        divides.spelling, divides.rightGap, ?_⟩
      rw [← divides.whole, left]
      simp [Place.split, arity]
  | false =>
      have last := getLast?_right divides (divides.right arity)
      rcases append_trim_of_getLast? (s := place.right) (last ▸ clear.2) with
        ⟨gap', blanks', whole'⟩
      have behind : (place.rightGap ++ gap').all isBlank = true := by
        rw [List.all_append, divides.rightGap, blanks']
        rfl
      refine ⟨gap ++ place.leftGap, place.spelling, place.rightGap ++ gap', [], before,
        divides.spelling, behind, ?_⟩
      rw [← divides.whole, left]
      simp only [Place.split, arity, Bool.false_eq_true, if_false, Option.getD_some]
      rw [List.append_assoc place.rightGap, ← whole']

theorem divides_of_match (matched : matchOperator? fragment = some found) :
    ∃ op place, Divides op fragment place ∧ found = place.split op := by
  by_cases spaced : ∃ op, OccursSpaced fragment op
  · rcases match_of_occursSpaced spaced with ⟨op, place, _, leftmost, same⟩
    exact ⟨op, place, leftmost.1.divides, Option.some.inj (matched.symm.trans same)⟩
  · by_cases compact : ∃ op, OccursCompact fragment op
    · rcases match_of_occursCompact spaced compact with ⟨op, place, _, leftmost, same⟩
      exact ⟨op, place, leftmost.1.divides, Option.some.inj (matched.symm.trans same)⟩
    · rw [match_eq_none spaced compact] at matched
      contradiction

/-- The match of a fragment is the first place of the first operator between blanks, or else of
the first symbol; it has text on the sides that the operator has, and loses no more than blanks. -/
theorem match_first_leftmost (clear : ClearEnds isBlank fragment) :
    ((∃ op, OccursSpaced fragment op) →
      ∃ op place, IsFirst (OccursSpaced fragment) op ∧
        IsLeftmost (SpacedAt op fragment) place ∧
          matchOperator? fragment = some (place.split op)) ∧
    ((¬ ∃ op, OccursSpaced fragment op) → (∃ op, OccursCompact fragment op) →
      ∃ op place, IsFirst (OccursCompact fragment) op ∧
        IsLeftmost (CompactAt op fragment) place ∧
          matchOperator? fragment = some (place.split op)) ∧
    ((¬ ∃ op, OccursSpaced fragment op) → (¬ ∃ op, OccursCompact fragment op) →
      matchOperator? fragment = none) ∧
    ∀ found, matchOperator? fragment = some found →
      found.left ≠ [] ∧ (∀ right ∈ found.right, right ≠ []) ∧ found.Keeps fragment := by
  refine ⟨match_of_occursSpaced, match_of_occursCompact, match_eq_none, ?_⟩
  intro found matched
  rcases divides_of_match matched with ⟨op, place, divides, rfl⟩
  rcases split_ne_nil clear divides with ⟨left, right⟩
  exact ⟨left, right, keeps_split clear divides⟩

theorem match_first_leftmost_each_way :
    (∃ op place, IsFirst (OccursSpaced "a<b  lIKE c LIKE 'd=e'".toList) op ∧
      IsLeftmost (SpacedAt op "a<b  lIKE c LIKE 'd=e'".toList) place ∧
        matchOperator? "a<b  lIKE c LIKE 'd=e'".toList = some (place.split op)) ∧
    (∃ op place, IsFirst (OccursCompact "a> b=c<=d".toList) op ∧
      IsLeftmost (CompactAt op "a> b=c<=d".toList) place ∧
        matchOperator? "a> b=c<=d".toList = some (place.split op)) ∧
    matchOperator? "a =>b".toList = none := by
  have unspaced (fragment : Text) (none : ∀ op ∈ Operator.priority,
      (spacedMatch? fragment op).isSome = false) : ¬ ∃ op, OccursSpaced fragment op := by
    rintro ⟨op, occurs⟩
    have matched := isSome_spacedMatch?_iff.2 occurs
    rw [none op (Operator.mem_priority op)] at matched
    contradiction
  have clear : ClearEnds isBlank "a<b  lIKE c LIKE 'd=e'".toList ∧
      ClearEnds isBlank "a> b=c<=d".toList ∧ ClearEnds isBlank "a =>b".toList := by
    refine ⟨⟨?_, ?_⟩, ⟨?_, ?_⟩, ?_, ?_⟩ <;> rintro c ⟨⟩ <;> decide
  refine ⟨(match_first_leftmost clear.1).1 ⟨.like, ?_⟩,
    (match_first_leftmost clear.2.1).2.1 (unspaced _ (by decide +kernel)) ⟨.le, ?_⟩,
    (match_first_leftmost clear.2.2).2.2.1 (unspaced _ (by decide +kernel)) ?_⟩
  · exact isSome_spacedMatch?_iff.1 (by decide +kernel)
  · exact isSome_compactMatch?_iff.1 (by decide +kernel)
  · rintro ⟨op, occurs⟩
    have matched := isSome_compactMatch?_iff.2 occurs
    revert matched
    cases op <;> decide +kernel

end Kept

end QueryConditions
