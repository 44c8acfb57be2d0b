import Mathlib.Data.List.Infix
import QueryConditions.Proofs.Condition.Quoted
import QueryConditions.Proofs.Condition.SignRuns
import QueryConditions.Proofs.Text.Bytes
import QueryConditions.Proofs.Text.Words

/-!
Two ways to read the spelling of an operator. One makes all letters capitals and puts one blank
between the words, and looks the result up. The other goes along the text and compares letters
without their case. On ASCII they read the same spellings as the same operators. An operator
without a value is therefore found behind a column in whatever spelling it has: at each blank of
the spelling any operator that is tried before it differs in a letter from what stands there.
-/

namespace QueryConditions

variable {op : Operator} {keyword other word s gap column : Text}
  {keywords others row : List Text} {c : Char}

section Capitals

theorem foldCase_capital (ascii : IsAscii c) :
    foldCase (Operator.capital c) = foldCase c := by
  apply of_ascii_table _ ascii
  decide

theorem capital_foldCase (ascii : IsAscii c) :
    Operator.capital (foldCase c) = Operator.capital c := by
  apply of_ascii_table _ ascii
  decide

theorem isBlank_capital (ascii : IsAscii c) : isBlank (Operator.capital c) = isBlank c := by
  apply of_ascii_table _ ascii
  decide

def InCapitals (keyword : Text) : Prop := ∀ c ∈ keyword, IsAscii c ∧ Operator.capital c = c

instance (keyword : Text) : Decidable (InCapitals keyword) := List.decidableBAll _ keyword

theorem inCapitals_parts (op : Operator) : ∀ keyword ∈ op.parts, InCapitals keyword := by
  cases op <;> decide

theorem map_capital_eq_iff (capitals : InCapitals keyword) (ascii : ∀ c ∈ word, IsAscii c) :
    word.map Operator.capital = keyword ↔ Spells keyword word := by
  constructor
  · rintro rfl
    rw [Spells, List.map_map]
    exact List.map_congr_left fun c member => (foldCase_capital (ascii c member)).symm
  · intro spells
    calc word.map Operator.capital
        = (word.map foldCase).map Operator.capital := by
          rw [List.map_map]
          exact List.map_congr_left fun c member => (capital_foldCase (ascii c member)).symm
      _ = (keyword.map foldCase).map Operator.capital := by rw [spells]
      _ = keyword.map id := by
          rw [List.map_map]
          exact List.map_congr_left fun c member =>
            (capital_foldCase (capitals c member).1).trans (capitals c member).2
      _ = keyword := List.map_id keyword

theorem map_map_capital_eq_iff (capitals : ∀ keyword ∈ keywords, InCapitals keyword)
    (ascii : ∀ word ∈ row, ∀ c ∈ word, IsAscii c) :
    row.map (·.map Operator.capital) = keywords ↔ List.Forall₂ Spells keywords row := by
  induction keywords generalizing row with
  | nil => rw [List.map_eq_nil_iff, List.forall₂_nil_left_iff]
  | cons keyword keywords ih =>
      cases row with
      | nil => simp
      | cons word row =>
          have first := map_capital_eq_iff (capitals keyword List.mem_cons_self)
            (ascii word List.mem_cons_self)
          have later := ih
            (fun other member => capitals other (List.mem_cons_of_mem keyword member))
            (fun other member => ascii other (List.mem_cons_of_mem word member))
          rw [List.map_cons, List.cons.injEq, first, later, List.forall₂_cons]

end Capitals

section LookUp

theorem ofToken?_eq_some_iff {token : Text} :
    Operator.ofToken? token = some op ↔ token = op.token := by
  constructor
  · intro found
    have same := List.find?_some found
    exact (of_decide_eq_true same).symm
  · rintro rfl
    exact Operator.ofToken?_token op

/-- A row of words that makes the token of an operator is the row of its words. -/
theorem intercalate_eq_token_iff (spaceless : ∀ word ∈ row, ' ' ∉ word) :
    [' '].intercalate row = op.token ↔ row = op.parts := by
  have parts_spaceless : ∀ word ∈ op.parts, ' ' ∉ word := by cases op <;> decide
  constructor
  · intro same
    have some_word : row ≠ [] := by
      rintro rfl
      exact Operator.token_ne_nil op same.symm
    have cut := congrArg (List.splitOn ' ') same
    rwa [List.splitOn_intercalate ' ' spaceless some_word, Operator.token,
      List.splitOn_intercalate ' ' parts_spaceless (parts_ne_nil op)] at cut
  · rintro rfl
    rfl

theorem parse_eq_ok_iff_ofSpelling? :
    Operator.parse s = .ok op ↔ Operator.ofSpelling? s = some op := by
  unfold Operator.parse
  cases Operator.ofSpelling? s <;> simp

theorem parse_eq_ok_iff (ascii : ∀ c ∈ s, IsAscii c) :
    Operator.parse s = .ok op ↔ SpellsAll op.parts (Text.trim s) := by
  have ascii_words : ∀ word ∈ Text.words s, ∀ c ∈ word, IsAscii c := fun word member c inside =>
    ascii c (mem_of_mem_words member inside).1
  have spaceless : ∀ word ∈ (Text.words s).map (·.map Operator.capital), ' ' ∉ word := by
    rintro _ made blank
    rcases List.mem_map.1 made with ⟨word, member, rfl⟩
    rcases List.mem_map.1 blank with ⟨c, inside, same⟩
    have kept := isBlank_capital (ascii_words word member c inside)
    rw [same, (mem_of_mem_words member inside).2] at kept
    contradiction
  rw [parse_eq_ok_iff_ofSpelling?, Operator.ofSpelling?, ofToken?_eq_some_iff,
    intercalate_eq_token_iff spaceless, map_map_capital_eq_iff (inCapitals_parts op) ascii_words,
    spellsAll_trim_iff (writable_parts op) (parts_ne_nil op)]

end LookUp

section Reading

theorem keywords?_eq_some_nil_iff :
    keywords? op.parts s = some [] ↔ SpellsAll op.parts s := by
  rw [keywords?_eq_some_iff (writable_parts op) (parts_ne_nil op)]
  constructor
  · rintro ⟨spelling, spells, rfl⟩
    rwa [List.append_nil]
  · intro spells
    exact ⟨s, spells, (List.append_nil s).symm⟩

/-- Signs have no letter case, so a symbol is read between blanks as it is read without. -/
theorem keyword?_eq_symbol? {symbol : Text} (signs : symbol.all isSign = true) (s : Text) :
    keyword? symbol s = symbol? symbol s := by
  refine Option.ext fun rest => ?_
  rw [keyword?_eq_some_iff, symbol?_eq_some_iff]
  constructor
  · rintro ⟨word, spells, whole⟩
    rwa [eq_of_spells_signs signs spells] at whole
  · intro whole
    exact ⟨symbol, rfl, whole⟩

theorem symbol?_eq_some_nil_iff (symbolic : op.isSymbolic = true) :
    symbol? op.token s = some [] ↔ keywords? op.parts s = some [] := by
  rw [parts_of_symbolic symbolic, keywords?, keyword?_eq_symbol? (token_signs symbolic)]

end Reading

section Clashes

def Clash (keyword other : Text) : Prop :=
  ¬ keyword.map foldCase <+: other.map foldCase ∧ ¬ other.map foldCase <+: keyword.map foldCase

instance (keyword other : Text) : Decidable (Clash keyword other) :=
  inferInstanceAs (Decidable (¬ _ ∧ ¬ _))

def RowsClash : List Text → List Text → Prop
  | keyword :: keywords, other :: others =>
      Clash keyword other ∨ Spells keyword other ∧ RowsClash keywords others
  | _, _ => False

instance decidableRowsClash : (keywords others : List Text) → Decidable (RowsClash keywords others)
  | [], _ => isFalse id
  | _ :: _, [] => isFalse id
  | keyword :: keywords, other :: others =>
      have := decidableRowsClash keywords others
      inferInstanceAs (Decidable (Clash keyword other ∨ Spells keyword other ∧
        RowsClash keywords others))

theorem keyword?_of_clash (clash : Clash keyword other) (spells : Spells other word)
    (rest : Text) : keyword? keyword (word ++ rest) = none := by
  cases read : keyword? keyword (word ++ rest) with
  | none => rfl
  | some after =>
      rcases keyword?_eq_some_iff.1 read with ⟨word', spells', whole⟩
      -- One of the two words begins with the other one.
      rcases List.prefix_or_prefix_of_prefix (List.prefix_append word rest)
        (whole ▸ List.prefix_append word' after) with shorter | shorter
      · have folded := shorter.map foldCase
        rw [spells, spells'] at folded
        exact absurd folded clash.2
      · have folded := shorter.map foldCase
        rw [spells, spells'] at folded
        exact absurd folded clash.1

theorem keywords?_of_first (unread : keyword? keyword s = none) :
    keywords? (keyword :: keywords) s = none := by
  cases keywords with
  | nil => exact unread
  | cons second others => simp [keywords?, unread]

theorem keywords?_of_rowsClash (writable : Writable others) (clash : RowsClash keywords others)
    (spells : SpellsAll others s) : keywords? keywords s = none := by
  induction spells generalizing keywords with
  | @last other word spells =>
      cases keywords with
      | nil => exact clash.elim
      | cons keyword keywords =>
          rcases clash with clash | ⟨_, later⟩
          · have unread := keyword?_of_clash clash spells []
            rw [List.append_nil] at unread
            exact keywords?_of_first unread
          · cases keywords <;> exact later.elim
  | @more other second word gap rest others spells spacing row ih =>
      have writable' : Writable (second :: others) := fun keyword member =>
        writable keyword (List.mem_cons_of_mem other member)
      cases keywords with
      | nil => exact clash.elim
      | cons keyword keywords =>
          rcases clash with clash | ⟨same, later⟩
          · exact keywords?_of_first (keyword?_of_clash clash spells (gap ++ rest))
          · cases keywords with
            | nil => exact later.elim
            | cons next keywords =>
                have first : keyword? keyword (word ++ (gap ++ rest)) = some (gap ++ rest) :=
                  keyword?_eq_some_iff.2 ⟨word, spells.trans same, rfl⟩
                rcases head?_of_spellsAll writable' row with ⟨c, tail, rfl, solid⟩
                have blanks : blanks? (gap ++ c :: tail) = some (c :: tail) :=
                  blanks?_eq_some_iff.2 ⟨⟨gap, spacing, rfl⟩, by simpa using solid⟩
                simp [keywords?, first, blanks, ih writable' later]

theorem absent_gap {m : Marker} (blanks : gap.all isBlank = true)
    (solid : ∀ c ∈ s.head?, isBlank c = false) (unread : m.reads s = false) :
    m.Absent gap s := by
  induction gap with
  | nil => trivial
  | cons c gap ih =>
      rw [List.all_cons, Bool.and_eq_true] at blanks
      refine ⟨?_, ih blanks.2⟩
      rw [List.cons_append, Marker.begins_blank blanks.1, skipBlanks_append blanks.2 solid, unread]

theorem absent_gap_append {m : Marker} (blanks : gap.all isBlank = true)
    (some_letter : keyword ≠ []) (solid : keyword.all (!isBlank ·) = true)
    (spells : Spells keyword word) (unread : m.reads (word ++ s) = false) :
    m.Absent (gap ++ word) s := by
  rcases head?_of_spells some_letter solid spells with ⟨c, tail, rfl, first⟩
  have before : m.Absent gap (c :: tail ++ s) :=
    absent_gap blanks (by simpa using first) unread
  exact Marker.absent_append.2 ⟨before, Marker.absent_of_solid (solid_of_spells solid spells) s⟩

theorem reads_of_rowsClash (writable : Writable row) (spells : SpellsAll row s)
    (clash : RowsClash op.parts row) : (operatorMarker op).reads s = false := by
  rw [reads_operatorMarker, keywords?_of_rowsClash writable clash spells]
  rfl

/-- An operator is not read in the spelling of words that it clashes with, at whichever of them
it is tried. -/
theorem absent_of_spellsAll (writable : Writable row) (spells : SpellsAll row s)
    (clashes : ∀ words ∈ row.tails, words ≠ [] → RowsClash op.parts words)
    (spacing : IsSpacing gap) : (operatorMarker op).Absent (gap ++ s) [] := by
  induction spells generalizing gap with
  | @last keyword word spells =>
      rcases writable keyword List.mem_cons_self with ⟨some_letter, solid⟩
      have unread := reads_of_rowsClash writable (.last spells)
        (clashes [keyword] (by simp) (List.cons_ne_nil _ _))
      exact absent_gap_append spacing.2 some_letter solid spells (by rwa [List.append_nil])
  | @more keyword second word gap' rest others spells spacing' row ih =>
      rcases writable keyword List.mem_cons_self with ⟨some_letter, solid⟩
      have unread := reads_of_rowsClash writable (.more spells spacing' row)
        (clashes (keyword :: second :: others) (by simp) (List.cons_ne_nil _ _))
      have writable' : Writable (second :: others) := fun other member =>
        writable other (List.mem_cons_of_mem keyword member)
      have clashes' : ∀ words ∈ (second :: others).tails, words ≠ [] →
          RowsClash op.parts words := by
        intro words member
        refine clashes words ?_
        rw [List.tails_cons]
        exact List.mem_cons_of_mem _ member
      -- Not at this word and, by induction, not at a later one.
      have here := absent_gap_append spacing.2 some_letter solid spells unread
      have later := ih writable' clashes' spacing'
      rw [← List.append_assoc]
      exact Marker.absent_append.2 ⟨by rwa [List.append_nil], later⟩

/-- An earlier operator differs from the words of IS NULL and of IS NOT NULL at each of them. -/
theorem clashes_of_earlier {other : Operator} (unary : op.isUnary = true)
    (earlier : other ∈ op.earlier) :
    ∀ words ∈ op.parts.tails, words ≠ [] → RowsClash other.parts words := by
  revert other
  cases op <;> first | contradiction | decide

end Clashes

section Agreement

theorem matchOperator?_of_unary (unary : op.isUnary = true) (spells : SpellsAll op.parts s)
    (clear : ClearEnds isBlank s) (some_char : column ≠ [])
    (solid : column.all (!isBlank ·) = true) :
    matchOperator? (column ++ ' ' :: s) = some ⟨op, column, none⟩ := by
  have spacing : IsSpacing [' '] := ⟨List.cons_ne_nil _ _, rfl⟩
  have own : spacedMatch? (column ++ ' ' :: s) op = some ⟨op, column, none⟩ := by
    have gap : blanks? (' ' :: s) = some s :=
      blanks?_eq_some_iff.2 ⟨⟨[' '], spacing, rfl⟩, clear.1⟩
    have ends : spacedOperand? op [] = some none := by simp [spacedOperand?, unary, wordEnds]
    exact Condition.spacedMatch?_of_solid some_char solid fun before fresh =>
      read?_spaced fresh gap (keywords?_eq_some_nil_iff.2 spells) ends
  refine matchOperator?_of_spacedMatch? own fun other earlier => ?_
  have absent : (operatorMarker other).Absent (' ' :: s) [] :=
    absent_of_spellsAll (writable_parts op) spells (clashes_of_earlier unary earlier) spacing
  have last : ∀ c ∈ (column ++ ' ' :: s).getLast?, isBlank c = false := by
    rcases head?_of_spellsAll (writable_parts op) spells with ⟨c, tail, rfl, _⟩
    have whole : column ++ ' ' :: c :: tail = column ++ [' '] ++ c :: tail := by simp
    rw [whole, List.getLast?_append_of_ne_nil _ (List.cons_ne_nil c tail)]
    exact clear.2
  rcases exists_cons_of_all some_char solid with ⟨c, start, rfl, _, later⟩
  rw [List.cons_append] at last ⊢
  exact (spacedMatch?_eq_none_iff last).2
    (Marker.absent_append.2 ⟨Marker.absent_of_solid later _, absent⟩)

/-- Looked up or read along the text, a spelling in ASCII belongs to the same operator. It is
one operator at most, and one without a value is found with this spelling behind any column. -/
theorem operator_readers_agree {t : Text} (ascii : ∀ c ∈ t, IsAscii c) :
    (∀ op, Operator.parse t = .ok op ↔ keywords? op.parts (Text.trim t) = some []) ∧
    (∀ op : Operator, keywords? op.parts (Text.trim t) = some [] ↔
      SpellsAll op.parts (Text.trim t)) ∧
    (∀ op : Operator, op.isSymbolic = true →
      (Operator.parse t = .ok op ↔ symbol? op.token (Text.trim t) = some [])) ∧
    (∀ op other : Operator, keywords? op.parts (Text.trim t) = some [] →
      keywords? other.parts (Text.trim t) = some [] → op = other) ∧
    ∀ op column, Operator.parse t = .ok op → op.isUnary = true → column ≠ [] →
      column.all (!isBlank ·) = true →
        matchOperator? (column ++ ' ' :: Text.trim t) = some ⟨op, column, none⟩ := by
  have agree (op : Operator) :
      Operator.parse t = .ok op ↔ keywords? op.parts (Text.trim t) = some [] :=
    (parse_eq_ok_iff ascii).trans keywords?_eq_some_nil_iff.symm
  refine ⟨agree, fun op => keywords?_eq_some_nil_iff, ?_, ?_, ?_⟩
  · intro op symbolic
    exact (agree op).trans (symbol?_eq_some_nil_iff symbolic).symm
  · intro op other read read'
    have parsed := (agree op).2 read
    rw [(agree other).2 read'] at parsed
    cases parsed
    rfl
  · intro op column parsed unary some_char solid
    exact matchOperator?_of_unary unary ((parse_eq_ok_iff ascii).1 parsed)
      (clear_strip isBlank t) some_char solid

theorem operator_readers_agree_mixed_case :
    matchOperator? "naïve iS \n NoT null".toList =
        some ⟨.isNotNull, "naïve".toList, none⟩ ∧
      ¬ SpellsAll Operator.isNull.parts (Text.trim " \tiS \n NoT null\r".toList) := by
  have all : " \tiS \n NoT null\r".toList.all (IsAscii ·) = true := by decide
  have agree := operator_readers_agree fun c member =>
    of_decide_eq_true (List.all_eq_true.1 all c member)
  have parsed : Operator.parse " \tiS \n NoT null\r".toList = .ok .isNotNull := by decide +kernel
  refine ⟨?_, fun spells => ?_⟩
  · have trimmed : Text.trim " \tiS \n NoT null\r".toList = "iS \n NoT null".toList := by
      decide +kernel
    have found := agree.2.2.2.2 .isNotNull "naïve".toList parsed rfl (by decide) (by decide +kernel)
    rw [trimmed] at found
    exact found
  · have same := agree.2.2.2.1 _ _ ((agree.1 .isNotNull).1 parsed) ((agree.2.1 .isNull).2 spells)
    contradiction

end Agreement

end QueryConditions
