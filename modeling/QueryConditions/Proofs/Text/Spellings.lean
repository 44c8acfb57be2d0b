import QueryConditions.Proofs.Text.Stops
import QueryConditions.Proofs.Text.Trim

/-!
Spellings of keywords: any letter case, and any blanks between the words of a row. What is
read as keywords is a spelling of them, and a spelling is read whatever follows it.
-/

namespace QueryConditions

variable {c : Char} {keyword word gap s rest spelling : Text} {keywords : List Text}

def IsSpacing (s : Text) : Prop := s ≠ [] ∧ s.all isBlank = true

def Spells (keyword word : Text) : Prop := word.map foldCase = keyword.map foldCase

inductive SpellsAll : List Text → Text → Prop
  | last {keyword word : Text} : Spells keyword word → SpellsAll [keyword] word
  | more {keyword second word gap rest : Text} {others : List Text} : Spells keyword word →
      IsSpacing gap → SpellsAll (second :: others) rest →
        SpellsAll (keyword :: second :: others) (word ++ (gap ++ rest))

instance (s : Text) : Decidable (IsSpacing s) :=
  inferInstanceAs (Decidable (s ≠ [] ∧ s.all isBlank = true))

instance (keyword word : Text) : Decidable (Spells keyword word) :=
  inferInstanceAs (Decidable (word.map foldCase = keyword.map foldCase))

theorem skipBlanks_append (blanks : gap.all isBlank = true)
    (solid : ∀ c ∈ rest.head?, isBlank c = false) : Text.skipBlanks (gap ++ rest) = rest := by
  rw [Text.skipBlanks, List.dropWhile_append_of_pos (List.all_eq_true.1 blanks)]
  exact dropWhile_of_clear solid

theorem blanks?_eq_some_iff : blanks? s = some rest ↔
    (∃ gap, IsSpacing gap ∧ s = gap ++ rest) ∧ ∀ c ∈ rest.head?, isBlank c = false := by
  constructor
  · intro read
    cases s with
    | nil => simp [blanks?] at read
    | cons c s =>
        simp only [blanks?] at read
        split at read
        · next blank =>
            cases read
            refine ⟨⟨c :: s.takeWhile isBlank, ⟨List.cons_ne_nil _ _, ?_⟩, ?_⟩, ?_⟩
            · simp [blank, List.all_takeWhile]
            · simp [Text.skipBlanks]
            · exact head?_dropWhile isBlank s
        · simp at read
  · rintro ⟨⟨gap, ⟨some_char, blanks⟩, rfl⟩, solid⟩
    rcases exists_cons_of_all some_char blanks with ⟨c, gap, rfl, blank, blanks⟩
    simp [blanks?, blank, skipBlanks_append blanks solid]

theorem keyword?_eq_some_iff :
    keyword? keyword s = some rest ↔ ∃ word, Spells keyword word ∧ s = word ++ rest := by
  induction keyword generalizing s with
  | nil => simp [keyword?, Spells, eq_comm]
  | cons letter keyword ih =>
      cases s with
      | nil =>
          refine iff_of_false (by simp [keyword?]) ?_
          rintro ⟨word, spells, empty⟩
          rw [(List.append_eq_nil_iff.1 empty.symm).1] at spells
          simp [Spells] at spells
      | cons c s =>
          simp only [keyword?]
          constructor
          · intro read
            split at read
            · next same =>
                rcases ih.1 read with ⟨word, spells, rfl⟩
                refine ⟨c :: word, ?_, rfl⟩
                rw [Spells, List.map_cons, List.map_cons, same, spells]
            · simp at read
          · rintro ⟨word, spells, whole⟩
            cases word with
            | nil => simp [Spells] at spells
            | cons d word =>
                simp only [Spells, List.map_cons, List.cons.injEq] at spells
                simp only [List.cons_append, List.cons.injEq] at whole
                rcases whole with ⟨rfl, rfl⟩
                rw [if_pos spells.1.symm]
                exact ih.2 ⟨word, spells.2, rfl⟩

def Writable (keywords : List Text) : Prop :=
  ∀ keyword ∈ keywords, keyword ≠ [] ∧ keyword.all (!isBlank ·) = true

instance (keywords : List Text) : Decidable (Writable keywords) :=
  inferInstanceAs (Decidable (∀ keyword ∈ keywords, keyword ≠ [] ∧ keyword.all (!isBlank ·) = true))

theorem head?_of_spells (some_letter : keyword ≠ []) (solid : keyword.all (!isBlank ·) = true)
    (spells : Spells keyword word) : ∃ c tail, word = c :: tail ∧ isBlank c = false := by
  rcases exists_cons_of_all some_letter solid with ⟨letter, keyword, rfl, solid, _⟩
  rw [Bool.not_eq_true'] at solid
  cases word with
  | nil => simp [Spells] at spells
  | cons c word =>
      simp only [Spells, List.map_cons, List.cons.injEq] at spells
      refine ⟨c, word, rfl, ?_⟩
      rw [← isBlank_foldCase, spells.1, isBlank_foldCase, solid]

theorem head?_of_spellsAll (writable : Writable keywords) (spells : SpellsAll keywords spelling) :
    ∃ c tail, spelling = c :: tail ∧ isBlank c = false := by
  cases spells with
  | @last keyword _ word =>
      rcases writable keyword List.mem_cons_self with ⟨some_letter, solid⟩
      exact head?_of_spells some_letter solid word
  | @more keyword _ _ gap rest _ word =>
      rcases writable keyword List.mem_cons_self with ⟨some_letter, solid⟩
      rcases head?_of_spells some_letter solid word with ⟨c, tail, rfl, solid⟩
      exact ⟨c, tail ++ (gap ++ rest), rfl, solid⟩

theorem keywords?_eq_some_iff (writable : Writable keywords) (some_word : keywords ≠ []) :
    keywords? keywords s = some rest ↔
      ∃ spelling, SpellsAll keywords spelling ∧ s = spelling ++ rest := by
  induction keywords generalizing s with
  | nil => exact absurd rfl some_word
  | cons keyword keywords ih =>
      cases keywords with
      | nil =>
          rw [keywords?, keyword?_eq_some_iff]
          constructor
          · rintro ⟨word, spells, whole⟩
            exact ⟨word, .last spells, whole⟩
          · rintro ⟨word, spells, whole⟩
            cases spells with
            | last spells => exact ⟨word, spells, whole⟩
      | cons second others =>
          have later : Writable (second :: others) := fun other member =>
            writable other (List.mem_cons_of_mem keyword member)
          have reads := fun s => @ih s later (List.cons_ne_nil second others)
          simp only [keywords?, Option.bind_eq_bind, Option.bind_eq_some_iff,
            keyword?_eq_some_iff, blanks?_eq_some_iff, reads]
          constructor
          · rintro ⟨_, ⟨word, spells, rfl⟩, _, ⟨⟨gap, spacing, rfl⟩, _⟩, row, all, rfl⟩
            exact ⟨_, .more spells spacing all, by simp⟩
          · rintro ⟨_, spells, rfl⟩
            cases spells with
            | @more _ _ word gap row _ spells spacing all =>
                -- The next word begins where the blanks end, since it begins with a letter.
                rcases head?_of_spellsAll later all with ⟨c, tail, rfl, solid⟩
                refine ⟨_, ⟨word, spells, by simp⟩, _, ⟨⟨gap, spacing, rfl⟩, ?_⟩, _, all, rfl⟩
                simpa using solid

end QueryConditions
