import Mathlib.Data.List.Forall2
import QueryConditions.Proofs.Text.Spellings

/-!
The words of a text. A text has the words that it has before a blank and those behind it, and
all that is known of words follows from this. Without blanks at its ends a text is its words with
blanks between them, so it is a spelling of keywords if each of its words is one.
-/

namespace QueryConditions

variable {c : Char} {s t gap word : Text} {keywords : List Text}

theorem words_of_skipBlanks_nil (none : Text.skipBlanks s = []) : Text.words s = [] := by
  rw [Text.words]
  split
  · rfl
  · simp_all

theorem words_of_skipBlanks_cons (shape : Text.skipBlanks s = c :: t) :
    Text.words s = (c :: t.takeWhile (!isBlank ·)) :: Text.words (t.dropWhile (!isBlank ·)) := by
  rw [Text.words]
  split
  · simp_all
  · simp_all

theorem words_nil : Text.words [] = [] := words_of_skipBlanks_nil rfl

theorem words_skipBlanks (s : Text) : Text.words (Text.skipBlanks s) = Text.words s := by
  have again : Text.skipBlanks (Text.skipBlanks s) = Text.skipBlanks s :=
    dropWhile_of_clear (head?_dropWhile isBlank s)
  cases shape : Text.skipBlanks s with
  | nil => rw [words_of_skipBlanks_nil shape, words_nil]
  | cons c t =>
      rw [shape] at again
      rw [words_of_skipBlanks_cons shape, words_of_skipBlanks_cons again]

theorem words_append_blank (blank : isBlank c = true) (s t : Text) :
    Text.words (s ++ c :: t) = Text.words s ++ Text.words t := by
  have stop : (!isBlank c) = false := by simp [blank]
  fun_induction Text.words s with
  | case1 s none =>
      have skipped : Text.skipBlanks (s ++ c :: t) = Text.skipBlanks t := by
        have blanks : (s.dropWhile isBlank).isEmpty = true := List.isEmpty_iff.2 none
        rw [Text.skipBlanks, List.dropWhile_append, if_pos blanks,
          List.dropWhile_cons_of_pos blank]
        rfl
      rw [← words_skipBlanks (s ++ c :: t), skipped, words_skipBlanks]
      rfl
  | case2 s first rest shape ih =>
      have skipped : Text.skipBlanks (s ++ c :: t) = first :: (rest ++ c :: t) := by
        have left : s.dropWhile isBlank = first :: rest := shape
        rw [Text.skipBlanks, List.dropWhile_append, left]
        rfl
      rw [words_of_skipBlanks_cons skipped, takeWhile_append_stop stop,
        dropWhile_append_stop stop, ih, List.cons_append]

theorem words_blanks_append (blanks : gap.all isBlank = true) (t : Text) :
    Text.words (gap ++ t) = Text.words t := by
  induction gap with
  | nil => rfl
  | cons c gap ih =>
      rw [List.all_cons, Bool.and_eq_true] at blanks
      have first := words_append_blank blanks.1 [] (gap ++ t)
      rw [words_nil, ih blanks.2] at first
      exact first

theorem words_append_gap (spacing : IsSpacing gap) (s t : Text) :
    Text.words (s ++ (gap ++ t)) = Text.words s ++ Text.words t := by
  rcases exists_cons_of_all spacing.1 spacing.2 with ⟨c, gap, rfl, blank, blanks⟩
  rw [List.cons_append, words_append_blank blank, words_blanks_append blanks]

theorem words_append_blanks (blanks : gap.all isBlank = true) (s : Text) :
    Text.words (s ++ gap) = Text.words s := by
  by_cases empty : gap = []
  · rw [empty, List.append_nil]
  · have split := words_append_gap ⟨empty, blanks⟩ s []
    rwa [List.append_nil, words_nil, List.append_nil] at split

theorem words_trim (s : Text) : Text.words (Text.trim s) = Text.words s := by
  rcases strip_between isBlank s with ⟨left, right, blanks, blanks', whole⟩
  rw [← trim_eq_strip] at whole
  conv_rhs => rw [whole]
  rw [words_blanks_append blanks, words_append_blanks blanks']

theorem mem_of_mem_words (member : word ∈ Text.words s) (inside : c ∈ word) :
    c ∈ s ∧ isBlank c = false := by
  fun_induction Text.words s with
  | case1 s none => simp at member
  | case2 s first rest shape ih =>
      have suffix := skipBlanks_suffix s
      rw [shape] at suffix
      rcases List.mem_cons.1 member with rfl | later
      · rcases List.mem_cons.1 inside with rfl | inside
        · exact ⟨suffix.subset List.mem_cons_self,
            head?_dropWhile isBlank s c (by rw [← Text.skipBlanks, shape]; rfl)⟩
        · have solid := List.mem_takeWhile_imp inside
          have kept := (List.takeWhile_prefix _).subset inside
          exact ⟨suffix.subset (List.mem_cons_of_mem first kept), by simpa using solid⟩
      · rcases ih later with ⟨kept, solid⟩
        have kept := (List.dropWhile_suffix _).subset kept
        exact ⟨suffix.subset (List.mem_cons_of_mem first kept), solid⟩

theorem words_of_solid (some_char : word ≠ []) (solid : word.all (!isBlank ·) = true) :
    Text.words word = [word] := by
  rcases exists_cons_of_all some_char solid with ⟨c, tail, rfl, first, later⟩
  have shape : Text.skipBlanks (c :: tail) = c :: tail :=
    List.dropWhile_cons_of_neg (by simpa using first)
  have taken : tail.takeWhile (!isBlank ·) = tail :=
    List.takeWhile_eq_self_iff.2 (List.all_eq_true.1 later)
  have left : tail.dropWhile (!isBlank ·) = [] :=
    List.dropWhile_eq_nil_iff.2 (List.all_eq_true.1 later)
  rw [words_of_skipBlanks_cons shape, taken, left, words_nil]

theorem solid_of_spells {keyword : Text} (solid : keyword.all (!isBlank ·) = true)
    (spells : Spells keyword word) : word.all (!isBlank ·) = true := by
  have folded (s : Text) : (s.map foldCase).all (!isBlank ·) = s.all (!isBlank ·) := by
    simp [List.all_map, Function.comp_def, isBlank_foldCase]
  rw [← folded, spells, folded, solid]

theorem words_of_spells {keyword : Text} (some_letter : keyword ≠ [])
    (solid : keyword.all (!isBlank ·) = true) (spells : Spells keyword word) :
    Text.words word = [word] := by
  apply words_of_solid _ (solid_of_spells solid spells)
  rintro rfl
  exact some_letter (List.map_eq_nil_iff.1 spells.symm)

theorem forall₂_words_of_spellsAll (writable : Writable keywords)
    (spells : SpellsAll keywords s) : List.Forall₂ Spells keywords (Text.words s) := by
  induction spells with
  | last spells =>
      rcases writable _ List.mem_cons_self with ⟨some_letter, solid⟩
      rw [words_of_spells some_letter solid spells]
      exact .cons spells .nil
  | more spells spacing _ ih =>
      rcases writable _ List.mem_cons_self with ⟨some_letter, solid⟩
      rw [words_append_gap spacing, words_of_spells some_letter solid spells]
      exact .cons spells (ih fun other member => writable other (List.mem_cons_of_mem _ member))

/-- A text without blanks at its ends is its first word, or its first word, blanks, and a text
that has none at its ends either. -/
theorem words_cases (clear : ClearEnds isBlank s) (some_char : s ≠ []) :
    Text.words s = [s] ∨ ∃ word gap rest, s = word ++ (gap ++ rest) ∧ IsSpacing gap ∧
      rest ≠ [] ∧ ClearEnds isBlank rest ∧ Text.words s = word :: Text.words rest := by
  cases found : s.find? isBlank with
  | none =>
      have solid : s.all (!isBlank ·) = true := by simpa using found
      exact .inl (words_of_solid some_char solid)
  | some d =>
      rcases List.find?_eq_some_iff_append.1 found with ⟨blank, word, left, rfl, solid⟩
      have parts : left = left.takeWhile isBlank ++ Text.skipBlanks left :=
        List.takeWhile_append_dropWhile.symm
      have spacing : IsSpacing (d :: left.takeWhile isBlank) :=
        ⟨List.cons_ne_nil _ _, by simp [blank, List.all_takeWhile]⟩
      have whole : word ++ d :: left =
          word ++ (d :: left.takeWhile isBlank ++ Text.skipBlanks left) := by
        rw [List.cons_append, ← parts]
      have some_word : word ≠ [] := by
        rintro rfl
        rw [clear.1 d rfl] at blank
        contradiction
      refine .inr ⟨word, _, _, whole, spacing, ?_, ⟨head?_dropWhile isBlank left, ?_⟩, ?_⟩
      · -- Otherwise the text would end with the gap.
        intro empty
        rw [empty, List.append_nil] at whole
        have last := List.getLast?_eq_some_getLast spacing.1
        have solid_last := clear.2 ((d :: left.takeWhile isBlank).getLast spacing.1) (by
          rw [whole, List.getLast?_append_of_ne_nil _ spacing.1, last]
          rfl)
        rw [List.all_eq_true.1 spacing.2 _ (List.getLast_mem spacing.1)] at solid_last
        contradiction
      · have suffix : Text.skipBlanks left <:+ word ++ d :: left :=
          (skipBlanks_suffix left).trans ⟨word ++ [d], by simp⟩
        exact fun e last => clear.2 e (getLast?_of_suffix suffix last)
      · rw [whole, words_append_gap spacing, words_of_solid some_word (by simpa using solid)]
        rfl

theorem spellsAll_of_forall₂_words (clear : ClearEnds isBlank s) (some_char : s ≠ [])
    (spells : List.Forall₂ Spells keywords (Text.words s)) : SpellsAll keywords s := by
  induction keywords generalizing s with
  | nil =>
      rcases words_cases clear some_char with one | ⟨_, _, _, _, _, _, _, more⟩
      · rw [one] at spells
        cases spells
      · rw [more] at spells
        cases spells
  | cons keyword keywords ih =>
      rcases words_cases clear some_char with
        one | ⟨word, gap, rest, rfl, spacing, some_rest, clear', more⟩
      · rw [one] at spells
        cases spells with
        | cons first others =>
            cases others
            exact .last first
      · rw [more] at spells
        cases spells with
        | cons first others =>
            have later := ih clear' some_rest others
            -- The row that is spelled behind the gap is not empty.
            cases later with
            | last spells => exact .more first spacing (.last spells)
            | more spells spacing' row => exact .more first spacing (.more spells spacing' row)

theorem spellsAll_trim_iff (writable : Writable keywords) (some_word : keywords ≠ []) :
    SpellsAll keywords (Text.trim s) ↔ List.Forall₂ Spells keywords (Text.words s) := by
  rw [← words_trim]
  constructor
  · exact forall₂_words_of_spellsAll writable
  · intro spells
    have some_char : Text.trim s ≠ [] := by
      intro empty
      rw [empty, words_nil, List.forall₂_nil_right_iff] at spells
      exact some_word spells
    exact spellsAll_of_forall₂_words (clear_strip isBlank s) some_char spells

end QueryConditions
