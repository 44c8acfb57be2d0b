import QueryConditions.Proofs.Text.Excerpts
import QueryConditions.Proofs.Text.Spellings

/-!
Names: the whole words of a text. A text begins with one name only, which ends where no word
goes on; blanks and a name behind them are read apart in one way.
-/

namespace QueryConditions

variable {c : Char} {s t rest name gap : Text}

def IsName (s : Text) : Prop := s ≠ [] ∧ s.all isWord = true

theorem not_mem_of_all {p : Char → Bool} {c : Char} (all : s.all p = true) (other : p c = false) :
    c ∉ s := by
  intro member
  rw [List.all_eq_true.1 all c member] at other
  contradiction

theorem isName_of_spells {keyword word : Text} (isName : IsName keyword)
    (spells : Spells keyword word) : IsName word := by
  refine ⟨?_, ?_⟩
  · rintro rfl
    exact isName.1 (List.map_eq_nil_iff.1 spells.symm)
  · have folded (s : Text) : (s.map foldCase).all isWord = s.all isWord := by
      rw [List.all_map]
      exact congrArg (s.all ·) (funext isWord_foldCase)
    rw [← folded, spells, folded, isName.2]

theorem isName_as : IsName "AS".toList := ⟨by decide, by decide⟩

theorem IsName.solid (isName : IsName name) : name.all (!isBlank ·) = true := by
  apply List.all_eq_true.2
  intro c member
  by_contra blank
  have letter := List.all_eq_true.1 isName.2 c member
  rw [isWord_of_isBlank (by simpa using blank)] at letter
  contradiction

section Ends

theorem takeWhile_of_wordEnds (ends : wordEnds t = true) : t.takeWhile isWord = [] := by
  cases t with
  | nil => rfl
  | cons c t => simpa [wordEnds] using ends

theorem wordEnds_dropWhile (s : Text) : wordEnds (s.dropWhile isWord) = true := by
  cases shape : s.dropWhile isWord with
  | nil => rfl
  | cons c t =>
      have stopped := head?_dropWhile isWord s c (by rw [shape]; rfl)
      simp [wordEnds, stopped]

theorem wordEnds_blanks_append (blanks : gap.all isBlank = true) (ends : wordEnds t = true) :
    wordEnds (gap ++ t) = true :=
  wordEnds_append (wordEnds_of_all (fun _ => isWord_of_isBlank) blanks) ends

theorem wordEnds_cons (wordless : isWord c = false) (t : Text) : wordEnds (c :: t) = true := by
  simp [wordEnds, wordless]

theorem IsSpacing.wordEnds (spacing : IsSpacing gap) (t : Text) : wordEnds (gap ++ t) = true := by
  rcases exists_cons_of_all spacing.1 spacing.2 with ⟨c, gap, rfl, blank, _⟩
  exact wordEnds_cons (isWord_of_isBlank blank) _

end Ends

section Beginnings

theorem isName_of_word? (read : word? s = some (name, rest)) : IsName name := by
  cases s with
  | nil => simp [word?] at read
  | cons c s =>
      simp only [word?] at read
      split at read
      · next first =>
          cases read
          refine ⟨List.cons_ne_nil _ _, ?_⟩
          simp [first, List.all_takeWhile]
      · simp at read

theorem word?_eq_none_iff : word? (s.dropWhile (!isWord ·)) = none ↔ s.all (!isWord ·) = true := by
  induction s with
  | nil => simp [word?]
  | cons c s ih =>
      by_cases inside : isWord c = true
      · simp [word?, inside]
      · simpa [inside] using ih

theorem word?_append_name (isName : IsName name) (t : Text) :
    word? (name ++ t) = some (name ++ t.takeWhile isWord, t.dropWhile isWord) := by
  rcases exists_cons_of_all isName.1 isName.2 with ⟨c, name, rfl, letter, letters⟩
  have tail : ∀ d ∈ name, isWord d = true := List.all_eq_true.1 letters
  simp [word?, letter, List.takeWhile_append_of_pos tail, List.dropWhile_append_of_pos tail]

theorem word?_eq_some_iff : word? s = some (name, rest) ↔
    IsName name ∧ wordEnds rest = true ∧ s = name ++ rest := by
  constructor
  · intro read
    have isName := isName_of_word? read
    have whole := word?_append read
    subst whole
    rw [word?_append_name isName, Option.some.injEq, Prod.mk.injEq] at read
    exact ⟨isName, read.2 ▸ wordEnds_dropWhile rest, rfl⟩
  · rintro ⟨isName, ends, rfl⟩
    have whole := List.takeWhile_append_dropWhile (p := isWord) (l := rest)
    rw [takeWhile_of_wordEnds ends, List.nil_append] at whole
    rw [word?_append_name isName, takeWhile_of_wordEnds ends, whole, List.append_nil]

/-- A text begins with one word only. -/
theorem name_append_inj {name' t' : Text} (isName : IsName name) (isName' : IsName name')
    (ends : wordEnds t = true) (ends' : wordEnds t' = true) (same : name ++ t = name' ++ t') :
    name = name' ∧ t = t' := by
  have first := word?_eq_some_iff.2 ⟨isName, ends, same.symm⟩
  rw [word?_eq_some_iff.2 ⟨isName', ends', rfl⟩] at first
  have words : name' = name := (Prod.mk.inj (Option.some.inj first)).1
  subst words
  exact ⟨rfl, List.append_cancel_left same⟩

theorem blanks?_append_name (spacing : IsSpacing gap) (isName : IsName name) (t : Text) :
    blanks? (gap ++ (name ++ t)) = some (name ++ t) :=
  blanks?_eq_some_iff.2 ⟨⟨gap, spacing, rfl⟩, head?_append_of_all isName.1 isName.solid t⟩

end Beginnings

end QueryConditions
