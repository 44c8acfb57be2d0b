import QueryConditions.Proofs.Text.Stops
import QueryConditions.Proofs.Text.Trim

/-!
Excerpts of a text. An excerpt never ends within a word, so a word that is read at its end is
a word of the text as well. What trimming and stripping quotes leave is an excerpt.
-/

namespace QueryConditions

variable {s t part : Text}

def IsExcerpt (part s : Text) : Prop :=
  ∃ left right, s = left ++ (part ++ right) ∧ wordEnds right = true

theorem wordEnds_append (first : wordEnds s = true) (second : wordEnds t = true) :
    wordEnds (s ++ t) = true := by
  cases s with
  | nil => exact second
  | cons c s => exact first

theorem IsExcerpt.trans (inner : IsExcerpt part s) (outer : IsExcerpt s t) : IsExcerpt part t := by
  obtain ⟨left, right, rfl, boundary⟩ := inner
  obtain ⟨before, after, rfl, boundary'⟩ := outer
  exact ⟨before ++ left, right ++ after, by simp, wordEnds_append boundary boundary'⟩

theorem IsExcerpt.of_suffix (suffix : part <:+ s) : IsExcerpt part s := by
  obtain ⟨left, rfl⟩ := suffix
  exact ⟨left, [], by simp, rfl⟩

theorem wordEnds_of_all {p : Char → Bool} (wordless : ∀ c, p c = true → isWord c = false)
    (all : s.all p = true) : wordEnds s = true := by
  cases s with
  | nil => rfl
  | cons c s =>
      simp only [List.all_cons, Bool.and_eq_true] at all
      simp [wordEnds, wordless c all.1]

/-- What is left of a text when it is stripped of characters that belong to no word. -/
theorem excerpt_strip {p : Char → Bool} (wordless : ∀ c, p c = true → isWord c = false)
    (s : Text) : IsExcerpt (strip p s) s := by
  obtain ⟨left, right, _, stripped, between⟩ := strip_between p s
  exact ⟨left, right, between, wordEnds_of_all wordless stripped⟩

theorem excerpt_trim (s : Text) : IsExcerpt (Text.trim s) s := by
  rw [trim_eq_strip]
  exact excerpt_strip (fun _ => isWord_of_isBlank) s

theorem trimEnd_append (s : Text) :
    ∃ blanks, s = Text.trimEnd s ++ blanks ∧ wordEnds blanks = true := by
  have blanks : (s.rtakeWhile isBlank).all isBlank = true :=
    List.all_eq_true.2 fun c member => List.mem_rtakeWhile_imp member
  exact ⟨s.rtakeWhile isBlank, List.rdropWhile_append_rtakeWhile.symm,
    wordEnds_of_all (fun _ => isWord_of_isBlank) blanks⟩

theorem excerpt_trimEnd (s : Text) : IsExcerpt (Text.trimEnd s) s := by
  rcases trimEnd_append s with ⟨blanks, whole, boundary⟩
  exact ⟨[], blanks, whole, boundary⟩

theorem isWord_of_isQuote {c : Char} (quote : isQuote c = true) : isWord c = false := by
  simp only [isQuote, Bool.or_eq_true, beq_iff_eq] at quote
  rcases quote with rfl | rfl <;> decide

theorem excerpt_stripQuotes (s : Text) : IsExcerpt (stripQuotes s) s := by
  rw [stripQuotes_eq_strip]
  exact (excerpt_strip (fun _ => isWord_of_isQuote) _).trans (excerpt_trim s)

end QueryConditions
