import Mathlib.Data.List.DropRight
import QueryConditions.Condition.Column

/-!
Cutting characters off both ends of a text: blanks when a text is trimmed, quotes when a
value is read. What is left has no such character at its ends, and then it is left as it is.
-/

namespace QueryConditions

variable {p : Char → Bool} {c : Char} {s t : Text}

def ClearEnds (p : Char → Bool) (s : Text) : Prop :=
  (∀ c ∈ s.head?, p c = false) ∧ ∀ c ∈ s.getLast?, p c = false

def strip (p : Char → Bool) (s : Text) : Text := (s.dropWhile p).rdropWhile p

theorem trim_eq_strip (s : Text) : Text.trim s = strip isBlank s := rfl

theorem stripQuotes_eq_strip (s : Text) : stripQuotes s = strip isQuote (Text.trim s) := rfl

theorem dropWhile_of_clear (clear : ∀ c ∈ s.head?, p c = false) : s.dropWhile p = s := by
  cases s with
  | nil => rfl
  | cons c s => exact List.dropWhile_cons_of_neg (by simpa using clear)

theorem exists_cons_of_all (some_char : s ≠ []) (all : s.all p = true) :
    ∃ c tail, s = c :: tail ∧ p c = true ∧ tail.all p = true := by
  rcases List.exists_cons_of_ne_nil some_char with ⟨c, tail, rfl⟩
  rw [List.all_cons, Bool.and_eq_true] at all
  exact ⟨c, tail, rfl, all⟩

theorem head?_append_of_all (some_char : s ≠ []) (clear : s.all (!p ·) = true) (t : Text) :
    ∀ c ∈ (s ++ t).head?, p c = false := by
  rcases exists_cons_of_all some_char clear with ⟨d, tail, rfl, first, _⟩
  rintro c ⟨⟩
  simpa using first

theorem rdropWhile_of_clear (clear : ∀ c ∈ s.getLast?, p c = false) : s.rdropWhile p = s := by
  refine List.rdropWhile_eq_self_iff.2 fun some_char => ?_
  have last := clear (s.getLast some_char) (List.getLast?_eq_some_getLast some_char)
  simp [last]

theorem clearEnds_of_all (clear : s.all (!p ·) = true) : ClearEnds p s := by
  rw [List.all_eq_true] at clear
  constructor
  · exact fun c first => by simpa using clear c (List.mem_of_mem_head? first)
  · exact fun c last => by simpa using clear c (List.mem_of_mem_getLast? last)

theorem strip_of_clear (clear : ClearEnds p s) : strip p s = s := by
  rw [strip, dropWhile_of_clear clear.1, rdropWhile_of_clear clear.2]

theorem rdropWhile_of_suffix (p : Char → Bool) (suffix : s <:+ t) :
    s.rdropWhile p <:+ t.rdropWhile p := by
  rcases suffix with ⟨before, rfl⟩
  rw [List.rdropWhile, List.rdropWhile, List.reverse_append, List.dropWhile_append]
  split
  · next empty =>
      rw [List.isEmpty_iff.1 empty]
      exact List.nil_suffix
  · rw [List.reverse_append, List.reverse_reverse]
    exact List.suffix_append before _

theorem trim_suffix_trimEnd (suffix : s <:+ t) : Text.trim s <:+ Text.trimEnd t :=
  rdropWhile_of_suffix isBlank ((skipBlanks_suffix s).trans suffix)

theorem trim_blanks_append (blanks : s.all isBlank = true) (t : Text) :
    Text.trim (s ++ t) = Text.trim t := by
  rw [Text.trim, Text.skipBlanks, List.dropWhile_append_of_pos (List.all_eq_true.1 blanks)]
  rfl

theorem trimEnd_append_blanks (blanks : t.all isBlank = true) (s : Text) :
    Text.trimEnd (s ++ t) = Text.trimEnd s := by
  have reversed : ∀ c ∈ t.reverse, isBlank c = true := by simpa using blanks
  rw [Text.trimEnd, List.reverse_append, List.dropWhile_append_of_pos reversed]
  rfl

theorem trim_append_blanks (blanks : t.all isBlank = true) (s : Text) :
    Text.trim (s ++ t) = Text.trim s := by
  have gone : t.dropWhile isBlank = [] := List.dropWhile_eq_nil_iff.2 (List.all_eq_true.1 blanks)
  rw [Text.trim, Text.trim, Text.skipBlanks, Text.skipBlanks, List.dropWhile_append, gone]
  split
  · next empty => rw [List.isEmpty_iff.1 empty]
  · exact trimEnd_append_blanks blanks _

theorem trimEnd_cons (c : Char) (s : Text) :
    Text.trimEnd (c :: s) =
      if (Text.trimEnd s).isEmpty && isBlank c then [] else c :: Text.trimEnd s := by
  simp only [Text.trimEnd, List.reverse_cons, List.dropWhile_append, List.isEmpty_reverse]
  split
  · next empty =>
      by_cases blank : isBlank c = true
      · simp [blank, empty]
      · simp [blank, List.isEmpty_iff.1 empty]
  · next shown => simp [shown]

theorem tail_trimEnd_cons (c : Char) (s : Text) :
    (Text.trimEnd (c :: s)).tail = Text.trimEnd s := by
  rw [trimEnd_cons]
  split
  · next gone =>
      rw [Bool.and_eq_true, List.isEmpty_iff] at gone
      rw [gone.1, List.tail_nil]
  · rfl

theorem trimEnd_append_stop (stop : isBlank c = false) (s t : Text) :
    Text.trimEnd (s ++ c :: t) = s ++ c :: Text.trimEnd t := by
  induction s with
  | nil => simp [trimEnd_cons, stop]
  | cons d s ih => simp [trimEnd_cons, ih]

theorem trimEnd_of_clear (clear : ∀ d ∈ s.getLast?, isBlank d = false) : Text.trimEnd s = s :=
  rdropWhile_of_clear clear

theorem head?_dropWhile (p : Char → Bool) (s : Text) :
    ∀ c ∈ (s.dropWhile p).head?, p c = false := by
  intro c first
  have stopped := List.head?_dropWhile_not p s
  simpa [Option.mem_def.1 first] using stopped

theorem getLast?_rdropWhile (p : Char → Bool) (s : Text) :
    ∀ c ∈ (s.rdropWhile p).getLast?, p c = false := by
  intro c last
  have some_char : s.rdropWhile p ≠ [] := by
    intro empty
    simp [empty] at last
  have stopped := List.rdropWhile_last_not p s some_char
  rw [Option.mem_def, List.getLast?_eq_some_getLast some_char, Option.some.injEq] at last
  rw [← last]
  exact Bool.eq_false_iff.2 stopped

theorem clear_strip (p : Char → Bool) (s : Text) : ClearEnds p (strip p s) := by
  refine ⟨?_, getLast?_rdropWhile p (s.dropWhile p)⟩
  intro c first
  obtain ⟨tail, whole⟩ := List.rdropWhile_prefix p (s.dropWhile p)
  apply head?_dropWhile p s
  rw [← whole, List.head?_append, ← strip, Option.mem_def.1 first]
  rfl

/-- A text is what is left of it between characters of the kind. -/
theorem strip_between (p : Char → Bool) (s : Text) : ∃ left right,
    left.all p = true ∧ right.all p = true ∧ s = left ++ (strip p s ++ right) := by
  refine ⟨s.takeWhile p, (s.dropWhile p).rtakeWhile p, List.all_takeWhile, ?_, ?_⟩
  · exact List.all_eq_true.2 fun c member => List.mem_rtakeWhile_imp member
  · rw [strip, List.rdropWhile_append_rtakeWhile, List.takeWhile_append_dropWhile]

theorem trim_eq_nil_iff : Text.trim s = [] ↔ ∀ c ∈ s, isBlank c = true := by
  rw [← List.all_eq_true]
  constructor
  · intro nothing
    obtain ⟨left, right, blanks, blanks', whole⟩ := strip_between isBlank s
    rw [← trim_eq_strip, nothing, List.nil_append] at whole
    rw [whole, List.all_append, blanks, blanks', Bool.and_self]
  · intro blanks
    exact trim_append_blanks blanks []

theorem blanks_before_solid (some_solid : ∃ c ∈ s, isBlank c = false) : ∃ gap c rest,
    gap.all isBlank = true ∧ isBlank c = false ∧ s = gap ++ c :: rest := by
  have found : (s.find? (!isBlank ·)).isSome = true := by simpa using some_solid
  rcases Option.isSome_iff_exists.1 found with ⟨c, found⟩
  rcases List.find?_eq_some_iff_append.1 found with ⟨solid, gap, rest, whole, blanks⟩
  exact ⟨gap, c, rest, by simpa using blanks, by simpa using solid, whole⟩

theorem solid_before_blanks (some_solid : ∃ c ∈ s, isBlank c = false) : ∃ start c gap,
    gap.all isBlank = true ∧ isBlank c = false ∧ s = start ++ [c] ++ gap := by
  have reversed : ∃ c ∈ s.reverse, isBlank c = false := by simpa using some_solid
  rcases blanks_before_solid reversed with ⟨gap, c, rest, blanks, solid, whole⟩
  refine ⟨rest.reverse, c, gap.reverse, by simpa using blanks, solid, ?_⟩
  have twice := congrArg List.reverse whole
  simpa using twice

theorem getLast?_tail (clear : ∀ d ∈ (c :: s).getLast?, p d = false) :
    ∀ d ∈ s.getLast?, p d = false := by
  intro d last
  cases s with
  | nil => simp at last
  | cons e s => exact clear d (by rwa [List.getLast?_cons_cons])

theorem getLast?_of_suffix (suffix : t <:+ s) (last : c ∈ t.getLast?) : c ∈ s.getLast? := by
  obtain ⟨before, rfl⟩ := suffix
  rw [List.getLast?_append, Option.mem_def.1 last]
  rfl

theorem trimEnd_trimEnd (s : Text) : Text.trimEnd (Text.trimEnd s) = Text.trimEnd s :=
  trimEnd_of_clear (getLast?_rdropWhile isBlank s)

theorem trim_quoted (s : Text) : Text.trim ('\'' :: (s ++ ['\''])) = '\'' :: (s ++ ['\'']) := by
  have blank : isBlank '\'' = false := by decide
  apply strip_of_clear
  constructor
  · simpa using blank
  · rw [← List.cons_append, List.getLast?_concat]
    simpa using blank

/-- Quotes around a value without quotes at its ends are all that is stripped. -/
theorem stripQuotes_quoted (clear : ClearEnds isQuote s) :
    stripQuotes ('\'' :: (s ++ ['\''])) = s := by
  have quote : isQuote '\'' = true := rfl
  rw [stripQuotes_eq_strip, trim_quoted, strip, List.dropWhile_cons_of_pos quote]
  cases s with
  | nil => rfl
  | cons c s =>
      have first : (((c :: s) ++ ['\'']).dropWhile isQuote) = (c :: s) ++ ['\''] :=
        List.dropWhile_cons_of_neg (by simpa using clear.1)
      rw [first, List.rdropWhile_concat_pos _ _ _ quote, rdropWhile_of_clear clear.2]

end QueryConditions
