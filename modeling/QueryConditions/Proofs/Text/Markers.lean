import QueryConditions.Proofs.Text.Excerpts

/-!
Words that have a meaning between blanks: the ends of a clause, its connectives, the
operators of its conditions. A marker begins at blanks, and it is settled by the text up to
the first character that none of its words has. Thus a text without markers can be taken
out of its surroundings and put into others: an excerpt, which never ends within a word,
has no marker that was not there before.
-/

namespace QueryConditions

/-- Blanks, a spelling of the marker, and then no more of its last word. -/
structure Marker where
  spellings : List (List Text)
  /-- More blanks must follow; the end of the text is not enough. -/
  spaced : Bool
  spelled : ∀ words ∈ spellings, words ≠ [] ∧ [] ∉ words

namespace Marker

variable (m : Marker)

def ends (after : Text) : Bool :=
  if m.spaced then after.head?.any isBlank else wordEnds after

def reads (s : Text) : Bool := m.spellings.any fun words => (keywords? words s).any m.ends

def begins (s : Text) : Bool := (blanks? s).any m.reads

def Absent : Text → Text → Prop
  | [], _ => True
  | c :: s, t => m.begins (c :: s ++ t) = false ∧ Absent s t

def StopsAt (c : Char) : Prop :=
  isBlank c = false ∧ isWord c = false ∧
    m.spellings.all (·.all (·.all fun letter => foldCase letter != foldCase c)) = true

instance decidableAbsent : (s t : Text) → Decidable (m.Absent s t)
  | [], _ => isTrue trivial
  | c :: s, t =>
      have := decidableAbsent s t
      inferInstanceAs (Decidable (m.begins (c :: s ++ t) = false ∧ m.Absent s t))

instance (c : Char) : Decidable (m.StopsAt c) :=
  inferInstanceAs (Decidable (isBlank c = false ∧ isWord c = false ∧
    m.spellings.all (·.all (·.all fun letter => foldCase letter != foldCase c)) = true))

variable {m} {c : Char} {s t rest part : Text}

theorem begins_of_not_blank (solid : isBlank c = false) (s : Text) : m.begins (c :: s) = false := by
  simp [begins, blanks?, solid]

theorem wordEnds_of_begins (found : m.begins s = true) : wordEnds s = true := by
  cases s with
  | nil => rfl
  | cons c s =>
      by_cases blank : isBlank c = true
      · simp [wordEnds, isWord_of_isBlank blank]
      · rw [begins_of_not_blank (by simpa using blank)] at found
        contradiction

theorem begins_blank (blank : isBlank c = true) (s : Text) :
    m.begins (c :: s) = m.reads (Text.skipBlanks s) := by
  simp [begins, blanks?, blank]

/-- One more blank in front changes nothing. -/
theorem begins_of_begins_cons (blank : isBlank c = true) (absent : m.begins (c :: s) = false) :
    m.begins s = false := by
  rw [begins_blank blank] at absent
  cases s with
  | nil => rfl
  | cons d s =>
      by_cases more : isBlank d = true
      · rw [begins_blank more]
        rwa [Text.skipBlanks, List.dropWhile_cons_of_pos more] at absent
      · exact begins_of_not_blank (by simpa using more) s

theorem ends_append_stop (stop : m.StopsAt c) (s t : Text) : m.ends (s ++ c :: t) = m.ends s := by
  obtain ⟨blank, word, _⟩ := stop
  unfold ends
  split
  · cases s with
    | nil => simp [blank]
    | cons d s => rfl
  · exact wordEnds_append_stop word s t

theorem reads_append_stop (stop : m.StopsAt c) (s t : Text) :
    m.reads (s ++ c :: t) = m.reads s := by
  unfold reads
  rw [Bool.eq_iff_iff, List.any_eq_true, List.any_eq_true]
  refine exists_congr fun words => and_congr_right fun member => ?_
  have apart : ∀ word ∈ words, ∀ letter ∈ word, foldCase letter ≠ foldCase c := by
    intro word inside letter here
    have words_apart := List.all_eq_true.1 stop.2.2 words member
    have word_apart := List.all_eq_true.1 words_apart word inside
    exact bne_iff_ne.1 (List.all_eq_true.1 word_apart letter here)
  rw [keywords?_append_apart stop.1 apart, Option.any_map]
  cases keywords? words s with
  | none => rfl
  | some after => exact iff_of_eq (congrArg (· = true) (ends_append_stop stop after t))

theorem begins_append_stop (stop : m.StopsAt c) (s t : Text) :
    m.begins (s ++ c :: t) = m.begins s := by
  unfold begins
  rw [blanks?_append_stop stop.1, Option.any_map]
  cases blanks? s with
  | none => rfl
  | some start => exact reads_append_stop stop start t

theorem ends_append (found : m.ends s = true) (boundary : wordEnds t = true) :
    m.ends (s ++ t) = true := by
  unfold ends at found ⊢
  cases s with
  | cons d s => exact found
  | nil =>
      split
      · next spaced => simp [spaced] at found
      · exact boundary

/-- A marker that is there stays, whatever new word begins behind it. -/
theorem begins_append (found : m.begins s = true) (boundary : wordEnds t = true) :
    m.begins (s ++ t) = true := by
  obtain ⟨start, gap, read⟩ := (Option.any_eq_true _ _).1 found
  obtain ⟨words, member, read⟩ := List.any_eq_true.1 read
  obtain ⟨after, here, ends⟩ := (Option.any_eq_true _ _).1 read
  obtain ⟨some_word, letters⟩ := m.spelled words member
  have more : start ≠ [] := ne_nil_of_keywords? some_word letters here
  refine (Option.any_eq_true _ _).2 ⟨start ++ t, blanks?_append gap more t, ?_⟩
  refine List.any_eq_true.2 ⟨words, member, ?_⟩
  exact (Option.any_eq_true _ _).2 ⟨after ++ t, keywords?_append letters here t,
    ends_append ends boundary⟩

@[simp] theorem absent_nil (t : Text) : m.Absent [] t := trivial

theorem absent_cons : m.Absent (c :: s) t ↔ m.begins (c :: (s ++ t)) = false ∧ m.Absent s t :=
  Iff.rfl

theorem absent_append {u : Text} :
    m.Absent (s ++ t) u ↔ m.Absent s (t ++ u) ∧ m.Absent t u := by
  induction s with
  | nil => simp
  | cons c s ih => simp only [List.cons_append, absent_cons, ih, List.append_assoc, and_assoc]

theorem absent_of_solid (solid : s.all (!isBlank ·) = true) (t : Text) : m.Absent s t := by
  induction s with
  | nil => trivial
  | cons c s ih =>
      simp only [List.all_cons, Bool.and_eq_true, Bool.not_eq_true'] at solid
      exact ⟨begins_of_not_blank solid.1 _, ih solid.2⟩

/-- What stands behind a stopping character has no part in it. -/
theorem absent_stop (stop : m.StopsAt c) : m.Absent s (c :: t) ↔ m.Absent s [] := by
  induction s with
  | nil => rfl
  | cons d s ih =>
      have same := begins_append_stop stop (d :: s) t
      rw [List.cons_append] at same
      rw [absent_cons, absent_cons, ih, same, List.append_nil]

theorem absent_stop_cons (stop : m.StopsAt c) (t : Text) : m.Absent [c] t :=
  ⟨begins_of_not_blank stop.1 _, trivial⟩

theorem absent_iff_split : m.Absent s t ↔
    ∀ start tail, s = start ++ tail → tail ≠ [] → m.begins (tail ++ t) = false := by
  induction s with
  | nil =>
      refine iff_of_true trivial fun start tail whole some_char => ?_
      exact absurd (List.append_eq_nil_iff.1 whole.symm).2 some_char
  | cons c s ih =>
      rw [absent_cons, ih]
      constructor
      · rintro ⟨here, later⟩ start tail whole some_char
        cases start with
        | nil =>
            obtain rfl : c :: s = tail := whole
            exact here
        | cons d start => exact later start tail (List.cons.inj whole).2 some_char
      · intro absent
        refine ⟨absent [] (c :: s) rfl (List.cons_ne_nil c s), ?_⟩
        rintro start tail rfl some_char
        exact absent (c :: start) tail rfl some_char

theorem absent_iff : m.Absent s [] ↔ ∀ rest, rest <:+ s → m.begins rest = false := by
  rw [absent_iff_split]
  constructor
  · rintro absent rest ⟨start, rfl⟩
    cases rest with
    | nil => rfl
    | cons c rest => simpa using absent start (c :: rest) rfl (List.cons_ne_nil c rest)
  · rintro absent start tail rfl _
    rw [List.append_nil]
    exact absent tail (List.suffix_append start tail)

/-- A text without the marker has none on its own either. -/
theorem Absent.alone (absent : m.Absent s t) (boundary : wordEnds t = true) : m.Absent s [] := by
  induction s with
  | nil => trivial
  | cons c s ih =>
      refine ⟨?_, ih absent.2⟩
      cases found : m.begins (c :: s ++ []) with
      | false => rfl
      | true =>
          rw [List.append_nil] at found
          have still := begins_append found boundary
          rw [absent.1] at still
          contradiction

/-- Nor has any excerpt of it. -/
theorem Absent.excerpt (absent : m.Absent s []) (excerpt : IsExcerpt part s) :
    m.Absent part [] := by
  obtain ⟨left, right, rfl, boundary⟩ := excerpt
  have inside := (absent_append.1 (absent_append.1 absent).2).1
  exact inside.alone (by simpa using boundary)

end Marker

end QueryConditions
