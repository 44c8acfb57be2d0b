import QueryConditions.Text.Keyword
import QueryConditions.Text.Pattern

/-!
Readings that end at a given character. A character that is no blank stops blanks, one
that is no word character stops words and keywords. Whatever stands behind such a
character has no part in a reading that starts before it.
-/

namespace QueryConditions

variable {c : Char} {s t rest : Text}

theorem dropWhile_append_stop {p : Char → Bool} (stop : p c = false) (s t : Text) :
    (s ++ c :: t).dropWhile p = s.dropWhile p ++ c :: t := by
  induction s with
  | nil => simp [stop]
  | cons d s ih =>
      by_cases inside : p d = true
      · simpa [inside] using ih
      · simp [inside]

theorem takeWhile_append_stop {p : Char → Bool} (stop : p c = false) (s t : Text) :
    (s ++ c :: t).takeWhile p = s.takeWhile p := by
  induction s with
  | nil => simp [stop]
  | cons d s ih =>
      by_cases inside : p d = true
      · simpa [inside] using ih
      · simp [inside]

theorem skipBlanks_append_stop (stop : isBlank c = false) (s t : Text) :
    Text.skipBlanks (s ++ c :: t) = Text.skipBlanks s ++ c :: t :=
  dropWhile_append_stop stop s t

theorem blanks?_append_stop (stop : isBlank c = false) (s t : Text) :
    blanks? (s ++ c :: t) = (blanks? s).map (· ++ c :: t) := by
  cases s with
  | nil => simp [blanks?, stop]
  | cons d s =>
      simp only [List.cons_append, blanks?, skipBlanks_append_stop stop]
      by_cases blank : isBlank d = true <;> simp [blank]

theorem word?_append_stop (stop : isWord c = false) (s t : Text) :
    word? (s ++ c :: t) = (word? s).map fun (word, rest) => (word, rest ++ c :: t) := by
  cases s with
  | nil => simp [word?, stop]
  | cons d s =>
      simp only [List.cons_append, word?, takeWhile_append_stop stop, dropWhile_append_stop stop]
      by_cases inside : isWord d = true <;> simp [inside]

theorem wordEnds_append_stop (stop : isWord c = false) (s t : Text) :
    wordEnds (s ++ c :: t) = wordEnds s := by
  cases s with
  | nil => simp [wordEnds, stop]
  | cons d s => rfl

theorem toLower_of_not_isUpper {c : Char} (lower : c.isUpper = false) : c.toLower = c := by
  unfold Char.toLower
  exact dif_neg (of_decide_eq_false lower)

/-- What holds of the capitals of ASCII holds of every character. -/
theorem map_toLower {α : Type} {f : Char → α}
    (capitals : ∀ n < 91, f (Char.ofNat n).toLower = f (Char.ofNat n)) (c : Char) :
    f c.toLower = f c := by
  by_cases upper : c.isUpper = true
  · have range : 'A'.val ≤ c.val ∧ c.val ≤ 'Z'.val := of_decide_eq_true upper
    have bound : c.toNat < 91 := Nat.lt_succ_of_le range.2
    simpa using capitals c.toNat bound
  · rw [toLower_of_not_isUpper (by simpa using upper)]

theorem isWord_of_isBlank {c : Char} (blank : isBlank c = true) : isWord c = false := by
  have ascii : ∀ n < 0x80, isBlank (Char.ofNat n) = true → isWord (Char.ofNat n) = false := by
    decide
  have apart : ∀ range ∈ blankRanges, ∀ other ∈ wordRanges,
      range.2 < other.1 ∨ other.2 < range.1 := by decide +kernel
  -- Below 0x80 word characters are not given by a table.
  by_cases low : c.toNat < 0x80
  · simpa [blank] using ascii c.toNat low
  · obtain ⟨range, member, within⟩ := List.any_eq_true.1 blank
    simp only [Bool.and_eq_true, decide_eq_true_eq] at within
    rw [isWord, if_neg low, inRanges, List.any_eq_false]
    intro other member' inside
    have disjoint := apart range member other member'
    simp only [Bool.and_eq_true, decide_eq_true_eq] at inside
    omega

theorem map_foldCase {α : Type} {f : Char → α}
    (capitals : ∀ n < 91, f (Char.ofNat n).toLower = f (Char.ofNat n))
    (longS : f 's' = f '\u017f') (kelvin : f 'k' = f '\u212a') (c : Char) :
    f (foldCase c) = f c := by
  unfold foldCase
  split
  · next same =>
      subst same
      exact longS
  · split
    · next same =>
        subst same
        exact kelvin
    · exact map_toLower capitals c

theorem isWord_foldCase (c : Char) : isWord (foldCase c) = isWord c :=
  map_foldCase (by decide) (by decide) (by decide +kernel) c

theorem isBlank_foldCase (c : Char) : isBlank (foldCase c) = isBlank c :=
  map_foldCase (by decide) (by decide) (by decide) c

/-- What is read as a keyword is itself made of word characters, as many as the keyword has. -/
theorem word_of_keyword? {keyword : Text} (letters : keyword.all isWord = true)
    (found : keyword? keyword s = some rest) :
    ∃ word, s = word ++ rest ∧ word.length = keyword.length ∧ word.all isWord = true := by
  induction keyword generalizing s with
  | nil =>
      cases found
      exact ⟨[], rfl, rfl, rfl⟩
  | cons letter keyword ih =>
      simp only [List.all_cons, Bool.and_eq_true] at letters
      cases s with
      | nil => simp [keyword?] at found
      | cons d s =>
          simp only [keyword?] at found
          split at found
          · next same =>
              obtain ⟨word, rfl, length, inside⟩ := ih letters.2 found
              have first : isWord d = true := by
                rw [← isWord_foldCase, ← same, isWord_foldCase, letters.1]
              exact ⟨d :: word, rfl, congrArg (· + 1) length, by simp [first, inside]⟩
          · simp at found

/-- A keyword is not read across a character that it does not have. -/
theorem keyword?_append_apart {keyword : Text}
    (apart : ∀ letter ∈ keyword, foldCase letter ≠ foldCase c) (s t : Text) :
    keyword? keyword (s ++ c :: t) = (keyword? keyword s).map (· ++ c :: t) := by
  induction keyword generalizing s with
  | nil => rfl
  | cons letter keyword ih =>
      cases s with
      | nil =>
          -- The keyword would have to go on with the character itself.
          have here : foldCase letter ≠ foldCase c := apart letter List.mem_cons_self
          simp [keyword?, here]
      | cons d s =>
          have later := ih fun other member => apart other (List.mem_cons_of_mem letter member)
          simp only [List.cons_append, keyword?, later]
          split <;> rfl

theorem keyword?_append_stop {keyword : Text} (letters : keyword.all isWord = true)
    (stop : isWord c = false) (s t : Text) :
    keyword? keyword (s ++ c :: t) = (keyword? keyword s).map (· ++ c :: t) := by
  apply keyword?_append_apart
  intro letter member same
  have inside := congrArg isWord same
  simp only [isWord_foldCase, List.all_eq_true.1 letters letter member, stop] at inside
  contradiction

theorem keywords?_append_apart {keywords : List Text} (blank : isBlank c = false)
    (apart : ∀ keyword ∈ keywords, ∀ letter ∈ keyword, foldCase letter ≠ foldCase c)
    (s t : Text) :
    keywords? keywords (s ++ c :: t) = (keywords? keywords s).map (· ++ c :: t) := by
  induction keywords generalizing s with
  | nil => rfl
  | cons keyword keywords ih =>
      have first := apart keyword List.mem_cons_self
      have others := fun other member => apart other (List.mem_cons_of_mem keyword member)
      cases keywords with
      | nil => exact keyword?_append_apart first s t
      | cons second more =>
          simp only [keywords?, keyword?_append_apart first, Option.bind_eq_bind]
          cases keyword? keyword s with
          | none => rfl
          | some after =>
              simp only [Option.map_some, Option.bind_some, blanks?_append_stop blank]
              cases blanks? after with
              | none => rfl
              | some next => exact ih others next

theorem keyword?_append {keyword : Text} (found : keyword? keyword s = some rest) (t : Text) :
    keyword? keyword (s ++ t) = some (rest ++ t) := by
  induction keyword generalizing s with
  | nil =>
      cases found
      rfl
  | cons letter keyword ih =>
      cases s with
      | nil => simp [keyword?] at found
      | cons d s =>
          simp only [keyword?] at found
          split at found
          · next same =>
              simp only [List.cons_append, keyword?, same, if_true]
              exact ih found
          · simp at found

theorem blanks?_append (found : blanks? s = some rest) (more : rest ≠ []) (t : Text) :
    blanks? (s ++ t) = some (rest ++ t) := by
  cases s with
  | nil => simp [blanks?] at found
  | cons d s =>
      simp only [blanks?] at found
      split at found
      · next blank =>
          cases found
          have kept : (s.dropWhile isBlank).isEmpty = false := List.isEmpty_eq_false_iff.2 more
          simp [blanks?, blank, Text.skipBlanks, List.dropWhile_append, kept]
      · simp at found

theorem ne_nil_of_keyword? {keyword : Text} (letters : keyword ≠ [])
    (found : keyword? keyword s = some rest) : s ≠ [] := by
  rintro rfl
  cases keyword with
  | nil => exact letters rfl
  | cons letter keyword => simp [keyword?] at found

theorem ne_nil_of_keywords? {keywords : List Text} (some_word : keywords ≠ [])
    (letters : [] ∉ keywords) (found : keywords? keywords s = some rest) : s ≠ [] := by
  cases keywords with
  | nil => exact absurd rfl some_word
  | cons keyword keywords =>
      have some_letter : keyword ≠ [] := fun empty => letters (by simp [empty])
      cases keywords with
      | nil => exact ne_nil_of_keyword? some_letter found
      | cons second others =>
          simp only [keywords?, Option.bind_eq_bind, Option.bind_eq_some_iff] at found
          rcases found with ⟨after, here, _⟩
          exact ne_nil_of_keyword? some_letter here

theorem keywords?_append {keywords : List Text} (letters : [] ∉ keywords)
    (found : keywords? keywords s = some rest) (t : Text) :
    keywords? keywords (s ++ t) = some (rest ++ t) := by
  induction keywords generalizing s with
  | nil =>
      cases found
      rfl
  | cons keyword keywords ih =>
      have others_letters : [] ∉ keywords := fun member => letters (List.mem_cons_of_mem _ member)
      cases keywords with
      | nil => exact keyword?_append found t
      | cons second others =>
          simp only [keywords?, Option.bind_eq_bind, Option.bind_eq_some_iff] at found
          obtain ⟨after, here, next, gap, found⟩ := found
          -- A next word is there, so the blanks before it end where they ended before.
          have more : next ≠ [] :=
            ne_nil_of_keywords? (List.cons_ne_nil second others) others_letters found
          simp only [keywords?, keyword?_append here, blanks?_append gap more,
            Option.bind_eq_bind, Option.bind_some]
          exact ih others_letters found

namespace Pattern

variable {α : Type} (p : Pattern α)

theorem read?_nil (before : Option Char) : p.read? before [] = none := by
  cases found : p.read? before [] with
  | none => rfl
  | some result => exact absurd (p.follows found).2 (by simp)

/-- What is found is read behind what was skipped. -/
theorem read?_of_find? {before : Option Char} {s skipped rest : Text} {value : α}
    (found : p.find? before s = some (skipped, value, rest)) : ∃ tail,
      s = skipped ++ tail ∧ p.read? (skipped.getLast?.or before) tail = some (value, rest) := by
  induction s generalizing before skipped with
  | nil => simp [find?] at found
  | cons c s ih =>
      simp only [find?] at found
      split at found
      · next here =>
          cases found
          exact ⟨c :: s, rfl, here⟩
      · obtain ⟨⟨skipped', value', rest'⟩, later, same⟩ := Option.map_eq_some_iff.1 found
        cases same
        obtain ⟨tail, rfl, here⟩ := ih later
        exact ⟨tail, rfl, by simpa [List.getLast?_cons] using here⟩

/-- Where nothing is found nothing can be read, at any place. -/
theorem read?_of_find?_eq_none {before : Option Char} {skipped tail : Text}
    (absent : p.find? before (skipped ++ tail) = none) :
    p.read? (skipped.getLast?.or before) tail = none := by
  induction skipped generalizing before with
  | nil =>
      cases tail with
      | nil => exact p.read?_nil _
      | cons c tail =>
          simp only [List.nil_append, find?] at absent
          split at absent
          · simp at absent
          · next none => exact none
  | cons c skipped ih =>
      simp only [List.cons_append, find?] at absent
      split at absent
      · simp at absent
      · have later := ih (Option.map_eq_none_iff.1 absent)
        simpa [List.getLast?_cons] using later

/-- Where something can be read it is found, unless something is found before it. -/
theorem find?_of_read? {before : Option Char} {skipped tail : Text}
    (read : (p.read? (skipped.getLast?.or before) tail).isSome = true) :
    ∃ start value rest, p.find? before (skipped ++ tail) = some (start, value, rest) ∧
      start.length ≤ skipped.length := by
  induction skipped generalizing before with
  | nil =>
      cases tail with
      | nil => simp [p.read?_nil] at read
      | cons c tail =>
          rcases Option.isSome_iff_exists.1 read with ⟨⟨value, rest⟩, here⟩
          rw [List.getLast?_nil, Option.none_or] at here
          exact ⟨[], value, rest, by simp [find?, here], Nat.le_refl 0⟩
  | cons c skipped ih =>
      cases here : p.read? before (c :: (skipped ++ tail)) with
      | some found => exact ⟨[], found.1, found.2, by simp [find?, here], Nat.zero_le _⟩
      | none =>
          have next : (p.read? (skipped.getLast?.or (some c)) tail).isSome = true := by
            simpa [List.getLast?_cons] using read
          rcases ih next with ⟨start, value, rest, found, bound⟩
          exact ⟨c :: start, value, rest, by simp [find?, here, found], Nat.succ_le_succ bound⟩

theorem find?_eq_none_iff {s : Text} : p.find? none s = none ↔
    ∀ left tail, s = left ++ tail → p.read? left.getLast? tail = none := by
  constructor
  · rintro absent left tail rfl
    simpa using p.read?_of_find?_eq_none absent
  · intro unread
    cases found : p.find? none s with
    | none => rfl
    | some result =>
        rcases p.read?_of_find? found with ⟨tail, whole, read⟩
        rw [Option.or_none, unread _ tail whole] at read
        contradiction

/-- The first occurrence is the one with none before it. -/
theorem find?_eq_some_iff {s left rest : Text} {value : α} :
    p.find? none s = some (left, value, rest) ↔
      ∃ tail, s = left ++ tail ∧ p.read? left.getLast? tail = some (value, rest) ∧
        ∀ start part, left = start ++ part → part ≠ [] →
          p.read? start.getLast? (part ++ tail) = none := by
  constructor
  · intro found
    rcases p.read?_of_find? found with ⟨tail, rfl, read⟩
    refine ⟨tail, rfl, by simpa using read, ?_⟩
    rintro start part rfl some_char
    cases earlier : p.read? start.getLast? (part ++ tail) with
    | none => rfl
    | some result =>
        have here : (p.read? (start.getLast?.or none) (part ++ tail)).isSome = true := by
          rw [Option.or_none, earlier]
          rfl
        -- The first occurrence would not be further to the right.
        rcases p.find?_of_read? here with ⟨start', _, _, found', bound⟩
        rw [← List.append_assoc, found] at found'
        cases found'
        rw [List.length_append] at bound
        exact absurd (List.length_eq_zero_iff.1 (by omega)) some_char
  · rintro ⟨tail, rfl, read, unread⟩
    have here : (p.read? (left.getLast?.or none) tail).isSome = true := by
      rw [Option.or_none, read]
      rfl
    rcases p.find?_of_read? here with ⟨start, value', rest', found, bound⟩
    rcases p.read?_of_find? found with ⟨tail', whole, read'⟩
    rw [Option.or_none] at read'
    have cut : start <+: left :=
      List.prefix_of_prefix_length_le ⟨tail', whole.symm⟩ (List.prefix_append left tail) bound
    rcases cut with ⟨part, rfl⟩
    rw [List.append_assoc] at whole
    obtain rfl := List.append_cancel_left whole
    -- Here and at no place before it something is read, so it is found here.
    cases part with
    | nil =>
        simp only [List.append_nil, List.nil_append] at read read' found ⊢
        rw [read] at read'
        cases read'
        exact found
    | cons c part =>
        rw [unread start (c :: part) rfl (List.cons_ne_nil c part)] at read'
        contradiction

/-- What is found in a text is still found, or something before it, when the text goes on. -/
theorem find?_eq_none_of_append {before : Option Char} {s t : Text}
    (grows : ∀ before s, (p.read? before s).isSome = true →
      (p.read? before (s ++ t)).isSome = true)
    (absent : p.find? before (s ++ t) = none) : p.find? before s = none := by
  cases found : p.find? before s with
  | none => rfl
  | some result =>
      obtain ⟨skipped, value, rest⟩ := result
      obtain ⟨tail, rfl, here⟩ := p.read?_of_find? found
      rw [List.append_assoc] at absent
      have still := grows _ tail (Option.isSome_of_eq_some here)
      rw [p.read?_of_find?_eq_none absent] at still
      contradiction

theorem read?_of_mem_findAll {value : α} {s : Text} (member : value ∈ p.findAll s) :
    ∃ before start rest, p.read? before start = some (value, rest) := by
  unfold findAll at member
  generalize none = before at member
  fun_induction p.scan before s with
  | case1 => simp at member
  | case2 before c tail absent ih => exact ih (by simpa [Piece.value?] using member)
  | case3 before c tail other rest found ih =>
      simp only [List.filterMap_cons, Piece.value?, List.mem_cons] at member
      rcases member with rfl | member
      · exact ⟨before, c :: tail, rest, found⟩
      · exact ih member

/-- What stands before a text matters to the first reading only. -/
theorem scan_of_read? {before other : Option Char} {s : Text}
    (same : p.read? before s = p.read? other s) : p.scan before s = p.scan other s := by
  cases s with
  | nil => rw [scan, scan]
  | cons c s =>
      cases found : p.read? other (c :: s) with
      | none => rw [p.scan_cons_of_none found, p.scan_cons_of_none (same.trans found)]
      | some read => rw [p.scan_cons_of_some found, p.scan_cons_of_some (same.trans found)]

/-- No occurrence of the pattern reaches the character or looks behind it. -/
def StopsAt (c : Char) : Prop :=
  ∀ before s t, p.read? before (s ++ c :: t) =
    (p.read? before s).map fun (value, rest) => (value, rest ++ c :: t)

variable {p}

theorem scan_append_stop (stops : p.StopsAt c) (before : Option Char) (s t : Text) :
    p.scan before (s ++ c :: t) = p.scan before s ++ .plain c :: p.scan (some c) t := by
  fun_induction p.scan before s with
  | case1 before =>
      have absent : p.read? before (c :: t) = none := by
        simpa [p.read?_nil before] using stops before [] t
      exact p.scan_cons_of_none absent
  | case2 before d tail absent ih =>
      have absent' : p.read? before (d :: (tail ++ c :: t)) = none := by
        simpa [absent] using stops before (d :: tail) t
      rw [List.cons_append, p.scan_cons_of_none absent', ih, List.cons_append]
  | case3 before d tail value rest found ih =>
      have found' : p.read? before (d :: (tail ++ c :: t)) = some (value, rest ++ c :: t) := by
        simpa [found] using stops before (d :: tail) t
      rw [List.cons_append, p.scan_cons_of_some found', ih, List.cons_append]

end Pattern

end QueryConditions
