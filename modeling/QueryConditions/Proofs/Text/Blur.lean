import QueryConditions.Proofs.Text.Stops
import Mathlib.Data.List.Forall2

/-!
Texts without letter case and kinds of blanks. Blurring a character makes a blank the
ordinary one and a capital of ASCII the small letter. Readings do not see the
difference: reading a blurred text gives the blurred result.
-/

namespace QueryConditions

/-- Equal, or one letter of ASCII in either case, or two blanks. -/
def AlikeChar (c d : Char) : Prop :=
  c = d ∨ (c.isAlpha = true ∧ d.isAlpha = true ∧ c.toLower = d.toLower) ∨
    (isBlank c = true ∧ isBlank d = true)

instance (c d : Char) : Decidable (AlikeChar c d) :=
  inferInstanceAs (Decidable (_ ∨ _ ∨ _))

def Alike (s t : Text) : Prop := List.Forall₂ AlikeChar s t

instance (s t : Text) : Decidable (Alike s t) :=
  inferInstanceAs (Decidable (List.Forall₂ AlikeChar s t))

def blurChar (c : Char) : Char := if isBlank c then ' ' else c.toLower

def Text.blur (s : Text) : Text := s.map blurChar

section Characters

theorem isBlank_blurChar (c : Char) : isBlank (blurChar c) = isBlank c := by
  unfold blurChar
  split
  · next blank => rw [blank]; decide
  · exact map_toLower (by decide) c

theorem blurChar_blurChar (c : Char) : blurChar (blurChar c) = blurChar c := by
  by_cases blank : isBlank c = true
  · have shape : blurChar c = ' ' := if_pos blank
    rw [shape]
    decide
  · have shape : blurChar c = c.toLower := if_neg blank
    have lower : isBlank c.toLower = false := by
      rw [← shape, isBlank_blurChar]
      simpa using blank
    rw [shape, blurChar, if_neg (by simp [lower])]
    exact map_toLower (by decide) c

theorem isWord_blurChar (c : Char) : isWord (blurChar c) = isWord c := by
  unfold blurChar
  split
  · next blank =>
      rw [isWord_of_isBlank blank]
      decide
  · exact map_toLower (by decide) c

theorem foldCase_blurChar {c : Char} (blank : isBlank c = false) :
    foldCase (blurChar c) = foldCase c := by
  rw [blurChar, if_neg (by simp [blank])]
  exact map_toLower (by decide) c

/-- A character that is no capital, no small letter and no blank is blurred to itself only. -/
theorem blurChar_eq_iff {d : Char} (blank : isBlank d = false)
    (fixed : ∀ n < 91, ((Char.ofNat n).toLower = d) = (Char.ofNat n = d)) (c : Char) :
    blurChar c = d ↔ c = d := by
  by_cases blank' : isBlank c = true
  · constructor
    · rintro rfl
      rw [isBlank_blurChar] at blank
      simp [blank] at blank'
    · rintro rfl
      simp [blank] at blank'
  · rw [blurChar, if_neg blank']
    exact iff_of_eq (map_toLower (f := (· = d)) fixed c)

theorem blurChar_eq_open_iff (c : Char) : blurChar c = '(' ↔ c = '(' :=
  blurChar_eq_iff (by decide) (by decide) c

theorem blurChar_eq_close_iff (c : Char) : blurChar c = ')' ↔ c = ')' :=
  blurChar_eq_iff (by decide) (by decide) c

theorem isAlpha_toLower (c : Char) : c.toLower.isAlpha = c.isAlpha :=
  map_toLower (by decide) c

theorem not_isBlank_of_isAlpha {c : Char} (letter : c.isAlpha = true) : isBlank c = false := by
  cases blank : isBlank c with
  | false => rfl
  | true =>
      have word : isWord c = true := by
        have low : c.toNat < 0x80 := by
          rcases (Bool.or_eq_true _ _).mp letter with upper | lower
          · have range : 'A'.val ≤ c.val ∧ c.val ≤ 'Z'.val := of_decide_eq_true upper
            exact Nat.lt_of_le_of_lt range.2 (by decide)
          · have range := (Bool.and_eq_true _ _).mp lower
            have top : c.val ≤ 'z'.val := of_decide_eq_true range.2
            exact Nat.lt_of_le_of_lt top (by decide)
        simp [isWord, low, Char.isAlphanum, letter]
      rw [isWord_of_isBlank blank] at word
      contradiction

theorem alikeChar_iff {c d : Char} : AlikeChar c d ↔ blurChar c = blurChar d := by
  constructor
  · rintro (rfl | ⟨letter, letter', same⟩ | ⟨blank, blank'⟩)
    · rfl
    · simp [blurChar, not_isBlank_of_isAlpha letter, not_isBlank_of_isAlpha letter', same]
    · simp [blurChar, blank, blank']
  · intro same
    have blanks := congrArg isBlank same
    rw [isBlank_blurChar, isBlank_blurChar] at blanks
    by_cases blank : isBlank c = true
    · exact Or.inr (Or.inr ⟨blank, blanks ▸ blank⟩)
    · rw [blurChar, blurChar, ← blanks, if_neg blank, if_neg blank] at same
      have letters := congrArg Char.isAlpha same
      rw [isAlpha_toLower, isAlpha_toLower] at letters
      cases letter : c.isAlpha with
      | true => exact Or.inr (Or.inl ⟨letter, letters ▸ letter, same⟩)
      | false =>
          have small := (Bool.or_eq_false_iff.mp letter).1
          have small' := (Bool.or_eq_false_iff.mp (letters ▸ letter)).1
          rw [toLower_of_not_isUpper small, toLower_of_not_isUpper small'] at same
          exact Or.inl same

theorem alike_iff {s t : Text} : Alike s t ↔ s.blur = t.blur := by
  have shape : AlikeChar = fun c d => blurChar c = blurChar d := by
    funext c d
    exact propext alikeChar_iff
  rw [Alike, Text.blur, Text.blur, ← List.forall₂_eq_eq_eq, List.forall₂_map_left_iff,
    List.forall₂_map_right_iff, shape]

end Characters

section Readings

variable {s : Text}

@[simp] theorem blur_nil : Text.blur [] = [] := rfl

@[simp] theorem blur_cons (c : Char) (s : Text) : Text.blur (c :: s) = blurChar c :: s.blur := rfl

@[simp] theorem blur_append (s t : Text) : (s ++ t).blur = s.blur ++ t.blur := List.map_append

@[simp] theorem length_blur (s : Text) : s.blur.length = s.length := List.length_map _

theorem blur_blur (s : Text) : s.blur.blur = s.blur := by
  rw [Text.blur, Text.blur, List.map_map]
  exact List.map_congr_left fun c _ => blurChar_blurChar c

theorem dropWhile_blur {p : Char → Bool} (same : ∀ c, p (blurChar c) = p c) (s : Text) :
    s.blur.dropWhile p = Text.blur (s.dropWhile p) := by
  rw [Text.blur, List.dropWhile_map, show p ∘ blurChar = p from funext same]
  rfl

theorem takeWhile_blur {p : Char → Bool} (same : ∀ c, p (blurChar c) = p c) (s : Text) :
    s.blur.takeWhile p = Text.blur (s.takeWhile p) := by
  rw [Text.blur, List.takeWhile_map, show p ∘ blurChar = p from funext same]
  rfl

theorem skipBlanks_blur (s : Text) : Text.skipBlanks s.blur = (Text.skipBlanks s).blur :=
  dropWhile_blur isBlank_blurChar s

theorem reverse_blur (s : Text) : s.blur.reverse = Text.blur s.reverse := List.map_reverse.symm

theorem trimEnd_blur (s : Text) : Text.trimEnd s.blur = (Text.trimEnd s).blur := by
  rw [Text.trimEnd, reverse_blur, dropWhile_blur isBlank_blurChar, reverse_blur, Text.trimEnd]

theorem trim_blur (s : Text) : Text.trim s.blur = (Text.trim s).blur := by
  rw [Text.trim, skipBlanks_blur, trimEnd_blur, Text.trim]

theorem blanks?_blur (s : Text) : blanks? s.blur = (blanks? s).map Text.blur := by
  cases s with
  | nil => rfl
  | cons c s =>
      simp only [blur_cons, blanks?, isBlank_blurChar, skipBlanks_blur]
      split <;> rfl

theorem wordEnds_blur (s : Text) : wordEnds s.blur = wordEnds s := by
  cases s with
  | nil => rfl
  | cons c s => exact congrArg (! ·) (isWord_blurChar c)

theorem wordMayBegin_blur (before : Option Char) :
    wordMayBegin (before.map blurChar) = wordMayBegin before := by
  cases before with
  | none => rfl
  | some c => exact congrArg (! ·) (isWord_blurChar c)

theorem word?_blur (s : Text) :
    word? s.blur = (word? s).map fun (word, rest) => (word.blur, rest.blur) := by
  cases s with
  | nil => rfl
  | cons c s =>
      simp only [blur_cons, word?, isWord_blurChar, takeWhile_blur isWord_blurChar,
        dropWhile_blur isWord_blurChar]
      split <;> rfl

/-- A keyword has no blanks, so it does not see which blank stands in a text. -/
theorem foldCase_eq_blurChar_iff {letter : Char} (blank : isBlank letter = false) (c : Char) :
    foldCase letter = foldCase (blurChar c) ↔ foldCase letter = foldCase c := by
  cases other : isBlank c with
  | false => rw [foldCase_blurChar other]
  | true =>
      -- Both blanks are different from the letter, whatever blanks they are.
      have apart (d : Char) (gap : isBlank d = true) : foldCase letter ≠ foldCase d := by
        intro same
        have both := congrArg isBlank same
        simp only [isBlank_foldCase, blank, gap] at both
        contradiction
      have gap : isBlank (blurChar c) = true := by rw [isBlank_blurChar, other]
      exact iff_of_false (apart _ gap) (apart _ other)

theorem keyword?_blur {keyword : Text} (letters : keyword.all (!isBlank ·) = true) (s : Text) :
    keyword? keyword s.blur = (keyword? keyword s).map Text.blur := by
  induction keyword generalizing s with
  | nil => rfl
  | cons letter keyword ih =>
      simp only [List.all_cons, Bool.and_eq_true, Bool.not_eq_true'] at letters
      cases s with
      | nil => rfl
      | cons c s =>
          simp only [blur_cons, keyword?, foldCase_eq_blurChar_iff letters.1,
            ih (by simpa using letters.2)]
          split <;> rfl

theorem keywords?_blur {keywords : List Text}
    (letters : keywords.all (·.all (!isBlank ·)) = true) (s : Text) :
    keywords? keywords s.blur = (keywords? keywords s).map Text.blur := by
  induction keywords generalizing s with
  | nil => rfl
  | cons keyword keywords ih =>
      simp only [List.all_cons, Bool.and_eq_true] at letters
      cases keywords with
      | nil => exact keyword?_blur (by simpa using letters.1) s
      | cons second others =>
          simp only [keywords?, keyword?_blur letters.1, Option.bind_eq_bind]
          cases keyword? keyword s with
          | none => rfl
          | some after =>
              simp only [Option.map_some, Option.bind_some, blanks?_blur]
              cases blanks? after with
              | none => rfl
              | some next => exact ih letters.2 next

end Readings

section Patterns

variable {α : Type}

def Piece.blur (view : α → α) : Piece α → Piece α
  | .plain c => .plain (blurChar c)
  | .found value => .found (view value)

namespace Pattern

/-- The pattern occurs in a blurred text where it occurs in the text. -/
def Blind (p : Pattern α) (view : α → α) : Prop :=
  ∀ before s, p.read? (before.map blurChar) s.blur =
    (p.read? before s).map fun (value, rest) => (view value, rest.blur)

variable {p : Pattern α} {view : α → α}

theorem scan_blur (blind : p.Blind view) (before : Option Char) (s : Text) :
    p.scan (before.map blurChar) s.blur = (p.scan before s).map (Piece.blur view) := by
  fun_induction p.scan before s with
  | case1 => simp [scan]
  | case2 before c tail absent ih =>
      have absent' := blind before (c :: tail)
      rw [absent, blur_cons] at absent'
      rw [blur_cons, p.scan_cons_of_none absent', List.map_cons, ← ih]
      rfl
  | case3 before c tail value rest found ih =>
      have found' := blind before (c :: tail)
      rw [found, blur_cons] at found'
      rw [blur_cons, p.scan_cons_of_some found', List.map_cons, ← ih]
      rfl

theorem find?_blur (blind : p.Blind view) (before : Option Char) (s : Text) :
    p.find? (before.map blurChar) s.blur =
      (p.find? before s).map fun (skipped, value, rest) =>
        (skipped.blur, view value, rest.blur) := by
  induction s generalizing before with
  | nil => rfl
  | cons c tail ih =>
      have here := blind before (c :: tail)
      rw [blur_cons] at here
      have later := ih (some c)
      rw [Option.map_some] at later
      -- The blurred text is read just as the text is, so the same character is skipped.
      cases found : p.read? before (c :: tail) with
      | none =>
          rw [found] at here
          simp only [blur_cons, find?, here, found, later, Option.map_none, Option.map_map]
          rfl
      | some result =>
          rw [found] at here
          simp only [blur_cons, find?, here, found, Option.map_some, blur_nil]

theorem erase_blur (blind : p.Blind view) (s : Text) : p.erase s.blur = (p.erase s).blur := by
  have scanned := scan_blur blind none s
  rw [Option.map_none] at scanned
  rw [erase, erase, scanned, List.filterMap_map, Text.blur, List.map_filterMap]
  congr 1
  funext piece
  cases piece <;> rfl

theorem split_blur (blind : p.Blind view) (s : Text) :
    p.split s.blur = (p.split s).map Text.blur := by
  have scanned := scan_blur blind none s
  rw [Option.map_none] at scanned
  rw [split, split, scanned]
  generalize p.scan none s = pieces
  induction pieces with
  | nil => rfl
  | cons piece pieces ih =>
      rw [List.map_cons, List.foldr_cons, ih, List.foldr_cons]
      cases piece with
      | found value => rfl
      | plain c => cases pieces.foldr split.cut [[]] <;> rfl

end Pattern

end Patterns

end QueryConditions
