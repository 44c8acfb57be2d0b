import QueryConditions.Text.Word

/-!
Patterns and their occurrences. A pattern is read at a place in a text and may look
at the character before it. `scan` goes from left to right and takes every
occurrence that does not overlap the one before; `find?` stops at the first. What
follows an occurrence is scanned as a text of its own, with nothing before it.
-/

namespace QueryConditions

structure Pattern (α : Type) where
  /-- Reads an occurrence, given the character before it. -/
  read? : Option Char → Text → Option (α × Text)
  follows : ∀ {before s value rest}, read? before s = some (value, rest) → Follows rest s

inductive Piece (α : Type) where
  | plain (c : Char)
  | found (value : α)
  deriving DecidableEq

variable {α : Type}

def Piece.char? : Piece α → Option Char
  | .plain c => some c
  | .found _ => none

def Piece.value? : Piece α → Option α
  | .plain _ => none
  | .found value => some value

namespace Pattern

def scan (p : Pattern α) (before : Option Char) (s : Text) : List (Piece α) :=
  match s with
  | [] => []
  | c :: tail =>
      match _ : p.read? before (c :: tail) with
      | none => .plain c :: p.scan (some c) tail
      | some (value, rest) => .found value :: p.scan none rest
termination_by s.length
decreasing_by
  · simp
  · rename_i found
    exact (p.follows found).2

def find? (p : Pattern α) (before : Option Char) : Text → Option (Text × α × Text)
  | [] => none
  | c :: tail =>
      match p.read? before (c :: tail) with
      | some (value, rest) => some ([], value, rest)
      | none => (p.find? (some c) tail).map fun (skipped, found) => (c :: skipped, found)

def findAll (p : Pattern α) (s : Text) : List α := (p.scan none s).filterMap Piece.value?

def erase (p : Pattern α) (s : Text) : Text := (p.scan none s).filterMap Piece.char?

def split (p : Pattern α) (s : Text) : List Text :=
  (p.scan none s).foldr cut [[]]
where
  cut : Piece α → List Text → List Text
    | .found _, parts => [] :: parts
    | .plain c, part :: parts => (c :: part) :: parts
    | .plain c, [] => [[c]]

variable (p : Pattern α)

theorem scan_cons_of_none {before : Option Char} {c : Char} {tail : Text}
    (absent : p.read? before (c :: tail) = none) :
    p.scan before (c :: tail) = .plain c :: p.scan (some c) tail := by
  rw [scan]
  split
  · rfl
  · simp_all

theorem scan_cons_of_some {before : Option Char} {c : Char} {tail rest : Text} {value : α}
    (found : p.read? before (c :: tail) = some (value, rest)) :
    p.scan before (c :: tail) = .found value :: p.scan none rest := by
  rw [scan]
  split
  · simp_all
  · simp_all

theorem length_chars_le (before : Option Char) (s : Text) :
    ((p.scan before s).filterMap Piece.char?).length ≤ s.length := by
  fun_induction p.scan before s with
  | case1 => simp
  | case2 before c tail absent ih => simpa [Piece.char?] using ih
  | case3 before c tail value rest found ih =>
      have shorter := (p.follows found).2
      simp only [List.filterMap_cons, Piece.char?]
      omega

/-- Erasing changes a text only where it makes it shorter. -/
theorem length_erase_lt_of_ne {s : Text} (changed : p.erase s ≠ s) :
    (p.erase s).length < s.length := by
  unfold erase at changed ⊢
  generalize none = before at changed ⊢
  fun_induction p.scan before s with
  | case1 => exact absurd rfl changed
  | case2 before c tail absent ih =>
      simp only [List.filterMap_cons, Piece.char?] at changed ⊢
      have shorter := ih fun same => changed (by rw [same])
      simpa using shorter
  | case3 before c tail value rest found ih =>
      have shorter := (p.follows found).2
      have bound := p.length_chars_le none rest
      simp only [List.filterMap_cons, Piece.char?]
      omega

theorem find?_append {before : Option Char} {s skipped rest : Text} {value : α}
    (found : p.find? before s = some (skipped, value, rest)) :
    ∃ tail, s = skipped ++ tail ∧ Follows rest tail := by
  induction s generalizing before skipped with
  | nil => simp [find?] at found
  | cons c tail ih =>
      simp only [find?] at found
      split at found
      · next here =>
          cases found
          exact ⟨c :: tail, rfl, p.follows here⟩
      · obtain ⟨⟨skipped', value', rest'⟩, later, same⟩ := Option.map_eq_some_iff.1 found
        cases same
        obtain ⟨tail', rfl, follows⟩ := ih later
        exact ⟨tail', rfl, follows⟩

end Pattern

end QueryConditions
