import Mathlib.Data.List.Induction
import QueryConditions.Proofs.Text.Stops

/-!
Which occurrences a scan takes. Occurrences can overlap, and the scan goes on behind each one
that it takes: it reaches a place unless an occurrence that begins before, and that it reaches,
goes over the place. What it takes behind a place does not depend on what stands before it.
-/

namespace QueryConditions

namespace Pattern

variable {α : Type} {p : Pattern α} {value : α} {s left start part rest after : Text} {c : Char}

/-- The scan of the text comes to the place between the two parts. -/
inductive Reaches (p : Pattern α) (s : Text) : Text → Text → Prop
  | start : Reaches p s [] s
  | plain {left rest : Text} {c : Char} : Reaches p s left (c :: rest) →
      p.read? left.getLast? (c :: rest) = none → Reaches p s (left ++ [c]) rest
  | found {left part rest : Text} {value : α} : Reaches p s left (part ++ rest) →
      p.read? left.getLast? (part ++ rest) = some (value, rest) → Reaches p s (left ++ part) rest

/-- An occurrence that begins before the part goes over it and further. -/
def GoesOver (p : Pattern α) (start part rest : Text) : Prop :=
  ∃ value after, p.read? start.getLast? (part ++ rest) = some (value, after) ∧
    after.length < rest.length

def Swallowed (p : Pattern α) (left rest : Text) : Prop :=
  ∃ start part, ∃ _ : left = start ++ part ∧ part ≠ [],
    p.GoesOver start part rest ∧ ¬ p.Swallowed start (part ++ rest)
termination_by left.length
decreasing_by
  rename_i cut
  have longer := List.length_pos_iff.2 cut.2
  rw [cut.1, List.length_append]
  omega

/-- What stands before the text behind an occurrence does not matter there. -/
def Settled (p : Pattern α) : Prop :=
  ∀ {before s value rest}, p.read? before s = some (value, rest) →
    ∀ other, p.read? other rest = p.read? none rest

theorem ne_nil_of_read? {before : Option Char} (read : p.read? before s = some (value, rest)) :
    s ≠ [] := by
  rintro rfl
  rw [p.read?_nil] at read
  contradiction

theorem part_ne_nil {before : Option Char}
    (read : p.read? before (part ++ rest) = some (value, rest)) : part ≠ [] := by
  rintro rfl
  exact absurd (p.follows read).2 (Nat.lt_irrefl _)

theorem scan_of_some {before : Option Char} (read : p.read? before s = some (value, rest)) :
    p.scan before s = .found value :: p.scan none rest := by
  rcases List.exists_cons_of_ne_nil (ne_nil_of_read? read) with ⟨c, tail, rfl⟩
  exact p.scan_cons_of_some read

theorem Reaches.scan_eq (settled : p.Settled) (reaches : p.Reaches s left rest) :
    ∃ earlier, p.scan none s = earlier ++ p.scan left.getLast? rest := by
  induction reaches with
  | start => exact ⟨[], rfl⟩
  | @plain left rest c _ absent ih =>
      obtain ⟨earlier, whole⟩ := ih
      refine ⟨earlier ++ [.plain c], ?_⟩
      rw [whole, p.scan_cons_of_none absent, List.getLast?_concat, List.append_assoc]
      rfl
  | @found left part rest value _ read ih =>
      obtain ⟨earlier, whole⟩ := ih
      refine ⟨earlier ++ [.found value], ?_⟩
      have same := p.scan_of_read? (settled read (left ++ part).getLast?)
      rw [whole, scan_of_some read, same, List.append_assoc]
      rfl

/-- An occurrence that goes over the part ends right behind it or further. -/
theorem reaches_or_over (reaches : p.Reaches s left (part ++ rest))
    (read : p.read? left.getLast? (part ++ rest) = some (value, after))
    (bound : after.length ≤ rest.length) :
    p.Reaches s (left ++ part) rest ∨ p.GoesOver left part rest := by
  rcases Nat.lt_or_eq_of_le bound with past | same
  · exact .inr ⟨value, after, read, past⟩
  · have suffix := List.suffix_of_suffix_length_le (p.follows read).1
      (List.suffix_append part rest) bound
    have behind : after = rest := suffix.eq_of_length same
    subst behind
    exact .inl (.found reaches read)

/-- The scan comes to every place or goes over it. -/
theorem reaches_or_goesOver (left rest : Text) : p.Reaches (left ++ rest) left rest ∨
    ∃ start part, left = start ++ part ∧ part ≠ [] ∧
      p.Reaches (left ++ rest) start (part ++ rest) ∧ p.GoesOver start part rest := by
  induction left using List.reverseRecOn generalizing rest with
  | nil => exact .inl .start
  | append_singleton left c ih =>
      rw [List.append_assoc, List.singleton_append]
      rcases ih (c :: rest) with reaches | ⟨start, part, rfl, _, reaches, value, after, read, past⟩
      · cases read : p.read? left.getLast? (c :: rest) with
        | none => exact .inl (.plain reaches read)
        | some result =>
            have bound := Nat.le_of_lt_succ (p.follows read).2
            rw [← List.singleton_append] at reaches read
            rcases reaches_or_over reaches read bound with reached | past
            · exact .inl reached
            · exact .inr ⟨left, [c], rfl, List.cons_ne_nil c [], reaches, past⟩
      · have longer : part ++ c :: rest = part ++ [c] ++ rest := by simp
        rw [longer] at reaches read
        rcases reaches_or_over reaches read (Nat.le_of_lt_succ past) with reached | past
        · exact .inl (by simpa using reached)
        · refine .inr ⟨start, part ++ [c], by simp, by simp, ?_, past⟩
          simpa using reaches

/-- Where the scan comes to a place and to one before, what it reads at the first one ends
before the second. -/
theorem Reaches.length_le (reaches : p.Reaches s left rest) (cut : left = start ++ part)
    (some_char : part ≠ []) (before : p.Reaches s start (part ++ rest))
    (read : p.read? start.getLast? (part ++ rest) = some (value, after)) :
    rest.length ≤ after.length := by
  -- By the length of the text before, as either place may be the one that the step goes back from.
  induction size : left.length using Nat.strongRecOn
    generalizing left rest start part value after with
  | _ size ih =>
  subst size
  cases reaches with
  | start => exact absurd (List.append_eq_nil_iff.1 cut.symm).2 some_char
  | @plain left _ c reaches absent =>
      rcases List.eq_nil_or_concat part with rfl | ⟨part, last, rfl⟩
      · exact absurd rfl some_char
      · rw [List.concat_eq_append, ← List.append_assoc] at cut
        obtain ⟨rfl, same⟩ := List.append_inj' cut rfl
        obtain rfl := (List.cons.inj same).1
        rw [List.concat_eq_append, List.append_assoc, List.singleton_append] at before read
        by_cases empty : part = []
        · subst empty
          rw [List.append_nil, ← List.nil_append (c :: rest), read] at absent
          contradiction
        · exact Nat.le_of_succ_le (ih _ (by simp) reaches rfl empty before read rfl)
  | @found left last _ value' reaches read' =>
      rcases List.append_eq_append_iff.1 cut with ⟨between, rfl, rfl⟩ | ⟨between, rfl, rfl⟩
      · by_cases empty : between = []
        · subst empty
          simp only [List.append_nil, List.nil_append] at read read'
          rw [read] at read'
          cases read'
          exact Nat.le_refl _
        · -- The place would stand within what is read before it.
          rw [List.append_assoc] at reaches read'
          have longer := List.length_pos_iff.2 some_char
          have within := ih _ (by simp [longer]) before rfl empty reaches read' rfl
          rw [List.length_append] at within
          omega
      · by_cases empty : between = []
        · subst empty
          simp only [List.append_nil, List.nil_append] at read read'
          rw [read] at read'
          cases read'
          exact Nat.le_refl _
        · rw [List.append_assoc] at before read
          have longer := List.length_pos_iff.2 (part_ne_nil read')
          have further := ih _ (by simp [longer]) reaches rfl empty before read rfl
          rw [List.length_append] at further
          omega

theorem reaches_iff_not_swallowed (left rest : Text) :
    p.Reaches (left ++ rest) left rest ↔ ¬ p.Swallowed left rest := by
  induction size : left.length using Nat.strongRecOn generalizing left rest with
  | _ size ih =>
  subst size
  have earlier {start part : Text} (cut : left = start ++ part) (some_char : part ≠ []) :
      p.Reaches (left ++ rest) start (part ++ rest) ↔ ¬ p.Swallowed start (part ++ rest) := by
    have longer := List.length_pos_iff.2 some_char
    rw [cut, List.append_assoc]
    exact ih _ (by simp [cut, longer]) start (part ++ rest) rfl
  constructor
  · intro reaches swallowed
    rw [Swallowed] at swallowed
    rcases swallowed with ⟨start, part, ⟨cut, some_char⟩, ⟨value, after, read, past⟩, kept⟩
    have before := (earlier cut some_char).2 kept
    exact Nat.not_lt_of_le (reaches.length_le cut some_char before read) past
  · intro kept
    rcases reaches_or_goesOver left rest with reaches | ⟨start, part, cut, some_char, before, past⟩
    · exact reaches
    · rw [Swallowed] at kept
      exact absurd ⟨start, part, ⟨cut, some_char⟩, past, (earlier cut some_char).1 before⟩ kept

/-- The first occurrence is not swallowed. -/
theorem not_swallowed_of_find? (first : p.find? none (left ++ s) = some (left, value, rest)) :
    ¬ p.Swallowed left s := by
  rcases p.find?_eq_some_iff.1 first with ⟨tail, whole, _, unread⟩
  obtain rfl := List.append_cancel_left whole
  rw [Swallowed]
  rintro ⟨start, part, ⟨cut, some_char⟩, ⟨other, after, read, _⟩, _⟩
  rw [unread start part cut some_char] at read
  contradiction

/-- What the first occurrence goes over is swallowed. -/
theorem swallowed_of_find?
    (first : p.find? none (start ++ (part ++ rest)) = some (start, value, after))
    (some_char : part ≠ []) (past : after.length < rest.length) :
    p.Swallowed (start ++ part) rest := by
  rcases p.find?_eq_some_iff.1 first with ⟨tail, whole, read, _⟩
  obtain rfl := List.append_cancel_left whole
  rw [Swallowed]
  exact ⟨start, part, ⟨rfl, some_char⟩, ⟨value, after, read, past⟩, not_swallowed_of_find? first⟩

/-- An occurrence is taken if it is not swallowed. -/
theorem findAll_of_not_swallowed (settled : p.Settled) (kept : ¬ p.Swallowed left s)
    (read : p.read? left.getLast? s = some (value, rest)) :
    ∃ earlier, p.findAll (left ++ s) = earlier ++ value :: p.findAll rest := by
  have reaches := (reaches_iff_not_swallowed left s).2 kept
  obtain ⟨earlier, whole⟩ := reaches.scan_eq settled
  refine ⟨earlier.filterMap Piece.value?, ?_⟩
  rw [findAll, whole, scan_of_some read, List.filterMap_append, List.filterMap_cons]
  rfl

/-- The occurrence that goes over a swallowed one is taken. -/
theorem Swallowed.findAll (settled : p.Settled) (swallowed : p.Swallowed left s) :
    ∃ start part value rest earlier, left = start ++ part ∧ part ≠ [] ∧
      p.read? start.getLast? (part ++ s) = some (value, rest) ∧ rest.length < s.length ∧
      p.findAll (left ++ s) = earlier ++ value :: p.findAll rest := by
  rw [Swallowed] at swallowed
  rcases swallowed with ⟨start, part, ⟨rfl, some_char⟩, ⟨value, rest, read, past⟩, kept⟩
  obtain ⟨earlier, whole⟩ := findAll_of_not_swallowed settled kept read
  rw [← List.append_assoc] at whole
  exact ⟨start, part, value, rest, earlier, rfl, some_char, read, past, whole⟩

theorem parts_of_find?_eq_none {before : Option Char} (absent : p.find? before s = none) :
    (p.scan before s).foldr split.cut [[]] = [s] := by
  induction s generalizing before with
  | nil => simp [scan]
  | cons c tail ih =>
      cases read : p.read? before (c :: tail) with
      | some result => simp [find?, read] at absent
      | none =>
          have later : p.find? (some c) tail = none := by simpa [find?, read] using absent
          rw [p.scan_cons_of_none read, List.foldr_cons, ih later]
          rfl

theorem parts_of_find? {before : Option Char}
    (first : p.find? before s = some (left, value, rest)) :
    (p.scan before s).foldr split.cut [[]] = left :: p.split rest := by
  induction s generalizing before left with
  | nil => simp [find?] at first
  | cons c tail ih =>
      cases read : p.read? before (c :: tail) with
      | some result =>
          have here : ([], result.1, result.2) = (left, value, rest) := by
            simpa [find?, read] using first
          cases here
          rw [p.scan_cons_of_some read, List.foldr_cons]
          rfl
      | none =>
          simp only [find?, read, Option.map_eq_some_iff, Prod.mk.injEq] at first
          obtain ⟨⟨skipped, found⟩, later, rfl, rfl⟩ := first
          rw [p.scan_cons_of_none read, List.foldr_cons, ih later]
          rfl

theorem split_of_find?_eq_none (absent : p.find? none s = none) : p.split s = [s] :=
  parts_of_find?_eq_none absent

/-- The first occurrence ends the first part, and the others are those of the text behind it. -/
theorem split_of_find? (first : p.find? none s = some (left, value, rest)) :
    p.split s = left :: p.split rest :=
  parts_of_find? first

end Pattern

end QueryConditions
