import QueryConditions.Proofs.Text.Spellings
import QueryConditions.Query.Subquery

/-!
Balanced texts. The search for a closing parenthesis passes over a balanced text
without a trace, and the interior of a group is always one. Therefore a group is closed
at the same place whatever stands around it, and groups inside of it are closed there.
-/

namespace QueryConditions

inductive Balanced : Text → Prop
  | nil : Balanced []
  | char {c : Char} {s : Text} :
      c ≠ '(' → c ≠ ')' → Balanced s → Balanced (c :: s)
  | group {inside s : Text} :
      Balanced inside → Balanced s → Balanced ('(' :: (inside ++ ')' :: s))

/-- What stands before the parenthesis that closes `depth + 1` groups. -/
inductive Closing : Nat → Text → Prop
  | last {inside : Text} : Balanced inside → Closing 0 inside
  | next {depth : Nat} {inside rest : Text} :
      Balanced inside → Closing depth rest → Closing (depth + 1) (inside ++ ')' :: rest)

variable {s inside rest : Text} {depth : Nat}

theorem untilClose?_balanced (balanced : Balanced inside) (depth : Nat) (t : Text) :
    untilClose? depth (inside ++ t) =
      (untilClose? depth t).map fun (before, after) => (inside ++ before, after) := by
  induction balanced generalizing depth t with
  | nil => simp
  | char notOpen notClose _ ih =>
      simp only [List.cons_append, untilClose?, notOpen, notClose, if_false, ih, Option.map_map]
      rfl
  | group _ _ inner after =>
      have step : ('(' : Char) ≠ ')' := by decide
      simp only [List.cons_append, List.append_assoc, untilClose?, step, if_false, if_true, inner,
        after, Option.map_map]
      cases untilClose? depth t <;> simp

/-- The search ends inside of a text, or it goes on behind that text, at a depth that does not
depend on what stands there. -/
theorem untilClose?_append_cases (depth : Nat) (s : Text) :
    (∃ inside rest, rest <:+ s ∧ ∀ t, untilClose? depth (s ++ t) = some (inside, rest ++ t)) ∨
    ∃ deeper, ∀ t, untilClose? depth (s ++ t) =
      (untilClose? deeper t).map fun (before, after) => (s ++ before, after) := by
  induction s generalizing depth with
  | nil => exact .inr ⟨depth, fun t => by simp⟩
  | cons c s ih =>
      -- A character that does not end the search changes the depth at most.
      have pass (next : Nat) (step : ∀ u, untilClose? depth (c :: u) =
          (untilClose? next u).map fun (inside, after) => (c :: inside, after)) :
          (∃ inside rest, rest <:+ c :: s ∧
            ∀ t, untilClose? depth (c :: s ++ t) = some (inside, rest ++ t)) ∨
          ∃ deeper, ∀ t, untilClose? depth (c :: s ++ t) =
            (untilClose? deeper t).map fun (before, after) => (c :: s ++ before, after) := by
        rcases ih next with ⟨inside, rest, suffix, ends⟩ | ⟨deeper, goesOn⟩
        · refine .inl ⟨c :: inside, rest, suffix.trans (List.suffix_cons c s), fun t => ?_⟩
          rw [List.cons_append, step, ends]
          rfl
        · refine .inr ⟨deeper, fun t => ?_⟩
          rw [List.cons_append, step, goesOn, Option.map_map]
          rfl
      by_cases close : c = ')'
      · subst close
        cases depth with
        | zero => exact .inl ⟨[], s, List.suffix_cons _ s, fun t => by simp [untilClose?]⟩
        | succ outer => exact pass outer fun u => by simp [untilClose?]
      · by_cases opens : c = '('
        · exact pass (depth + 1) fun u => by simp [untilClose?, opens]
        · exact pass depth fun u => by simp [untilClose?, close, opens]

theorem group?_balanced (balanced : Balanced inside) (rest : Text) :
    group? ('(' :: (inside ++ ')' :: rest)) = some (inside, rest) := by
  simp [group?, untilClose?_balanced balanced, untilClose?]

theorem Closing.char {c : Char} (notOpen : c ≠ '(') (notClose : c ≠ ')')
    (closing : Closing depth s) : Closing depth (c :: s) := by
  cases closing with
  | last balanced => exact .last (.char notOpen notClose balanced)
  | next balanced closing => exact .next (.char notOpen notClose balanced) closing

theorem Closing.group (closing : Closing (depth + 1) s) : Closing depth ('(' :: s) := by
  cases closing with
  | next inner closing =>
      cases closing with
      | last balanced => exact .last (.group inner balanced)
      | next balanced closing =>
          have grouped := Closing.next (.group inner balanced) closing
          simpa using grouped

theorem closing_of_untilClose? (found : untilClose? depth s = some (inside, rest)) :
    Closing depth inside := by
  induction s generalizing depth inside with
  | nil => simp [untilClose?] at found
  | cons c tail ih =>
      simp only [untilClose?] at found
      split at found
      · next close =>
          subst close
          cases depth with
          | zero =>
              cases found
              exact .last .nil
          | succ outer =>
              obtain ⟨⟨inside', rest'⟩, later, same⟩ := Option.map_eq_some_iff.1 found
              cases same
              exact Closing.next .nil (ih later)
      · next notClose =>
          split at found
          · next opens =>
              subst opens
              obtain ⟨⟨inside', rest'⟩, later, same⟩ := Option.map_eq_some_iff.1 found
              cases same
              exact (ih later).group
          · next notOpen =>
              obtain ⟨⟨inside', rest'⟩, later, same⟩ := Option.map_eq_some_iff.1 found
              cases same
              exact (ih later).char notOpen notClose

theorem group?_eq_some_iff :
    group? s = some (inside, rest) ↔ Balanced inside ∧ s = '(' :: (inside ++ ')' :: rest) := by
  constructor
  · intro found
    refine ⟨?_, by simpa using group?_append found⟩
    unfold group? at found
    split at found
    · cases closing_of_untilClose? found with
      | last balanced => exact balanced
    · simp at found
  · rintro ⟨balanced, rfl⟩
    exact group?_balanced balanced rest

/-- Every group that opens in a balanced text is closed there. -/
theorem Balanced.group_of_suffix {t : Text} (balanced : Balanced s) (suffix : '(' :: t <:+ s) :
    ∃ inside rest, Balanced inside ∧ t = inside ++ ')' :: rest := by
  have apart : ('(' : Char) ≠ ')' := by decide
  induction balanced generalizing t with
  | nil => simp at suffix
  | char notOpen _ _ ih =>
      rcases List.suffix_cons_iff.1 suffix with same | suffix
      · exact absurd (List.cons.inj same).1.symm notOpen
      · exact ih suffix
  | @group inner s balanced _ ihInner ihRest =>
      rcases List.suffix_cons_iff.1 suffix with same | ⟨left, whole⟩
      · exact ⟨inner, s, balanced, (List.cons.inj same).2⟩
      -- The text begins inside of the group or behind it, for it does not begin with `)`.
      · rcases List.append_eq_append_iff.1 whole with ⟨start, inside, last⟩ | ⟨start, _, last⟩
        · cases start with
          | nil => exact absurd (List.cons.inj last).1 apart
          | cons d start =>
              obtain ⟨rfl, rfl⟩ := List.cons.inj last
              obtain ⟨deeper, rest, balanced', rfl⟩ := ihInner ⟨left, inside.symm⟩
              exact ⟨deeper, rest ++ ')' :: s, balanced', by simp⟩
        · cases start with
          | nil => exact absurd (List.cons.inj last).1.symm apart
          | cons d start => exact ihRest ⟨start, (List.cons.inj last).2.symm⟩

/-- A parenthesis, blanks or none, SELECT in some letter case, and no more of a word. -/
def OpensSubquery (s : Text) : Prop :=
  ∃ gap word rest, s = '(' :: (gap ++ (word ++ rest)) ∧ gap.all isBlank = true ∧
    Spells "SELECT".toList word ∧ wordEnds rest = true

theorem opensSubquery_iff : opensSubquery s = true ↔ OpensSubquery s := by
  have some_letter : "SELECT".toList ≠ [] := by decide
  have solid : "SELECT".toList.all (!isBlank ·) = true := by decide
  constructor
  · intro opens
    unfold opensSubquery at opens
    split at opens
    · next t =>
        split at opens
        · next rest read =>
            rcases keyword?_eq_some_iff.1 read with ⟨word, spells, whole⟩
            refine ⟨t.takeWhile isBlank, word, rest, ?_, List.all_takeWhile, spells, opens⟩
            rw [← whole, Text.skipBlanks, List.takeWhile_append_dropWhile]
        · contradiction
    · contradiction
  · rintro ⟨gap, word, rest, rfl, blanks, spells, ends⟩
    rcases head?_of_spells some_letter solid spells with ⟨c, tail, rfl, first⟩
    have skipped : Text.skipBlanks (gap ++ (c :: tail ++ rest)) = c :: tail ++ rest :=
      skipBlanks_append blanks (by simpa using first)
    have read : keyword? "SELECT".toList (c :: tail ++ rest) = some rest :=
      keyword?_eq_some_iff.2 ⟨c :: tail, spells, rfl⟩
    simp only [opensSubquery, skipped, read, ends]

instance (s : Text) : Decidable (OpensSubquery s) := decidable_of_iff _ opensSubquery_iff

def OpensAt (sql : Text) (start : Nat) : Prop := ∃ rest ∈ sql.dropBytes? start, OpensSubquery rest

instance (sql : Text) (start : Nat) : Decidable (OpensAt sql start) :=
  decidable_of_iff ((sql.dropBytes? start).any (OpensSubquery ·) = true) (by
    simp only [Option.any_eq_true, decide_eq_true_eq]
    rfl)

theorem opensAt_iff {sql : Text} {start : Nat} (here : sql.dropBytes? start = some s) :
    OpensAt sql start ↔ opensSubquery s = true := by
  simp [OpensAt, here, opensSubquery_iff]

/-- Whether a group opens with SELECT is settled before the next parenthesis. -/
theorem opensSubquery_append_stop {c : Char} (blank : isBlank c = false) (word : isWord c = false)
    (inside rest : Text) :
    opensSubquery ('(' :: (inside ++ c :: rest)) = opensSubquery ('(' :: inside) := by
  have letters : "SELECT".toList.all isWord = true := by decide
  simp only [opensSubquery, skipBlanks_append_stop blank, keyword?_append_stop letters word]
  cases keyword? "SELECT".toList (Text.skipBlanks inside) with
  | none => rfl
  | some after => exact wordEnds_append_stop word after rest

theorem subquery?_balanced (balanced : Balanced inside) (rest : Text) :
    subquery? ('(' :: (inside ++ ')' :: rest)) =
      if opensSubquery ('(' :: inside) then some (inside, rest) else none := by
  rw [subquery?, opensSubquery_append_stop (by decide) (by decide), group?_balanced balanced]

theorem subquery?_eq_some (found : subquery? s = some (inside, rest)) :
    Balanced inside ∧ s = '(' :: (inside ++ ')' :: rest) := by
  unfold subquery? at found
  split at found
  · exact group?_eq_some_iff.1 found
  · simp at found

theorem opensSubquery_cons_of_ne {c : Char} (notOpen : c ≠ '(') (s : Text) :
    opensSubquery (c :: s) = false := by
  unfold opensSubquery
  split
  · next shape =>
      cases shape
      exact absurd rfl notOpen
  · rfl

theorem eq_open_of_opensSubquery {c : Char} (opens : opensSubquery (c :: s) = true) :
    c = '(' := by
  by_cases parenthesis : c = '('
  · exact parenthesis
  · rw [opensSubquery_cons_of_ne parenthesis] at opens
    contradiction

theorem subquery?_cons_of_ne {c : Char} (notOpen : c ≠ '(') (s : Text) :
    subquery? (c :: s) = none := by
  simp [subquery?, opensSubquery_cons_of_ne notOpen]

end QueryConditions
