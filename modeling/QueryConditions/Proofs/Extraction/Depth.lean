import Mathlib.Order.Bounds.Basic
import QueryConditions.Proofs.Extraction.Outermost
import QueryConditions.Proofs.Text.Bytes

/-!
Groups by counting. The search for the end of a group is a counter of the groups that are open,
which starts anew at every parenthesis. It is never below zero, and a group ends where it is
zero for the first time. A counter that starts inside of a group is always lower than that of
the group by the same number, so that it is zero before: groups never overlap in part.
-/

namespace QueryConditions

def openByte : UInt8 := Char.toUInt8 '('

def closeByte : UInt8 := Char.toUInt8 ')'

def countByte (depth : ℤ) (b : UInt8) : ℤ :=
  if b = openByte then depth + 1 else if b = closeByte then depth - 1 else depth

def depthBehind (bytes : List UInt8) : ℤ := bytes.foldl countByte 0

def Text.bytesThrough (s : Text) (start stop : Nat) : List UInt8 :=
  (s.bytes.drop start).take (stop + 1 - start)

/-- The offsets behind a first one through which as many parentheses close as open. -/
def evenStops (s : Text) (start : Nat) : Set Nat :=
  {stop | start < stop ∧ stop < s.byteLength ∧
    (s.bytesThrough start stop).count closeByte = (s.bytesThrough start stop).count openByte}

variable {s inside rest : Text} {start stop close depth : Nat}

section Counter

theorem isAscii_open : IsAscii '(' := by decide

theorem isAscii_close : IsAscii ')' := by decide

theorem foldl_countByte (bytes : List UInt8) (depth : ℤ) :
    bytes.foldl countByte depth = depth + bytes.count openByte - bytes.count closeByte := by
  have apart : closeByte ≠ openByte := by decide
  induction bytes generalizing depth with
  | nil => simp
  | cons b bytes ih =>
      rw [List.foldl_cons, ih, List.count_cons, List.count_cons, countByte]
      by_cases opens : b = openByte
      · subst opens
        simp [apart.symm]
        omega
      · by_cases closes : b = closeByte
        · subst closes
          simp [apart]
          omega
        · simp [opens, closes]

theorem depthBehind_eq (bytes : List UInt8) :
    depthBehind bytes = bytes.count openByte - bytes.count closeByte := by
  rw [depthBehind, foldl_countByte, Int.zero_add]

theorem Balanced.count_eq (balanced : Balanced s) : s.count ')' = s.count '(' := by
  induction balanced with
  | nil => rfl
  | char notOpen notClose _ ih => simp [notOpen, notClose, ih]
  | group _ _ inner after =>
      simp [List.count_append, inner, after]
      omega

/-- Behind a part in which the group is not closed, the search goes on with as many open groups
more as the part opens, and as many less as it closes. -/
theorem untilClose?_passes {part : Text} (depth : Nat) (rest : Text)
    (unclosed : ∀ inside after, untilClose? depth (part ++ rest) = some (inside, after) →
      part <+: inside) :
    ∃ deeper, deeper + part.count ')' = depth + part.count '(' ∧
      untilClose? depth (part ++ rest) =
        (untilClose? deeper rest).map fun (inside, after) => (part ++ inside, after) := by
  induction part generalizing depth with
  | nil => exact ⟨depth, rfl, by simp⟩
  | cons c part ih =>
      -- One character moves the search to a next depth, and the rest of the part on from there.
      have pass (next : Nat) (count : next + [c].count ')' = depth + [c].count '(')
          (step : ∀ u, untilClose? depth (c :: u) =
            (untilClose? next u).map fun (inside, after) => (c :: inside, after)) :
          ∃ deeper, deeper + (c :: part).count ')' = depth + (c :: part).count '(' ∧
            untilClose? depth (c :: part ++ rest) =
              (untilClose? deeper rest).map fun (inside, after) => (c :: part ++ inside, after) := by
        have later : ∀ inside after, untilClose? next (part ++ rest) = some (inside, after) →
            part <+: inside := by
          intro inside after found
          have whole := unclosed (c :: inside) after (by rw [List.cons_append, step, found]; rfl)
          exact (List.prefix_cons_inj c).1 whole
        rcases ih next later with ⟨deeper, counts, goesOn⟩
        refine ⟨deeper, ?_, ?_⟩
        · rw [← List.singleton_append, List.count_append, List.count_append]
          omega
        · rw [List.cons_append, step, goesOn, Option.map_map]
          rfl
      by_cases closes : c = ')'
      · subst closes
        cases depth with
        | zero =>
            have ended := unclosed [] (part ++ rest) (by simp [untilClose?])
            simp at ended
        | succ outer => exact pass outer (by simp) fun u => by simp [untilClose?]
      · by_cases opens : c = '('
        · subst opens
          exact pass (depth + 1) (by simp) fun u => by simp [untilClose?]
        · exact pass depth (by simp [closes, opens]) fun u => by simp [untilClose?, closes, opens]

end Counter

section Counting

theorem bytes_open (s : Text) : Text.bytes ('(' :: s) = openByte :: s.bytes := by
  rw [bytes_cons, utf8EncodeChar_ascii isAscii_open]
  rfl

theorem bytesThrough_eq (before t : Text) (low : before.byteLength ≤ stop) :
    (before ++ '(' :: t).bytesThrough before.byteLength stop =
      openByte :: t.bytes.take (stop - before.byteLength) := by
  rw [Text.bytesThrough, bytes_append, ← length_bytes before, List.drop_left, bytes_open,
    length_bytes, Nat.add_comm stop 1, Nat.add_sub_assoc low, Nat.add_comm 1, List.take_succ_cons]

/-- As long as a group is not closed, more parentheses open in it than close. -/
theorem count_lt_of_unclosed (here : s.bytes[start]? = some openByte) (low : start ≤ stop)
    (unclosed : ∀ close, matchingParen? s start = some close → stop < close) :
    (s.bytesThrough start stop).count closeByte < (s.bytesThrough start stop).count openByte := by
  rcases (getElem?_bytes_eq_some_iff isAscii_open).1 here with ⟨before, t, rfl, rfl⟩
  rcases exists_prefix_of_take t (stop - before.byteLength) with ⟨part, ⟨rest, rfl⟩, bound, counts⟩
  have ends : ∀ inside after, untilClose? 0 (part ++ rest) = some (inside, after) →
      part <+: inside := by
    intro inside after found
    have whole := untilClose?_append found
    have closed : matchingParen? (before ++ '(' :: (part ++ rest)) before.byteLength =
        some (before.byteLength + 1 + inside.byteLength) := by
      rw [matchingParen?, dropBytes?_byteLength]
      simp [group?, found]
    have behind := unclosed _ closed
    rcases List.append_eq_append_iff.1 whole with ⟨more, rfl, _⟩ | ⟨more, rfl, tail⟩
    · exact List.prefix_append part more
    · cases more with
      | nil => simp
      | cons c more =>
          -- The part would hold the closing parenthesis as well.
          have size := Char.utf8Size_pos c
          rw [Text.byteLength_append, Text.byteLength_cons] at bound
          omega
  rcases untilClose?_passes 0 rest ends with ⟨deeper, depth, _⟩
  rw [bytesThrough_eq before _ low, List.count_cons_self,
    List.count_cons_of_ne (by decide : openByte ≠ closeByte)]
  have opened := counts '(' isAscii_open
  have closed := counts ')' isAscii_close
  rw [← openByte] at opened
  rw [← closeByte] at closed
  omega

theorem openByte_of_matchingParen? (closed : matchingParen? s start = some close) :
    s.bytes[start]? = some openByte := by
  rcases matchingParen?_eq_some_iff.1 closed with ⟨before, interior, after, rfl, _, rfl, _⟩
  exact (getElem?_bytes_eq_some_iff isAscii_open).2 ⟨before, _, rfl, rfl⟩

theorem closeByte_of_matchingParen? (closed : matchingParen? s start = some close) :
    s.bytes[close]? = some closeByte := by
  rcases matchingParen?_eq_some_iff.1 closed with ⟨before, interior, after, rfl, _, rfl, rfl⟩
  refine (getElem?_bytes_eq_some_iff isAscii_close).2 ⟨before ++ '(' :: interior, after, ?_, ?_⟩
  · simp
  · rw [Text.byteLength_append, Text.byteLength_cons, utf8Size_ascii isAscii_open, Nat.add_assoc]

theorem mem_evenStops_of_matchingParen? (closed : matchingParen? s start = some close) :
    close ∈ evenStops s start := by
  have last := closeByte_of_matchingParen? closed
  rcases matchingParen?_eq_some_iff.1 closed with
    ⟨before, interior, after, rfl, balanced, rfl, rfl⟩
  refine ⟨by omega, ?_, ?_⟩
  · have bound := (List.getElem?_eq_some_iff.1 last).1
    rwa [length_bytes] at bound
  · have through : Text.bytes (interior ++ [')']) =
        (Text.bytes (interior ++ ')' :: after)).take (1 + interior.byteLength) := by
      have size : (Text.bytes (interior ++ [')'])).length = 1 + interior.byteLength := by
        rw [length_bytes, Text.byteLength_append, Text.byteLength_cons,
          utf8Size_ascii isAscii_close, Text.byteLength_nil, Nat.add_comm]
      have whole : interior ++ ')' :: after = interior ++ [')'] ++ after := by simp
      rw [whole, bytes_append _ after, ← size, List.take_left]
    rw [bytesThrough_eq _ _ (by omega), Nat.add_assoc, Nat.add_sub_cancel_left, ← through,
      ← bytes_open, closeByte, openByte, count_bytes isAscii_close, count_bytes isAscii_open]
    exact (Balanced.group balanced .nil).count_eq

theorem count_lt_of_matchingParen? (closed : matchingParen? s start = some close)
    (low : start ≤ stop) (high : stop < close) :
    (s.bytesThrough start stop).count closeByte < (s.bytesThrough start stop).count openByte := by
  refine count_lt_of_unclosed (openByte_of_matchingParen? closed) low fun close' closed' => ?_
  rw [closed] at closed'
  cases closed'
  exact high

theorem isLeast_of_matchingParen? (closed : matchingParen? s start = some close) :
    IsLeast (evenStops s start) close := by
  refine ⟨mem_evenStops_of_matchingParen? closed, ?_⟩
  rintro stop ⟨low, _, even⟩
  by_contra before
  have more := count_lt_of_matchingParen? closed (by omega) (Nat.lt_of_not_le before)
  omega

theorem matchingParen?_iff_isLeast : matchingParen? s start = some close ↔
    s.bytes[start]? = some openByte ∧ IsLeast (evenStops s start) close := by
  constructor
  · intro closed
    exact ⟨openByte_of_matchingParen? closed, isLeast_of_matchingParen? closed⟩
  · rintro ⟨here, least⟩
    cases found : matchingParen? s start with
    | none =>
        rcases least.1 with ⟨low, _, even⟩
        have open_still : ∀ close', matchingParen? s start = some close' → close < close' := by
          simp [found]
        have more := count_lt_of_unclosed here (by omega) open_still
        omega
    | some close' => rw [(isLeast_of_matchingParen? found).unique least]

end Counting

section Nesting

variable {first second firstClose secondClose : Nat}

theorem bytesThrough_split (s : Text) (before : first < second) (behind : second ≤ stop) :
    s.bytesThrough first stop =
      s.bytesThrough first (second - 1) ++ s.bytesThrough second stop := by
  have lengths : stop + 1 - first = (second - 1 + 1 - first) + (stop + 1 - second) := by omega
  have places : first + (second - 1 + 1 - first) = second := by omega
  rw [Text.bytesThrough, lengths, List.take_add, List.drop_drop, places]
  rfl

/-- Two groups never end at the same parenthesis. -/
theorem start_unique (closed : matchingParen? s first = some close)
    (closed' : matchingParen? s second = some close) : first = second := by
  -- What one counter has counted before the other one starts is more than zero.
  have apart {outer inner : Nat} (around : matchingParen? s outer = some close)
      (within : matchingParen? s inner = some close) : ¬ outer < inner := by
    intro before
    rcases mem_evenStops_of_matchingParen? around with ⟨_, _, even⟩
    rcases mem_evenStops_of_matchingParen? within with ⟨low, _, even'⟩
    rw [bytesThrough_split s before (by omega), List.count_append, List.count_append] at even
    have more := count_lt_of_matchingParen? around (by omega : outer ≤ inner - 1) (by omega)
    omega
  have one := apart closed closed'
  have other := apart closed' closed
  omega

/-- Every parenthesis that opens strictly inside of a group is closed strictly inside. -/
theorem closes_strictly_within (closed : matchingParen? s first = some firstClose)
    (low : first < second) (high : second < firstClose)
    (here : s.bytes[second]? = some openByte) :
    ∃ close, matchingParen? s second = some close ∧ second < close ∧ close < firstClose := by
  rcases (getElem?_bytes_eq_some_iff isAscii_open).1 here with ⟨before, t, rfl, rfl⟩
  rcases closes_within closed (dropBytes?_byteLength before ('(' :: t)) (by omega) (by omega) with
    ⟨close, bound, closed'⟩
  refine ⟨close, closed', (mem_evenStops_of_matchingParen? closed').1, ?_⟩
  rcases Nat.lt_or_eq_of_le bound with strict | same
  · exact strict
  · have shared := start_unique closed (same ▸ closed')
    omega

theorem disjoint_or_nested (before : first < second)
    (closed : matchingParen? s first = some firstClose)
    (closed' : matchingParen? s second = some secondClose) :
    firstClose < second ∨ secondClose < firstClose := by
  rcases Nat.lt_trichotomy firstClose second with behind | same | inside
  · exact .inl behind
  · -- One byte is not both parentheses.
    have opens := openByte_of_matchingParen? closed'
    rw [← same, closeByte_of_matchingParen? closed] at opens
    exact absurd (Option.some.inj opens) (by decide)
  · rcases closes_strictly_within closed before inside (openByte_of_matchingParen? closed') with
      ⟨close, found, _, bound⟩
    rw [closed'] at found
    cases found
    exact .inr bound

/-- A group ends where the counter is zero for the first time, which is at a closing parenthesis;
the counter is above zero before and never below it. Groups are apart or one is inside of the
other, and what opens inside of a group is closed there. -/
theorem groups_by_counting (s : Text) :
    (∀ start close, matchingParen? s start = some close ↔
      s.bytes[start]? = some openByte ∧ IsLeast (evenStops s start) close) ∧
    (∀ start close, matchingParen? s start = some close →
      s.bytes[close]? = some closeByte ∧ ∀ stop, start ≤ stop → stop < close →
        (s.bytesThrough start stop).count closeByte <
          (s.bytesThrough start stop).count openByte) ∧
    (∀ start stop, s.bytes[start]? = some openByte → start ≤ stop →
      (∀ close, matchingParen? s start = some close → stop ≤ close) →
        0 ≤ depthBehind (s.bytesThrough start stop)) ∧
    (∀ first second firstClose secondClose, first < second →
      matchingParen? s first = some firstClose → matchingParen? s second = some secondClose →
        firstClose < second ∨ secondClose < firstClose) ∧
    (∀ first second close, matchingParen? s first = some close →
      matchingParen? s second = some close → first = second) ∧
    (∀ first firstClose second, matchingParen? s first = some firstClose →
      first < second → second < firstClose → s.bytes[second]? = some openByte →
        ∃ close, matchingParen? s second = some close ∧ second < close ∧ close < firstClose) := by
  refine ⟨fun _ _ => matchingParen?_iff_isLeast, ?_, ?_, fun _ _ _ _ => disjoint_or_nested,
    fun _ _ _ => start_unique, fun _ _ _ => closes_strictly_within⟩
  · intro start close closed
    exact ⟨closeByte_of_matchingParen? closed, fun stop => count_lt_of_matchingParen? closed⟩
  · intro start stop here low until_close
    rw [depthBehind_eq]
    -- At the end of the group as many are closed as opened, and before it fewer.
    by_cases ends : matchingParen? s start = some stop
    · rcases mem_evenStops_of_matchingParen? ends with ⟨_, _, even⟩
      omega
    · have more := count_lt_of_unclosed here low fun close closed => by
        have bound := until_close close closed
        rcases Nat.lt_or_eq_of_le bound with strict | rfl
        · exact strict
        · exact absurd closed ends
      omega

theorem groups_by_counting_unclosed :
    let s : Text := "(é(a)(ü(b))(".toList
    matchingParen? s 0 = none ∧ 0 ≤ depthBehind (s.bytesThrough 0 13) ∧
      IsLeast (evenStops s 6) 12 ∧
        ∃ close, matchingParen? s 9 = some close ∧ 9 < close ∧ close < 12 := by
  rcases groups_by_counting "(é(a)(ü(b))(".toList with ⟨least, _, counter, _, _, inside⟩
  have unclosed : matchingParen? "(é(a)(ü(b))(".toList 0 = none := by decide +kernel
  have whole : matchingParen? "(é(a)(ü(b))(".toList 6 = some 12 := by decide +kernel
  refine ⟨unclosed, counter 0 13 (by decide +kernel) (by decide) ?_, ((least 6 12).1 whole).2,
    inside 6 12 9 whole (by decide) (by decide) (by decide +kernel)⟩
  intro close closed
  rw [unclosed] at closed
  contradiction

end Nesting

end QueryConditions
