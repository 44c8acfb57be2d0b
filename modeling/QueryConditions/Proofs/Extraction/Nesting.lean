import QueryConditions.Extraction
import QueryConditions.Proofs.Query.Aliases
import QueryConditions.Proofs.Query.Balance
import Mathlib.Data.List.Perm.Basic

/-!
Where the scopes of a text stand. Subqueries are found anew inside of each subquery, yet
taken together they are the closed groups of the whole text that open with SELECT, each
once. Groups never overlap in part, so the order from the inside out is the order of the
closing parentheses, and the scope around a subquery is the nearest such group.
-/

namespace QueryConditions

section Spans

/-- The characters that begin within the first `length` bytes. -/
def Text.takeBytes : Nat → Text → Text
  | 0, _ => []
  | _ + 1, [] => []
  | length + 1, c :: s => c :: takeBytes (length + 1 - c.utf8Size) s

def Text.slice (s : Text) (start stop : Nat) : Text :=
  ((s.dropBytes? start).getD []).takeBytes (stop - start)

/-- Byte offsets of an opening parenthesis and of the one that closes it. -/
structure Span where
  start : Nat
  stop : Nat
  deriving DecidableEq

namespace Span

def encloses (outer inner : Span) : Bool :=
  outer.start < inner.start && inner.stop < outer.stop

theorem encloses_iff {outer inner : Span} :
    outer.encloses inner = true ↔ outer.start < inner.start ∧ inner.stop < outer.stop := by
  simp [encloses]

def at? (sql : Text) (start : Nat) : Option Span :=
  if OpensAt sql start then
    (matchingParen? sql start).map fun stop => ⟨start, stop⟩
  else none

def interior (sql : Text) (span : Span) : Text := sql.slice (span.start + 1) span.stop

end Span

def closedSubqueries (sql : Text) : List Span :=
  (List.range sql.byteLength).filterMap (Span.at? sql)

/-- The nearest span around another one, where spans are listed by their start. -/
def nearest? (spans : List Span) (span : Span) : Option Span :=
  (spans.filter (·.encloses span)).getLast?

theorem mem_of_nearest? {spans : List Span} {span around : Span}
    (found : nearest? spans span = some around) :
    around ∈ spans ∧ around.start < span.start := by
  have member := List.mem_filter.1 (List.mem_of_getLast? found)
  exact ⟨member.1, (Span.encloses_iff.1 member.2).1⟩

/-- The aliases of the nearest span around, or the outermost ones, and those of the span. -/
def aliasesAt (spans : List Span) (text : Span → Text) (outermost : Aliases) (span : Span) :
    Aliases :=
  match _ : nearest? spans span with
  | none => outermost.extend (Aliases.ofSql (text span))
  | some around => (aliasesAt spans text outermost around).extend (Aliases.ofSql (text span))
termination_by span.start
decreasing_by exact (mem_of_nearest? ‹_›).2

def scopeAt (sql : Text) (span : Span) : Scope :=
  ⟨span.interior sql,
    aliasesAt (closedSubqueries sql) (Span.interior sql) (Aliases.ofSql sql) span⟩

theorem aliasesAt_of_none {spans : List Span} {text : Span → Text} {outermost : Aliases}
    {span : Span} (alone : nearest? spans span = none) :
    aliasesAt spans text outermost span = outermost.extend (Aliases.ofSql (text span)) := by
  rw [aliasesAt]
  split
  · rfl
  · simp_all

theorem aliasesAt_of_some {spans : List Span} {text : Span → Text} {outermost : Aliases}
    {span around : Span} (found : nearest? spans span = some around) :
    aliasesAt spans text outermost span =
      (aliasesAt spans text outermost around).extend (Aliases.ofSql (text span)) := by
  rw [aliasesAt]
  split
  · simp_all
  · simp_all

end Spans

section Opening

def spanOf (start : Nat) (interior : Text) : Span := ⟨start, start + 1 + interior.byteLength⟩

def opened (start : Nat) : Text → List (Span × Text)
  | [] => []
  | c :: rest =>
      match subquery? (c :: rest) with
      | some (interior, _) =>
          (spanOf start interior, interior) :: opened (start + c.utf8Size) rest
      | none => opened (start + c.utf8Size) rest

theorem opened_cons_of_ne {c : Char} (notOpen : c ≠ '(') (start : Nat) (s : Text) :
    opened start (c :: s) = opened (start + c.utf8Size) s := by
  rw [opened, subquery?_cons_of_ne notOpen]

theorem byteLength_group (inside rest : Text) :
    Text.byteLength ('(' :: (inside ++ ')' :: rest)) = 1 + inside.byteLength + 1 + rest.byteLength := by
  have size : Char.utf8Size '(' = 1 := by decide
  have size' : Char.utf8Size ')' = 1 := by decide
  simp only [Text.byteLength_cons, Text.byteLength_append, size, size']
  omega

/-- A group in a balanced text is the same group whatever follows that text. -/
theorem opened_balanced {inside : Text} (balanced : Balanced inside) (start : Nat) (t : Text) :
    opened start (inside ++ t) =
      opened start inside ++ opened (start + inside.byteLength) t := by
  induction balanced generalizing start t with
  | nil => simp [opened]
  | char notOpen _ _ ih =>
      simp only [List.cons_append, opened_cons_of_ne notOpen, ih, Text.byteLength_cons,
        Nat.add_assoc]
  | @group inner s innerBalanced _ ihInner ihRest =>
      have close : (')' : Char) ≠ '(' := by decide
      have size : Char.utf8Size '(' = 1 := by decide
      have size' : Char.utf8Size ')' = 1 := by decide
      -- The interior is searched for groups whether or not the group around it is a subquery.
      have behind (u : Text) : opened (start + 1) (inner ++ ')' :: u) =
          opened (start + 1) inner ++ opened (start + 1 + inner.byteLength + 1) u := by
        rw [ihInner, opened_cons_of_ne close, size']
      have whole : start + Text.byteLength ('(' :: (inner ++ ')' :: s)) =
          start + 1 + inner.byteLength + 1 + s.byteLength := by
        rw [byteLength_group]
        omega
      rw [whole]
      simp only [List.cons_append, List.append_assoc, opened, subquery?_balanced innerBalanced,
        size, behind, ihRest]
      by_cases opening : opensSubquery ('(' :: inner) = true
      · simp [opening]
      · simp [opening]

theorem opened_bounds {start : Nat} {s : Text} {entry : Span × Text}
    (member : entry ∈ opened start s) :
    start ≤ entry.1.start ∧ entry.1.start < entry.1.stop ∧
      entry.1.stop < start + s.byteLength := by
  induction s generalizing start with
  | nil => simp [opened] at member
  | cons c rest ih =>
      -- What is opened further on has the bounds of the rest of the text.
      have later (member : entry ∈ opened (start + c.utf8Size) rest) :
          start ≤ entry.1.start ∧ entry.1.start < entry.1.stop ∧
            entry.1.stop < start + Text.byteLength (c :: rest) := by
        have bounds := ih member
        simp only [Text.byteLength_cons]
        omega
      rw [opened] at member
      split at member
      · next interior after found =>
          rcases List.mem_cons.1 member with rfl | member
          · rw [(subquery?_eq_some found).2, byteLength_group]
            simp only [spanOf]
            omega
          · exact later member
      · exact later member

end Opening

section Placed

def placed (start : Nat) : List Segment → List (Nat × Text)
  | [] => []
  | .plain c :: rest => placed (start + c.utf8Size) rest
  | .found interior :: rest =>
      (start, interior) :: placed (start + 1 + interior.byteLength + 1) rest

theorem placed_interiors (start : Nat) (segments : List Segment) :
    (placed start segments).map Prod.snd = segments.filterMap Piece.value? := by
  induction segments generalizing start with
  | nil => rfl
  | cons segment rest ih =>
      cases segment with
      | plain c => exact ih _
      | found interior => exact congrArg (interior :: ·) (ih _)

theorem placed_start_le {start : Nat} {segments : List Segment} {place : Nat × Text}
    (member : place ∈ placed start segments) : start ≤ place.1 := by
  induction segments generalizing start with
  | nil => simp [placed] at member
  | cons segment rest ih =>
      cases segment with
      | plain c => exact Nat.le_trans (Nat.le_add_right _ _) (ih member)
      | found interior =>
          rcases List.mem_cons.1 member with rfl | later
          · exact Nat.le_refl _
          · have bound := ih later
            omega

def Apart (first second : Nat × Text) : Prop :=
  first.1 + 1 + first.2.byteLength < second.1

theorem placed_apart (start : Nat) (segments : List Segment) :
    (placed start segments).Pairwise Apart := by
  induction segments generalizing start with
  | nil => exact List.Pairwise.nil
  | cons segment rest ih =>
      cases segment with
      | plain c => exact ih _
      | found interior =>
          refine List.pairwise_cons.2 ⟨?_, ih _⟩
          intro place member
          have bound := placed_start_le member
          exact bound

/-- A text's closed subqueries are its outermost ones and, behind each, those inside. -/
theorem opened_eq_flatMap_placed (before : Option Char) (start : Nat) (s : Text) :
    opened start s = (placed start (subqueries.scan before s)).flatMap fun place =>
      (spanOf place.1 place.2, place.2) :: opened (place.1 + 1) place.2 := by
  fun_induction subqueries.scan before s generalizing start with
  | case1 => rfl
  | case2 before c tail absent ih =>
      have none : subquery? (c :: tail) = none := absent
      simpa [opened, none, placed] using ih (start + c.utf8Size)
  | case3 before c tail interior rest found ih =>
      have here : subquery? (c :: tail) = some (interior, rest) := found
      obtain ⟨balanced, shape⟩ := subquery?_eq_some here
      cases shape
      have size : Char.utf8Size '(' = 1 := by decide
      have size' : Char.utf8Size ')' = 1 := by decide
      have close : (')' : Char) ≠ '(' := by decide
      rw [opened, here, size]
      simp only [placed, List.flatMap_cons, List.cons_append, opened_balanced balanced,
        opened_cons_of_ne close, size', ih]

end Placed

section Closing

variable {start : Nat} {s : Text}

theorem length_lt_of_mem_placed {place : Nat × Text} (member : place ∈ placed start (segments s)) :
    place.2.length < s.length := by
  apply length_lt_of_mem_interiors
  rw [interiors, ← placed_interiors start]
  exact List.mem_map_of_mem member

def closed (start : Nat) (s : Text) : List Span :=
  (placed start (segments s)).attach.flatMap fun ⟨place, _⟩ =>
    closed (place.1 + 1) place.2 ++ [spanOf place.1 place.2]
termination_by s.length
decreasing_by exact length_lt_of_mem_placed ‹_›

theorem closed_eq (start : Nat) (s : Text) :
    closed start s = (placed start (segments s)).flatMap fun place =>
      closed (place.1 + 1) place.2 ++ [spanOf place.1 place.2] := by
  rw [closed, List.flatMap_subtype fun _ _ => rfl, List.unattach_attach]
  rfl

theorem closed_perm_opened (start : Nat) (s : Text) :
    (closed start s).Perm ((opened start s).map Prod.fst) := by
  rw [closed_eq, opened_eq_flatMap_placed none, List.map_flatMap]
  apply List.Perm.flatMap_left
  intro place member
  have inner := closed_perm_opened (place.1 + 1) place.2
  exact (inner.append_right _).trans (List.perm_append_singleton _ _)
termination_by s.length
decreasing_by exact length_lt_of_mem_placed member

theorem closed_bounds {span : Span} (member : span ∈ closed start s) :
    start ≤ span.start ∧ span.start < span.stop ∧ span.stop < start + s.byteLength := by
  obtain ⟨entry, inside, rfl⟩ := List.mem_map.1 ((closed_perm_opened start s).mem_iff.1 member)
  exact opened_bounds inside

theorem closed_increasing (start : Nat) (s : Text) :
    (closed start s).Pairwise fun first second => first.stop < second.stop := by
  rw [closed_eq]
  refine List.pairwise_flatMap.2 ⟨?_, ?_⟩
  -- Inside of one subquery the closing parenthesis comes last; two subqueries lie apart.
  · intro place member
    refine List.pairwise_append.2 ⟨closed_increasing _ _, List.pairwise_singleton _ _, ?_⟩
    intro inner inside span same
    rw [List.mem_singleton.1 same]
    exact (closed_bounds inside).2.2
  · refine (placed_apart _ _).imp ?_
    intro first second apart span here span' there
    have stop : span.stop ≤ first.1 + 1 + first.2.byteLength := by
      rcases List.mem_append.1 here with inner | same
      · exact Nat.le_of_lt (closed_bounds inner).2.2
      · rw [List.mem_singleton.1 same]
        exact Nat.le_refl _
    have stop' : second.1 ≤ span'.stop := by
      rcases List.mem_append.1 there with inner | same
      · have bounds := closed_bounds inner
        omega
      · rw [List.mem_singleton.1 same]
        simp only [spanOf]
        omega
    exact Nat.lt_of_le_of_lt stop (Nat.lt_of_lt_of_le apart stop')
termination_by s.length
decreasing_by exact length_lt_of_mem_placed member

end Closing

section Nearest

variable {start : Nat} {s : Text} {place : Nat × Text} {span : Span}

def spans (start : Nat) (s : Text) : List Span := (opened start s).map Prod.fst

def branch (place : Nat × Text) : List Span :=
  spanOf place.1 place.2 :: spans (place.1 + 1) place.2

theorem spans_eq_flatMap_branch (start : Nat) (s : Text) :
    spans start s = (placed start (segments s)).flatMap branch := by
  rw [spans, opened_eq_flatMap_placed none, List.map_flatMap]
  rfl

theorem spans_bounds (member : span ∈ spans start s) :
    start ≤ span.start ∧ span.start < span.stop ∧ span.stop < start + s.byteLength := by
  obtain ⟨entry, inside, rfl⟩ := List.mem_map.1 member
  exact opened_bounds inside

def Within (place : Nat × Text) (span : Span) : Prop :=
  place.1 ≤ span.start ∧ span.start < span.stop ∧ span.stop ≤ place.1 + 1 + place.2.byteLength

theorem branch_within (member : span ∈ branch place) : Within place span := by
  rcases List.mem_cons.1 member with rfl | inside
  · simp only [Within, spanOf]
    omega
  · have bounds := spans_bounds inside
    simp only [Within]
    omega

theorem branch_filter_apart {other : Nat × Text} (within : Within place span)
    (apart : Apart place other ∨ Apart other place) :
    (branch other).filter (·.encloses span) = [] := by
  apply List.filter_eq_nil_iff.2
  intro outer member encloses
  have bounds := branch_within member
  rw [Span.encloses_iff] at encloses
  simp only [Within, Apart] at within apart bounds
  omega

/-- Only spans of its own branch are around a span. -/
theorem spans_filter_branch (member : place ∈ placed start (segments s))
    (within : Within place span) :
    (spans start s).filter (·.encloses span) = (branch place).filter (·.encloses span) := by
  obtain ⟨left, right, shape⟩ := List.append_of_mem member
  have apart := placed_apart start (segments s)
  rw [shape, List.pairwise_append, List.pairwise_cons] at apart
  have before : (left.flatMap branch).filter (·.encloses span) = [] := by
    rw [List.filter_flatMap, List.flatMap_eq_nil_iff]
    intro other earlier
    exact branch_filter_apart within (Or.inr (apart.2.2 other earlier place List.mem_cons_self))
  have behind : (right.flatMap branch).filter (·.encloses span) = [] := by
    rw [List.filter_flatMap, List.flatMap_eq_nil_iff]
    intro other later
    exact branch_filter_apart within (Or.inl (apart.2.1.1 other later))
  rw [spans_eq_flatMap_branch, shape, List.flatMap_append, List.flatMap_cons,
    List.filter_append, List.filter_append, before, behind, List.nil_append, List.append_nil]

theorem nearest?_outermost (member : place ∈ placed start (segments s)) :
    nearest? (spans start s) (spanOf place.1 place.2) = none := by
  have within : Within place (spanOf place.1 place.2) := branch_within List.mem_cons_self
  have alone : (branch place).filter (·.encloses (spanOf place.1 place.2)) = [] := by
    apply List.filter_eq_nil_iff.2
    intro outer inside encloses
    have bounds := branch_within inside
    rw [Span.encloses_iff] at encloses
    simp only [Within, spanOf] at bounds encloses
    omega
  rw [nearest?, spans_filter_branch member within, alone]
  rfl

theorem nearest?_inner (member : place ∈ placed start (segments s))
    (inside : span ∈ spans (place.1 + 1) place.2) :
    nearest? (spans start s) span =
      some ((nearest? (spans (place.1 + 1) place.2) span).getD (spanOf place.1 place.2)) := by
  have bounds := spans_bounds inside
  have encloses : (spanOf place.1 place.2).encloses span = true := by
    rw [Span.encloses_iff]
    simp only [spanOf]
    omega
  rw [nearest?, spans_filter_branch member (branch_within (List.mem_cons_of_mem _ inside)), branch,
    List.filter_cons, if_pos encloses, List.getLast?_cons, nearest?]

variable {text : Span → Text} {outermost : Aliases}

/-- Inside of a subquery, its own aliases are the outermost ones. -/
theorem aliasesAt_inner (member : place ∈ placed start (segments s)) {span : Span}
    (inside : span ∈ spans (place.1 + 1) place.2) :
    aliasesAt (spans start s) text outermost span =
      aliasesAt (spans (place.1 + 1) place.2) text
        (outermost.extend (Aliases.ofSql (text (spanOf place.1 place.2)))) span := by
  have around := nearest?_inner member inside
  -- The induction goes from a span to the one around it, up to the outermost subquery.
  cases found : nearest? (spans (place.1 + 1) place.2) span with
  | none =>
      rw [found, Option.getD_none] at around
      rw [aliasesAt_of_some around, aliasesAt_of_none (nearest?_outermost member),
        aliasesAt_of_none found]
  | some inner =>
      rw [found, Option.getD_some] at around
      obtain ⟨here, less⟩ := mem_of_nearest? found
      rw [aliasesAt_of_some around, aliasesAt_of_some found, aliasesAt_inner member here]
termination_by span.start

/-- The scopes of a text, where `text` gives each closed subquery its interior. -/
theorem scopes_eq_closed (text : Span → Text) (inherited : Aliases) (start : Nat) (s : Text)
    (faithful : ∀ entry ∈ opened start s, text entry.1 = entry.2) :
    scopes inherited s =
      (closed start s).map (fun span =>
        ⟨text span, aliasesAt (spans start s) text (inherited.extend (Aliases.ofSql s)) span⟩) ++
      [⟨s, inherited.extend (Aliases.ofSql s)⟩] := by
  rw [scopes_eq, closed_eq, List.map_flatMap, interiors, ← placed_interiors start,
    List.flatMap_map]
  congr 1
  apply List.flatMap_congr
  intro place member
  -- What opens in the interior of a subquery has opened in the text.
  have entry : ∀ entry ∈ (spanOf place.1 place.2, place.2) :: opened (place.1 + 1) place.2,
      text entry.1 = entry.2 := by
    intro entry inside
    apply faithful
    rw [opened_eq_flatMap_placed none]
    exact List.mem_flatMap.2 ⟨place, member, inside⟩
  have own : text (spanOf place.1 place.2) = place.2 := entry _ List.mem_cons_self
  rw [scopes_eq_closed text _ (place.1 + 1) place.2 fun _ inside =>
    entry _ (List.mem_cons_of_mem _ inside), List.map_append, List.map_singleton,
    aliasesAt_of_none (nearest?_outermost member), own]
  congr 1
  apply List.map_congr_left
  intro span inside
  have opened := List.mem_map.1 ((closed_perm_opened _ _).mem_iff.1 inside)
  rw [aliasesAt_inner member (List.mem_map.2 opened), own]
termination_by s.length
decreasing_by exact length_lt_of_mem_placed member

end Nearest

section Places

theorem dropBytes?_cons {offset : Nat} (positive : 0 < offset) (c : Char) (s : Text) :
    Text.dropBytes? offset (c :: s) =
      if c.utf8Size ≤ offset then s.dropBytes? (offset - c.utf8Size) else none := by
  cases offset with
  | zero => exact absurd positive (Nat.lt_irrefl 0)
  | succ more => rfl

theorem takeBytes_cons {length : Nat} (positive : 0 < length) (c : Char) (s : Text) :
    Text.takeBytes length (c :: s) = c :: Text.takeBytes (length - c.utf8Size) s := by
  cases length with
  | zero => exact absurd positive (Nat.lt_irrefl 0)
  | succ more => rfl

theorem dropBytes?_zero (s : Text) : s.dropBytes? 0 = some s := by
  cases s <;> rfl

theorem takeBytes_zero (s : Text) : Text.takeBytes 0 s = [] := by
  cases s <;> rfl

theorem dropBytes?_append (before s : Text) (offset : Nat) :
    (before ++ s).dropBytes? (before.byteLength + offset) = s.dropBytes? offset := by
  induction before with
  | nil => simp
  | cons c before ih =>
      have positive := Char.utf8Size_pos c
      have enough : c.utf8Size ≤ Text.byteLength (c :: before) + offset := by
        rw [Text.byteLength_cons]
        omega
      have left : Text.byteLength (c :: before) + offset - c.utf8Size =
          Text.byteLength before + offset := by
        rw [Text.byteLength_cons]
        omega
      rw [List.cons_append, dropBytes?_cons (by omega), if_pos enough, left, ih]

theorem dropBytes?_byteLength (before s : Text) :
    (before ++ s).dropBytes? before.byteLength = some s := by
  have here := dropBytes?_append before s 0
  rwa [Nat.add_zero, dropBytes?_zero] at here

/-- A byte offset is the length of the text before it. -/
theorem dropBytes?_eq_some_iff {s t : Text} {start : Nat} :
    s.dropBytes? start = some t ↔ ∃ before : Text, s = before ++ t ∧ before.byteLength = start := by
  constructor
  · intro found
    fun_induction Text.dropBytes? start s with
    | case1 s =>
        cases found
        exact ⟨[], rfl, rfl⟩
    | case2 offset => contradiction
    | case3 offset c rest positive enough ih =>
        rcases ih found with ⟨before, rfl, length⟩
        exact ⟨c :: before, rfl, by rw [Text.byteLength_cons]; omega⟩
    | case4 offset c rest positive inside => contradiction
  · rintro ⟨before, rfl, rfl⟩
    exact dropBytes?_byteLength before t

theorem dropBytes?_append_left {s : Text} {offset : Nat} (inside : offset ≤ s.byteLength)
    (t : Text) : (s ++ t).dropBytes? offset = (s.dropBytes? offset).map (· ++ t) := by
  induction s generalizing offset with
  | nil =>
      rw [Nat.le_zero.1 inside, List.nil_append, dropBytes?_zero, dropBytes?_zero]
      rfl
  | cons c s ih =>
      rcases Nat.eq_zero_or_pos offset with rfl | positive
      · rw [dropBytes?_zero, dropBytes?_zero]
        rfl
      · rw [Text.byteLength_cons] at inside
        rw [List.cons_append, dropBytes?_cons positive, dropBytes?_cons positive]
        split
        · exact ih (by omega)
        · rfl

theorem takeBytes_append (s t : Text) : Text.takeBytes s.byteLength (s ++ t) = s := by
  induction s with
  | nil => exact takeBytes_zero t
  | cons c s ih =>
      have positive := Char.utf8Size_pos c
      rw [Text.byteLength_cons, List.cons_append, takeBytes_cons (by omega),
        Nat.add_sub_cancel_left, ih]

theorem slice_append (before s t : Text) :
    Text.slice (before ++ (s ++ t)) before.byteLength (before.byteLength + s.byteLength) = s := by
  rw [Text.slice, dropBytes?_byteLength, Option.getD_some, Nat.add_sub_cancel_left,
    takeBytes_append]

theorem at?_eq {sql s : Text} {start : Nat} (here : sql.dropBytes? start = some s) :
    Span.at? sql start = (subquery? s).map fun found => spanOf start found.1 := by
  simp only [Span.at?, opensAt_iff here, matchingParen?, here, subquery?, Option.bind_eq_bind,
    Option.bind_some]
  by_cases opening : opensSubquery s = true
  · simp only [opening, if_true]
    cases group? s <;> rfl
  · simp [opening]

theorem filterMap_at?_from (before s : Text) :
    (List.range' before.byteLength s.byteLength).filterMap (Span.at? (before ++ s)) =
      spans before.byteLength s := by
  induction s generalizing before with
  | nil => rfl
  | cons c rest ih =>
      have positive := Char.utf8Size_pos c
      have here := dropBytes?_byteLength before (c :: rest)
      -- No text starts at an offset inside of the character.
      have inside : (List.range' (before.byteLength + 1) (c.utf8Size - 1)).filterMap
          (Span.at? (before ++ c :: rest)) = [] := by
        apply List.filterMap_eq_nil_iff.2
        intro offset member
        obtain ⟨low, high⟩ := List.mem_range'_1.1 member
        have drop := dropBytes?_append before (c :: rest) (offset - before.byteLength)
        rw [Nat.add_sub_of_le (by omega), dropBytes?_cons (by omega), if_neg (by omega)] at drop
        simp [Span.at?, OpensAt, drop]
      have behind := ih (before ++ [c])
      simp only [Text.byteLength_append, Text.byteLength_cons, Text.byteLength_nil, Nat.add_zero,
        List.append_assoc, List.singleton_append] at behind
      obtain ⟨more, size⟩ : ∃ more, c.utf8Size = more + 1 := ⟨c.utf8Size - 1, by omega⟩
      rw [Text.byteLength_cons, ← List.range'_append_1, List.filterMap_append, behind, size,
        List.range'_succ, ← size, List.filterMap_cons, at?_eq here]
      rw [size, Nat.add_sub_cancel] at inside
      rw [inside, spans, spans, opened]
      cases subquery? (c :: rest) <;> rfl

theorem closedSubqueries_eq (sql : Text) : closedSubqueries sql = spans 0 sql := by
  have whole := filterMap_at?_from [] sql
  rwa [Text.byteLength_nil, ← List.range_eq_range'] at whole

theorem interior_of_mem_opened (before s : Text) {entry : Span × Text}
    (member : entry ∈ opened before.byteLength s) :
    entry.1.interior (before ++ s) = entry.2 := by
  induction s generalizing before with
  | nil => simp [opened] at member
  | cons c rest ih =>
      have size : before.byteLength + c.utf8Size = Text.byteLength (before ++ [c]) := by simp
      have later (member : entry ∈ opened (before.byteLength + c.utf8Size) rest) :
          entry.1.interior (before ++ c :: rest) = entry.2 := by
        rw [size] at member
        simpa using ih (before ++ [c]) member
      rw [opened] at member
      split at member
      · next interior after found =>
          rcases List.mem_cons.1 member with rfl | member
          · rw [(subquery?_eq_some found).2]
            have slice := slice_append (before ++ ['(']) interior (')' :: after)
            have size' : Text.byteLength (before ++ ['(']) = before.byteLength + 1 := by
              simp; decide
            rw [size'] at slice
            simpa [Span.interior, spanOf] using slice
          · exact later member
      · exact later member

end Places

/-- Each closed subquery of a text, at any depth, is a scope once, and so is the text itself.
The conditions are listed scope by scope in the order of closing, the text's own last. -/
theorem extract_in_closing_order (sql : Text) :
    ∃ order : List Span, order.Perm (closedSubqueries sql) ∧
      order.Pairwise (fun first second => first.stop < second.stop) ∧
      scopes .empty sql = order.map (scopeAt sql) ++ [⟨sql, Aliases.ofSql sql⟩] ∧
      extract sql = (scopes .empty sql).flatMap fun scope =>
        (whereFragments (outerText scope.text)).filterMap
          (Condition.ofFragment? scope.aliases) := by
  have located : scopes .empty sql =
      (closed 0 sql).map (scopeAt sql) ++ [⟨sql, Aliases.ofSql sql⟩] := by
    have recursion := scopes_eq_closed (Span.interior sql) .empty 0 sql
      fun entry member => interior_of_mem_opened [] sql member
    rw [Aliases.empty_extend, ← closedSubqueries_eq] at recursion
    exact recursion
  refine ⟨closed 0 sql, ?_, closed_increasing 0 sql, located, rfl⟩
  rw [closedSubqueries_eq]
  exact closed_perm_opened 0 sql

-- The first group is never closed; the two inside of it are.
example : closedSubqueries "(SELECT (SELECT a) b (SELECT c)".toList = [⟨8, 17⟩, ⟨21, 30⟩] := by
  decide +kernel

end QueryConditions
