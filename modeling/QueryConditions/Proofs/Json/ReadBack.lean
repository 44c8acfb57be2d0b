import QueryConditions.Proofs.Json.Entries
import QueryConditions.Proofs.Json.Strings

/-!
Documents read back. A list or an object that is laid out with any space between its items is
read as it was written. So a value without numbers is read off its own text, as long as no
object in it has a key twice and it is not nested too deep.
-/

namespace QueryConditions.Json

variable {α σ : Type} {s rest gap last line : Text} {lines : List Text}

section Layout

def laid (gap last : Text) (lines : List Text) : Text :=
  if lines.isEmpty then [] else [','].intercalate (lines.map (gap ++ ·)) ++ last

def laidOn (gap : Text) (lines : List Text) : Text := lines.flatMap fun line => ',' :: (gap ++ line)

theorem laidOn_cons (gap line : Text) (lines : List Text) :
    laidOn gap (line :: lines) = ',' :: (gap ++ (line ++ laidOn gap lines)) := by
  simp [laidOn]

theorem laid_cons (gap last line : Text) (lines : List Text) :
    laid gap last (line :: lines) = gap ++ (line ++ (laidOn gap lines ++ last)) := by
  rw [laid, if_neg (by simp)]
  induction lines generalizing line with
  | nil => simp [laidOn]
  | cons next lines ih =>
      have later := ih next
      simp only [List.map_cons, List.intercalate_cons_cons, List.append_assoc] at later ⊢
      rw [later, laidOn_cons]
      simp

theorem block_eq_laid (opening closing : Char) (level : Nat) (lines : List Text) :
    block opening closing level lines =
      opening :: (laid ('\n' :: List.replicate (2 * (level + 1)) ' ')
        ('\n' :: List.replicate (2 * level) ' ') lines ++ [closing]) := by
  unfold block laid
  split <;> simp

def IsGap (gap : Text) : Prop := ∀ c ∈ gap, isSpace c = true

theorem isGap_nil : IsGap [] := by simp [IsGap]

theorem isGap_blank : IsGap [' '] := by simp [IsGap, isSpace]

theorem isGap_indent (n : Nat) : IsGap ('\n' :: List.replicate n ' ') := by
  intro c member
  rcases List.mem_cons.1 member with rfl | member
  · decide
  · rw [List.eq_of_mem_replicate member]
    decide

theorem skipSpace_gap (spaces : IsGap gap) (s : Text) : skipSpace (gap ++ s) = skipSpace s :=
  List.dropWhile_append_of_pos spaces

theorem skipSpace_cons {c : Char} (solid : isSpace c = false) (s : Text) :
    skipSpace (c :: s) = c :: s := by
  rw [skipSpace, List.dropWhile_cons_of_neg (by simp [solid])]

theorem takes_afterSpace_gap {read : (s : Text) → Reading α s} {value : α} (spaces : IsGap gap)
    (takes : Takes (afterSpace read s) value rest) :
    Takes (afterSpace read (gap ++ s)) value rest := by
  rw [takes_afterSpace_iff] at takes ⊢
  rwa [skipSpace_gap spaces]

def BeginsItem (line : Text) : Prop :=
  ∃ c rest, line = c :: rest ∧ isSpace c = false ∧ c ≠ ']'

theorem skipSpace_line (spaces : IsGap gap) (begins : BeginsItem line) (rest : Text) :
    skipSpace (gap ++ (line ++ rest)) = line ++ rest := by
  obtain ⟨c, tail, rfl, solid, _⟩ := begins
  rw [skipSpace_gap spaces]
  exact skipSpace_cons solid _

theorem skipSpace_laid (spaces : IsGap gap) (begins : BeginsItem line) (last : Text)
    (lines : List Text) (rest : Text) :
    skipSpace (laid gap last (line :: lines) ++ rest) =
      line ++ (laidOn gap lines ++ (last ++ rest)) := by
  have line_first := skipSpace_line spaces begins (laidOn gap lines ++ (last ++ rest))
  rw [laid_cons]
  simpa only [List.append_assoc] using line_first

theorem skipSpace_laidOn_nil (gap : Text) (spaces : IsGap last) {c : Char}
    (solid : isSpace c = false) (rest : Text) :
    skipSpace (laidOn gap [] ++ (last ++ c :: rest)) = c :: rest := by
  rw [laidOn, List.flatMap_nil, List.nil_append, skipSpace_gap spaces, skipSpace_cons solid]

theorem skipSpace_laidOn_cons (gap line : Text) (lines : List Text) (rest : Text) :
    skipSpace (laidOn gap (line :: lines) ++ rest) =
      ',' :: (gap ++ (line ++ (laidOn gap lines ++ rest))) := by
  rw [laidOn_cons, List.cons_append, skipSpace_cons (by decide)]
  simp only [List.append_assoc]

end Layout

section Lists

variable {item : (s : Text) → Reading α s} {values : List α}

/-- Each line is read as the value in its place, whatever follows it. -/
def ItemsRead (item : (s : Text) → Reading α s) (lines : List Text) (values : List α) : Prop :=
  List.Forall₂ (fun line value => BeginsItem line ∧ ∀ rest, Takes (item (line ++ rest)) value rest)
    lines values

theorem takes_moreItems (spaces : IsGap gap) (last_spaces : IsGap last)
    (read : ItemsRead item lines values) (rest : Text) :
    Takes (moreItems item (laidOn gap lines ++ (last ++ ']' :: rest))) values rest := by
  induction read with
  | nil =>
      have closes := skipSpace_laidOn_nil gap last_spaces (c := ']') (by decide) rest
      unfold moreItems
      split
      · next shape => simp [closes] at shape
      · next shape =>
          obtain ⟨rfl, rfl⟩ := List.cons.inj (closes.symm.trans shape)
          exact ⟨_, rfl, rfl, rfl⟩
  | @cons line value lines values first _ ih =>
      have goes_on := skipSpace_laidOn_cons gap line lines (last ++ ']' :: rest)
      have next_line := skipSpace_line spaces first.1 (laidOn gap lines ++ (last ++ ']' :: rest))
      obtain ⟨c, tail, begins, _, not_end⟩ := first.1
      unfold moreItems
      split
      · next shape => simp [goes_on] at shape
      · next shape =>
          obtain ⟨rfl, rfl⟩ := List.cons.inj (goes_on.symm.trans shape)
          simp only [Char.reduceEq, ↓reduceIte]
          split
          · next head =>
            rw [next_line, begins, List.cons_append, List.head?_cons] at head
            contradiction
          · next head =>
            rw [next_line, begins, List.cons_append, List.head?_cons, Option.some.injEq] at head
            exact absurd head not_end
          · have here := first.2 (laidOn gap lines ++ (last ++ ']' :: rest))
            rw [← next_line] at here
            exact takes_bind here fun _ => takes_bind ih fun _ => takes_ok _

/-- A list is read off the lines of its items, however they are spaced. -/
theorem takes_items (spaces : IsGap gap) (last_spaces : IsGap last)
    (read : ItemsRead item lines values) (rest : Text) :
    Takes (items item (laid gap last lines ++ ']' :: rest)) values rest := by
  apply takes_afterSpace
  cases read with
  | nil =>
      have closes : skipSpace (laid gap last [] ++ ']' :: rest) = ']' :: rest :=
        skipSpace_cons (by decide) rest
      rw [closes]
      exact takes_ok _
  | @cons line value lines values first later =>
      have here := first.2 (laidOn gap lines ++ (last ++ ']' :: rest))
      have more := takes_moreItems spaces last_spaces later rest
      have begins := skipSpace_laid spaces first.1 last lines (']' :: rest)
      obtain ⟨c, tail, rfl, _, not_end⟩ := first.1
      rw [← begins] at here
      -- A reading has the type of its text, so the text gets a name before its cases.
      generalize skipSpace (laid gap last ((c :: tail) :: lines) ++ ']' :: rest) = text at *
      split
      · contradiction
      · exact absurd (List.cons.inj begins).1.symm not_end
      · exact takes_bind here fun _ => takes_bind more fun _ => takes_ok _

end Lists

section Objects

variable {entry : σ → Text → (s : Text) → Reading σ s} {state next final : σ} {key body : Text}

inductive EntriesRead (entry : σ → Text → (s : Text) → Reading σ s) : List Text → σ → σ → Prop
  | nil (state : σ) : EntriesRead entry [] state state
  | cons {key body : Text} {lines : List Text} {state next final : σ}
      (first : ∀ rest, Takes (entry state key (body ++ rest)) next rest)
      (later : EntriesRead entry lines next final) :
      EntriesRead entry ((quoted key ++ body) :: lines) state final

theorem quoted_append (key body : Text) :
    quoted key ++ body = '"' :: (key.flatMap escape ++ '"' :: body) := by
  simp [quoted]

theorem beginsItem_quoted (key body : Text) : BeginsItem (quoted key ++ body) :=
  ⟨_, _, quoted_append key body, by decide⟩

theorem takes_keyed (read : Takes (entry state key body) next rest) :
    Takes (keyed (entry state) (key.flatMap escape ++ '"' :: body)) next rest :=
  takes_bind (takes_stringBody key body) fun _ => takes_bind read fun _ => takes_ok _

theorem takes_moreEntries (spaces : IsGap gap) (last_spaces : IsGap last)
    (read : EntriesRead entry lines state final) (rest : Text) :
    Takes (moreEntries entry state (laidOn gap lines ++ (last ++ '\x7d' :: rest))) final rest := by
  induction read with
  | nil state =>
      have closes := skipSpace_laidOn_nil gap last_spaces (c := '\x7d') (by decide) rest
      unfold moreEntries
      split
      · next shape => simp [closes] at shape
      · next shape =>
          obtain ⟨rfl, rfl⟩ := List.cons.inj (closes.symm.trans shape)
          exact ⟨_, rfl, rfl, rfl⟩
  | @cons key body lines state next final first _ ih =>
      have goes_on := skipSpace_laidOn_cons gap (quoted key ++ body) lines (last ++ '\x7d' :: rest)
      have next_line (s : Text) : skipSpace (gap ++ (quoted key ++ body ++ s)) =
          '"' :: (key.flatMap escape ++ '"' :: (body ++ s)) := by
        rw [skipSpace_line spaces (beginsItem_quoted key body), List.append_assoc, quoted_append]
      unfold moreEntries
      split
      · next shape => simp [goes_on] at shape
      · next shape =>
          obtain ⟨rfl, rfl⟩ := List.cons.inj (goes_on.symm.trans shape)
          simp only [Char.reduceEq, ↓reduceIte]
          -- Behind the comma stands a key, so only one of the branches is taken.
          split
          · next gap_shape =>
            exact absurd ((next_line _).symm.trans gap_shape) (List.cons_ne_nil _ _)
          · next gap_shape =>
            obtain ⟨_, rfl⟩ := List.cons.inj ((next_line _).symm.trans gap_shape)
            exact takes_bind (takes_keyed (first _)) fun _ => takes_bind ih fun _ => takes_ok _
          · next gap_shape =>
            exact absurd (List.cons.inj ((next_line _).symm.trans gap_shape)).1 (by decide)
          · next not_quote _ gap_shape =>
            exact absurd (List.cons.inj ((next_line _).symm.trans gap_shape)).1.symm not_quote

/-- An object is read line by line, however the lines are spaced. -/
theorem takes_foldEntries (spaces : IsGap gap) (last_spaces : IsGap last)
    (read : EntriesRead entry lines state final) (rest : Text) :
    Takes (foldEntries entry state (laid gap last lines ++ '\x7d' :: rest)) final rest := by
  apply takes_afterSpace
  cases read with
  | nil =>
      have closes : skipSpace (laid gap last [] ++ '\x7d' :: rest) = '\x7d' :: rest :=
        skipSpace_cons (by decide) rest
      rw [closes]
      exact takes_ok _
  | @cons key body lines _ next _ first later =>
      have more := takes_moreEntries spaces last_spaces later rest
      rw [skipSpace_laid spaces (beginsItem_quoted key body), List.append_assoc, quoted_append]
      exact takes_bind (takes_keyed (first _)) fun _ => takes_bind more fun _ => takes_ok _

end Objects

section Values

variable {depth : Nat} {value : Json}

/-- Values without numbers, nested at most so deep, in which no object has a key twice. -/
inductive Textual : Nat → Json → Prop
  | null {depth : Nat} : Textual depth .null
  | bool {depth : Nat} (value : Bool) : Textual depth (.bool value)
  | string {depth : Nat} (value : Text) : Textual depth (.string value)
  | array {depth : Nat} {items : List Json} (inner : ∀ item ∈ items, Textual depth item) :
      Textual (depth + 1) (.array items)
  | object {depth : Nat} {entries : List (Text × Json)} (keys : (entries.map Prod.fst).Nodup)
      (inner : ∀ entry ∈ entries, Textual depth entry.2) : Textual (depth + 1) (.object entries)

theorem prettyItems_eq_map (level : Nat) (items : List Json) :
    prettyItems level items = items.map (prettyAt level) := by
  induction items with
  | nil => rfl
  | cons item items ih => rw [prettyItems, ih, List.map_cons]

def prettyEntry (level : Nat) (entry : Text × Json) : Text :=
  quoted entry.1 ++ ':' :: ' ' :: prettyAt level entry.2

theorem prettyEntries_eq_map (level : Nat) (entries : List (Text × Json)) :
    prettyEntries level entries = entries.map (prettyEntry level) := by
  induction entries with
  | nil => rfl
  | cons entry entries ih => rw [prettyEntries, ih, List.map_cons, prettyEntry]

theorem beginsItem_prettyAt (textual : Textual depth value) (level : Nat) :
    BeginsItem (prettyAt level value) := by
  cases textual with
  | null => exact ⟨_, _, rfl, by decide⟩
  | bool value => cases value <;> exact ⟨_, _, rfl, by decide⟩
  | string => exact ⟨_, _, rfl, by decide⟩
  | array => exact ⟨_, _, block_eq_laid _ _ _ _, by decide⟩
  | object => exact ⟨_, _, block_eq_laid _ _ _ _, by decide⟩

theorem takes_literal (letters rest : Text) :
    ∃ read, literal letters (letters ++ rest) = .ok read ∧ read.rest = rest := by
  induction letters with
  | nil => exact ⟨_, rfl, rfl⟩
  | cons letter letters ih =>
      obtain ⟨read, found, left⟩ := ih
      rw [List.cons_append, literal, if_pos rfl, found]
      exact ⟨_, rfl, left⟩

theorem takes_literally (letters : Text) (value : α) (c : Char) (rest : Text) :
    Takes (literally letters value c (letters ++ rest)) value rest := by
  obtain ⟨read, found, left⟩ := takes_literal letters rest
  rw [literally, found]
  exact ⟨_, rfl, rfl, left⟩

theorem takes_scalar {c : Char} {read : Reading Json (c :: s)} (solid : isSpace c = false)
    (scalar : scalar? (c :: s) = some read) (takes : Takes read value rest) :
    Takes (valueWithin depth (c :: s)) value rest := by
  cases depth
  all_goals
    rw [valueWithin]
    apply takes_afterSpace
    rw [skipSpace_cons solid]
    simp only [scalar]
    exact takes

theorem takes_array {values : List Json} (takes : Takes (items (valueWithin depth) s) values rest) :
    Takes (valueWithin (depth + 1) ('[' :: s)) (.array values) rest := by
  rw [valueWithin]
  apply takes_afterSpace
  rw [skipSpace_cons (by decide)]
  exact takes_map takes fun _ => ⟨rfl, rfl⟩

def addEntry (depth : Nat) (entries : List (Text × Json)) (key s : Text) :
    Reading (List (Text × Json)) s := do
  let mark ← colon s
  let value ← valueWithin depth mark.rest
  return mark.andThen (value.map fun value => entries ++ [(key, value)])

theorem takes_object {entries : List (Text × Json)} (keys : (entries.map Prod.fst).Nodup)
    (takes : Takes (foldEntries (addEntry depth) [] s) entries rest) :
    Takes (valueWithin (depth + 1) ('\x7b' :: s)) (.object entries) rest := by
  rw [valueWithin]
  apply takes_afterSpace
  rw [skipSpace_cons (by decide)]
  exact takes_map takes fun _ => ⟨congrArg Json.object (settle_of_nodup keys), rfl⟩

theorem takes_colon (rest : Text) : Takes (colon (':' :: rest)) () rest := by
  apply takes_afterSpace
  rw [skipSpace_cons (by decide)]
  exact takes_ok _

theorem entriesRead_pretty {entries : List (Text × Json)} (level : Nat)
    (read : ∀ entry ∈ entries, ∀ rest,
      Takes (valueWithin depth (' ' :: (prettyAt level entry.2 ++ rest))) entry.2 rest)
    (before : List (Text × Json)) :
    EntriesRead (addEntry depth) (entries.map (prettyEntry level)) before (before ++ entries) := by
  induction entries generalizing before with
  | nil => simpa using .nil before
  | cons entry entries ih =>
      rw [List.forall_mem_cons] at read
      have later := ih read.2 (before ++ [entry])
      rw [List.append_assoc, List.singleton_append] at later
      refine .cons (fun rest => ?_) later
      exact takes_bind (takes_colon _) fun _ => takes_bind (read.1 rest) fun _ => takes_ok _

theorem takes_valueWithin_gap (spaces : IsGap gap)
    (takes : Takes (valueWithin depth s) value rest) :
    Takes (valueWithin depth (gap ++ s)) value rest := by
  cases depth
  all_goals
    rw [valueWithin] at takes ⊢
    exact takes_afterSpace_gap spaces takes

theorem takes_prettyAt (textual : Textual depth value) (level : Nat) (rest : Text) :
    Takes (valueWithin depth (prettyAt level value ++ rest)) value rest := by
  induction textual generalizing level rest with
  | null => exact takes_scalar (by decide) rfl (takes_literally _ _ _ rest)
  | bool value =>
      cases value
      all_goals exact takes_scalar (by decide) rfl (takes_literally _ _ _ rest)
  | string value =>
      rw [prettyAt, quoted_append]
      have read := takes_stringBody value rest
      exact takes_scalar (by decide) rfl (takes_map read fun _ => ⟨rfl, rfl⟩)
  | @array depth values inner ih =>
      have read : ItemsRead (valueWithin depth) (values.map (prettyAt (level + 1))) values :=
        List.forall₂_map_left_iff.2 <| List.forall₂_same.2 fun value member =>
          ⟨beginsItem_prettyAt (inner value member) _, ih value member _⟩
      rw [prettyAt, block_eq_laid, prettyItems_eq_map, List.cons_append, List.append_assoc]
      exact takes_array (takes_items (isGap_indent _) (isGap_indent _) read rest)
  | @object depth entries keys inner ih =>
      have read : EntriesRead (addEntry depth) (entries.map (prettyEntry (level + 1))) [] entries :=
        entriesRead_pretty _ (fun entry member rest =>
          takes_valueWithin_gap isGap_blank (ih entry member (level + 1) rest)) []
      rw [prettyAt, block_eq_laid, prettyEntries_eq_map, List.cons_append, List.append_assoc]
      exact takes_object keys (takes_foldEntries (isGap_indent _) (isGap_indent _) read rest)

theorem readWhole_of_takes {read : (s : Text) → Reading α s} {value : α}
    (takes : Takes (read s) value []) : readWhole read s = .ok value := by
  obtain ⟨parsed, found, rfl, left⟩ := takes
  rw [readWhole, found]
  simp [left, skipSpace]

/-- A value without numbers is read off its own text. -/
theorem parse_pretty (textual : Textual greatestDepth value) : parse value.pretty = .ok value := by
  have takes := takes_prettyAt textual 0 []
  rw [List.append_nil] at takes
  exact readWhole_of_takes takes

end Values

end QueryConditions.Json
