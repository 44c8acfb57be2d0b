import QueryConditions.Proofs.Text.Markers
import QueryConditions.Proofs.Text.Scanning
import QueryConditions.Proofs.Text.Spellings
import QueryConditions.Query.Clause

/-!
Where a clause is cut. A cut takes the first connective with all blanks behind it, and the next
one is looked for behind these. Thus two connectives that share their blanks are not both taken,
and a fragment may begin with the word of one; only the last can end with such a word. For this
reason fragments that are joined again are cut where they were joined, whichever connectives and
blanks are put between them.
-/

namespace QueryConditions

variable {clause s part rest separator gap word joined : Text} {parts : List Text} {c d : Char}

def IsConnective (s : Text) : Prop :=
  ∃ before word after, IsSpacing before ∧ (Spells "AND".toList word ∨ Spells "OR".toList word) ∧
    IsSpacing after ∧ s = before ++ (word ++ after)

def BeginsConnective (s : Text) : Prop :=
  ∃ separator rest, IsConnective separator ∧ s = separator ++ rest

def HasConnective (s : Text) : Prop :=
  ∃ left separator right, IsConnective separator ∧ s = left ++ (separator ++ right)

/-- No connective begins in the part when it is read before the rest. -/
def Unbroken (part rest : Text) : Prop :=
  ∀ start tail, part = start ++ tail → tail ≠ [] → ¬ BeginsConnective (tail ++ rest)

/-- The parts are what the connectives leave of the text. The next one is always the first that
begins behind the one before, and all blanks behind it belong to it. -/
inductive IsCut : Text → List Text → Prop
  | whole {part : Text} : Unbroken part [] → IsCut part [part]
  | first {part separator rest : Text} {parts : List Text} :
      Unbroken part (separator ++ rest) → IsConnective separator →
      (∀ c ∈ rest.head?, isBlank c = false) → IsCut rest parts →
        IsCut (part ++ (separator ++ rest)) (part :: parts)

inductive IsJoined : List Text → Text → Prop
  | none : IsJoined [] []
  | one {part : Text} : IsJoined [part] part
  | more {part second separator rest : Text} {others : List Text} :
      IsConnective separator → IsJoined (second :: others) rest →
        IsJoined (part :: second :: others) (part ++ (separator ++ rest))

section Connectives

def connector : Marker where
  spellings := [["AND".toList], ["OR".toList]]
  spaced := true
  spelled := by decide

theorem connector_stopsAt (quote : isQuote c = true) : connector.StopsAt c := by
  simp only [isQuote, Bool.or_eq_true, beq_iff_eq] at quote
  rcases quote with rfl | rfl <;> decide

theorem isSome_blanks? (s : Text) : (blanks? s).isSome = s.head?.any isBlank := by
  cases s with
  | nil => rfl
  | cons c s => by_cases blank : isBlank c = true <;> simp [blanks?, blank]

theorem keyword?_or_of_and (found : keyword? "AND".toList s = some rest) :
    keyword? "OR".toList s = none := by
  cases s with
  | nil => rfl
  | cons c s =>
      have first : foldCase 'A' = foldCase c := by
        by_contra apart
        simp [keyword?, apart] at found
      have apart : foldCase 'O' ≠ foldCase c := by
        rw [← first]
        decide
      simp [keyword?, apart]

theorem isSome_connective? (s : Text) : (connective? s).isSome = connector.begins s := by
  unfold connective? Marker.begins
  cases blanks? s with
  | none => rfl
  | some start =>
      simp only [Option.bind_eq_bind, Option.bind_some, Option.any_some, Marker.reads, connector,
        List.any_cons, List.any_nil, Bool.or_false, keywords?]
      cases first : keyword? "AND".toList start with
      | some after =>
          rw [keyword?_or_of_and first]
          simp [isSome_blanks?, Marker.ends]
      | none =>
          cases keyword? "OR".toList start with
          | none => rfl
          | some after => simp [isSome_blanks?, Marker.ends]

theorem connective_read?_eq_none (before : Option Char) (s : Text) :
    connective.read? before s = none ↔ connector.begins s = false := by
  rw [← isSome_connective?, Option.isSome_eq_false_iff, Option.isNone_iff_eq_none]
  exact Option.map_eq_none_iff

theorem IsConnective.append (connective : IsConnective s) (blanks : gap.all isBlank = true) :
    IsConnective (s ++ gap) := by
  rcases connective with ⟨before, word, after, spacing, spells, spacing', rfl⟩
  refine ⟨before, word, after ++ gap, spacing, spells, ?_, by simp⟩
  exact ⟨List.append_ne_nil_of_left_ne_nil spacing'.1 gap, by simp [spacing'.2, blanks]⟩

theorem IsConnective.blank_cons (connective : IsConnective s) :
    ∃ c tail, s = c :: tail ∧ isBlank c = true := by
  rcases connective with ⟨before, word, after, ⟨some_char, blanks⟩, _, _, rfl⟩
  rcases exists_cons_of_all some_char blanks with ⟨c, tail, rfl, blank, _⟩
  exact ⟨c, tail ++ (word ++ after), rfl, blank⟩

theorem connectiveWord?_eq_some_iff :
    (keyword? "AND".toList s).or (keyword? "OR".toList s) = some rest ↔
      ∃ word, (Spells "AND".toList word ∨ Spells "OR".toList word) ∧ s = word ++ rest := by
  constructor
  · intro read
    rcases Option.or_eq_some_iff.1 read with first | ⟨_, second⟩
    · rcases keyword?_eq_some_iff.1 first with ⟨word, spells, whole⟩
      exact ⟨word, .inl spells, whole⟩
    · rcases keyword?_eq_some_iff.1 second with ⟨word, spells, whole⟩
      exact ⟨word, .inr spells, whole⟩
  · rintro ⟨word, spells | spells, whole⟩
    · have first := keyword?_eq_some_iff.2 ⟨word, spells, whole⟩
      rw [first, Option.some_or]
    · have second := keyword?_eq_some_iff.2 ⟨word, spells, whole⟩
      cases first : keyword? "AND".toList s with
      | none => rw [second, Option.none_or]
      | some after =>
          rw [keyword?_or_of_and first] at second
          contradiction

theorem head?_of_connectiveWord (spells : Spells "AND".toList word ∨ Spells "OR".toList word) :
    ∃ c tail, word = c :: tail ∧ isBlank c = false := by
  rcases spells with spells | spells
  · exact head?_of_spells (by decide) (by decide) spells
  · exact head?_of_spells (by decide) (by decide) spells

theorem connective?_eq_some_iff : connective? s = some rest ↔
    (∃ separator, IsConnective separator ∧ s = separator ++ rest) ∧
      ∀ c ∈ rest.head?, isBlank c = false := by
  simp only [connective?, Option.bind_eq_bind, Option.bind_eq_some_iff, blanks?_eq_some_iff,
    connectiveWord?_eq_some_iff]
  constructor
  · rintro ⟨_, ⟨⟨before, spacing, rfl⟩, _⟩, _, ⟨word, spells, rfl⟩, ⟨after, spacing', rfl⟩, solid⟩
    exact ⟨⟨_, ⟨before, word, after, spacing, spells, spacing', rfl⟩, by simp⟩, solid⟩
  · rintro ⟨⟨_, ⟨before, word, after, spacing, spells, spacing', rfl⟩, rfl⟩, solid⟩
    -- The blanks in front end where the word begins, since it begins with a letter.
    rcases head?_of_connectiveWord spells with ⟨c, tail, rfl, letter⟩
    refine ⟨c :: tail ++ (after ++ rest), ⟨⟨before, spacing, by simp⟩, ?_⟩, after ++ rest,
      ⟨c :: tail, spells, rfl⟩, ⟨after, spacing', rfl⟩, solid⟩
    simpa using letter

theorem isConnective_iff : IsConnective s ↔ connective? s = some [] := by
  rw [connective?_eq_some_iff]
  constructor
  · exact fun connective => ⟨⟨s, connective, (List.append_nil s).symm⟩, by simp⟩
  · rintro ⟨⟨separator, connective, rfl⟩, _⟩
    rwa [List.append_nil]

instance (s : Text) : Decidable (IsConnective s) := decidable_of_iff _ isConnective_iff.symm

theorem beginsConnective_iff : BeginsConnective s ↔ connector.begins s = true := by
  rw [← isSome_connective?, Option.isSome_iff_exists]
  constructor
  · rintro ⟨separator, rest, connective, rfl⟩
    refine ⟨rest.dropWhile isBlank, connective?_eq_some_iff.2 ⟨?_, head?_dropWhile isBlank rest⟩⟩
    refine ⟨separator ++ rest.takeWhile isBlank, connective.append List.all_takeWhile, ?_⟩
    rw [List.append_assoc, List.takeWhile_append_dropWhile]
  · rintro ⟨rest, read⟩
    rcases (connective?_eq_some_iff.1 read).1 with ⟨separator, connective, whole⟩
    exact ⟨separator, rest, connective, whole⟩

theorem unbroken_iff : Unbroken part rest ↔ connector.Absent part rest := by
  simp only [Unbroken, Marker.absent_iff_split, beginsConnective_iff, Bool.not_eq_true]

instance (part rest : Text) : Decidable (Unbroken part rest) :=
  decidable_of_iff _ unbroken_iff.symm

theorem not_hasConnective_iff : ¬ HasConnective s ↔ Unbroken s [] := by
  rw [unbroken_iff, Marker.absent_iff]
  simp only [← Bool.not_eq_true, ← beginsConnective_iff]
  constructor
  · rintro absent rest ⟨left, rfl⟩ ⟨separator, right, connective, rfl⟩
    exact absent ⟨left, separator, right, connective, rfl⟩
  · rintro absent ⟨left, separator, right, connective, rfl⟩
    exact absent _ (List.suffix_append left _) ⟨separator, right, connective, rfl⟩

end Connectives

section Cuts

theorem find?_connective_eq_none_iff : connective.find? none s = none ↔ Unbroken s [] := by
  rw [Pattern.find?_eq_none_iff, unbroken_iff, Marker.absent_iff]
  simp only [connective_read?_eq_none]
  constructor
  · rintro absent rest ⟨left, rfl⟩
    exact absent left rest rfl
  · rintro absent left tail rfl
    exact absent tail (List.suffix_append left tail)

theorem find?_connective_eq_some_iff : connective.find? none s = some (part, (), rest) ↔
    ∃ separator, s = part ++ (separator ++ rest) ∧ Unbroken part (separator ++ rest) ∧
      IsConnective separator ∧ ∀ c ∈ rest.head?, isBlank c = false := by
  have read_iff (before : Option Char) (t : Text) :
      connective.read? before t = some ((), rest) ↔ connective? t = some rest := by
    simp [connective]
  simp only [Pattern.find?_eq_some_iff, read_iff, connective_read?_eq_none, unbroken_iff,
    Marker.absent_iff_split, connective?_eq_some_iff]
  constructor
  · rintro ⟨_, rfl, ⟨⟨separator, connective, rfl⟩, solid⟩, unread⟩
    exact ⟨separator, rfl, unread, connective, solid⟩
  · rintro ⟨separator, whole, unread, connective, solid⟩
    exact ⟨separator ++ rest, whole, ⟨⟨separator, connective, rfl⟩, solid⟩, unread⟩

theorem isCut_split (s : Text) : IsCut s (connective.split s) := by
  induction size : s.length using Nat.strongRecOn generalizing s with
  | _ size ih =>
  subst size
  cases found : connective.find? none s with
  | none =>
      rw [Pattern.split_of_find?_eq_none found]
      exact .whole (find?_connective_eq_none_iff.1 found)
  | some result =>
      obtain ⟨part, ⟨⟩, rest⟩ := result
      rw [Pattern.split_of_find? found]
      rcases find?_connective_eq_some_iff.1 found with
        ⟨separator, rfl, unbroken, connective, solid⟩
      rcases connective.blank_cons with ⟨c, tail, rfl, _⟩
      have shorter : rest.length < (part ++ (c :: tail ++ rest)).length := by
        simp only [List.length_append, List.length_cons]
        omega
      exact .first unbroken connective solid (ih _ shorter rest rfl)

theorem IsCut.split_eq (cut : IsCut s parts) : connective.split s = parts := by
  induction cut with
  | whole unbroken =>
      exact Pattern.split_of_find?_eq_none (find?_connective_eq_none_iff.2 unbroken)
  | first unbroken connective solid _ ih =>
      have found := find?_connective_eq_some_iff.2 ⟨_, rfl, unbroken, connective, solid⟩
      rw [Pattern.split_of_find? found, ih]

/-- A text can be cut in one way only. -/
theorem isCut_iff : IsCut s parts ↔ parts = connective.split s := by
  constructor
  · exact fun cut => cut.split_eq.symm
  · rintro rfl
    exact isCut_split s

def IsPart (part s : Text) : Prop :=
  ∃ left right, s = left ++ (part ++ right) ∧ connector.Absent part right ∧
    wordEnds right = true

theorem IsPart.of_suffix (cut : IsPart part rest) (suffix : rest <:+ s) :
    IsPart part s := by
  obtain ⟨before, rfl⟩ := suffix
  obtain ⟨left, right, rfl, absent, boundary⟩ := cut
  exact ⟨before ++ left, right, by simp, absent, boundary⟩

theorem IsPart.excerpt (cut : IsPart part s) : IsExcerpt part s := by
  obtain ⟨left, right, whole, _, boundary⟩ := cut
  exact ⟨left, right, whole, boundary⟩

theorem IsPart.no_connective (cut : IsPart part s) : connector.Absent part [] := by
  obtain ⟨left, right, _, absent, boundary⟩ := cut
  exact absent.alone boundary

theorem IsCut.isPart (cut : IsCut s parts) (member : part ∈ parts) : IsPart part s := by
  induction cut with
  | whole unbroken =>
      obtain rfl := List.mem_singleton.1 member
      exact ⟨[], [], by simp, unbroken_iff.1 unbroken, rfl⟩
  | @first first separator rest _ unbroken connective _ _ ih =>
      rcases List.mem_cons.1 member with rfl | member
      · refine ⟨[], separator ++ rest, rfl, unbroken_iff.1 unbroken, ?_⟩
        exact Marker.wordEnds_of_begins
          (beginsConnective_iff.1 ⟨separator, rest, connective, rfl⟩)
      · exact (ih member).of_suffix ((List.suffix_append _ rest).trans (List.suffix_append first _))

theorem isPart_of_mem_split (member : part ∈ connective.split s) : IsPart part s :=
  (isCut_split s).isPart member

theorem IsCut.splitConditions_eq (cut : IsCut clause parts) : splitConditions clause =
    (parts.map Text.trim).filter fun part => part ≠ [] ∧ part ≠ placeholder := by
  rw [splitConditions, cut.split_eq]
  apply List.filter_congr
  intro part _
  rw [Bool.eq_iff_iff]
  simp

end Cuts

section Apart

/-- No connective begins in the part, whatever blank stands behind it. -/
def StaysApart (part : Text) : Prop := ∀ c rest, isBlank c = true → Unbroken part (c :: rest)

/-- It makes no difference to a connective which blank ends its word. -/
theorem reads_before_blank (blank : isBlank c = true) (blank' : isBlank d = true)
    (s rest other : Text) :
    connector.reads (s ++ c :: rest) = connector.reads (s ++ d :: other) := by
  have letters : ∀ keyword ∈ ["AND".toList, "OR".toList],
      keyword.all (!isBlank ·) = true := by decide
  -- No letter of a keyword is read from a blank, so the word ends before it.
  have apart {e : Char} (blank : isBlank e = true) : ∀ keyword ∈ ["AND".toList, "OR".toList],
      ∀ letter ∈ keyword, foldCase letter ≠ foldCase e := by
    intro keyword member letter inside same
    have solid : (!isBlank letter) = true :=
      List.all_eq_true.1 (letters keyword member) letter inside
    have both := congrArg isBlank same
    rw [isBlank_foldCase, isBlank_foldCase, blank] at both
    simp [both] at solid
  have read : ∀ keyword ∈ ["AND".toList, "OR".toList],
      (keyword? keyword (s ++ c :: rest)).any connector.ends =
        (keyword? keyword (s ++ d :: other)).any connector.ends := by
    intro keyword member
    rw [keyword?_append_apart (apart blank keyword member),
      keyword?_append_apart (apart blank' keyword member), Option.any_map, Option.any_map]
    congr 1
    funext after
    cases after with
    | nil => simp [Marker.ends, connector, blank, blank']
    | cons e after => rfl
  simp only [Marker.reads, connector, List.any_cons, List.any_nil, Bool.or_false, keywords?]
    at read ⊢
  rw [read _ List.mem_cons_self, read _ (List.mem_cons_of_mem _ List.mem_cons_self)]

theorem begins_before_blank (blank : isBlank c = true) (blank' : isBlank d = true)
    (some_char : s ≠ []) (solid : ∀ e ∈ s.getLast?, isBlank e = false) (rest other : Text) :
    connector.begins (s ++ c :: rest) = connector.begins (s ++ d :: other) := by
  rcases List.exists_cons_of_ne_nil some_char with ⟨e, tail, rfl⟩
  by_cases first : isBlank e = true
  · -- The blanks in front end within the text, since its last character is none.
    have inside : (tail.dropWhile isBlank).isEmpty = false := by
      rw [List.isEmpty_eq_false_iff, Ne, List.dropWhile_eq_nil_iff]
      intro blanks
      have last := solid _ (List.getLast?_eq_some_getLast some_char)
      have all : ∀ f ∈ e :: tail, isBlank f = true := List.forall_mem_cons.2 ⟨first, blanks⟩
      rw [all _ (List.getLast_mem some_char)] at last
      contradiction
    simp only [List.cons_append, Marker.begins_blank first, Text.skipBlanks,
      List.dropWhile_append, inside, Bool.false_eq_true, if_false]
    exact reads_before_blank blank blank' _ rest other
  · have solid : isBlank e = false := by simpa using first
    rw [List.cons_append, List.cons_append, Marker.begins_of_not_blank solid,
      Marker.begins_of_not_blank solid]

theorem staysApart_of_unbroken (solid : ∀ c ∈ part.getLast?, isBlank c = false)
    (blank : isBlank c = true) (unbroken : Unbroken part (c :: rest)) : StaysApart part := by
  intro d other blank' start tail cut some_char begins
  apply unbroken start tail cut some_char
  have last : ∀ e ∈ tail.getLast?, isBlank e = false := fun e member =>
    solid e (getLast?_of_suffix ⟨start, cut.symm⟩ member)
  rw [beginsConnective_iff] at begins ⊢
  rw [begins_before_blank blank blank' some_char last rest other]
  exact begins

theorem StaysApart.unbroken (apart : StaysApart part) (connective : IsConnective separator)
    (rest : Text) : Unbroken part (separator ++ rest) := by
  rcases connective.blank_cons with ⟨c, tail, rfl, blank⟩
  exact apart c (tail ++ rest) blank

/-- What is trimmed off a part are blanks as well, so they may as well belong to the connective
that stands behind it. -/
theorem staysApart_trim (unbroken : Unbroken part (separator ++ rest))
    (connective : IsConnective separator) : StaysApart (Text.trim part) := by
  rcases connective.blank_cons with ⟨c, tail, rfl, blank⟩
  rcases strip_between isBlank part with ⟨left, right, _, blanks, whole⟩
  rw [← trim_eq_strip] at whole
  rw [unbroken_iff, whole, Marker.absent_append, Marker.absent_append] at unbroken
  have inside := unbroken_iff.2 unbroken.2.1
  have solid := (clear_strip isBlank part).2
  cases right with
  | nil => exact staysApart_of_unbroken solid blank inside
  | cons d right =>
      rw [List.all_cons, Bool.and_eq_true] at blanks
      exact staysApart_of_unbroken solid blanks.1 inside

/-- All parts but the last have a connective behind them. -/
theorem IsCut.staysApart (cut : IsCut s parts) :
    (parts.map Text.trim).Pairwise fun part _ => StaysApart part := by
  induction cut with
  | whole => exact List.pairwise_singleton _ _
  | first unbroken connective _ _ ih =>
      rw [List.map_cons, List.pairwise_cons]
      exact ⟨fun _ _ => staysApart_trim unbroken connective, ih⟩

theorem unbroken_trim (member : part ∈ connective.split s) : Unbroken (Text.trim part) [] :=
  unbroken_iff.2 ((isPart_of_mem_split member).no_connective.excerpt (excerpt_trim part))

end Apart

section Joined

structure Rejoinable (parts : List Text) : Prop where
  some_char : ∀ part ∈ parts, part ≠ []
  no_placeholder : ∀ part ∈ parts, part ≠ placeholder
  trimmed : ∀ part ∈ parts, ClearEnds isBlank part
  unbroken : ∀ part ∈ parts, Unbroken part []
  apart : parts.Pairwise fun part _ => StaysApart part

theorem Rejoinable.tail (rejoinable : Rejoinable (part :: parts)) : Rejoinable parts where
  some_char := (List.forall_mem_cons.1 rejoinable.some_char).2
  no_placeholder := (List.forall_mem_cons.1 rejoinable.no_placeholder).2
  trimmed := (List.forall_mem_cons.1 rejoinable.trimmed).2
  unbroken := (List.forall_mem_cons.1 rejoinable.unbroken).2
  apart := (List.pairwise_cons.1 rejoinable.apart).2

theorem isJoined_intercalate (connective : IsConnective separator) (parts : List Text) :
    IsJoined parts (separator.intercalate parts) := by
  induction parts with
  | nil => exact .none
  | cons part parts ih =>
      cases parts with
      | nil =>
          rw [List.intercalate_singleton]
          exact .one
      | cons second others =>
          rw [List.intercalate_cons_cons, List.append_assoc]
          exact .more connective ih

/-- The text begins as its first part does, and so with no blank. -/
theorem IsJoined.solid (joins : IsJoined (part :: parts) joined)
    (rejoinable : Rejoinable (part :: parts)) : ∀ c ∈ joined.head?, isBlank c = false := by
  rcases List.exists_cons_of_ne_nil (rejoinable.some_char part List.mem_cons_self) with
    ⟨d, tail, rfl⟩
  have trimmed := rejoinable.trimmed (d :: tail) List.mem_cons_self
  cases joins with
  | one => exact trimmed.1
  | more => exact trimmed.1

/-- Parts that stay apart are what their joined text is cut into. -/
theorem IsJoined.isCut (joins : IsJoined parts joined) (some_part : parts ≠ [])
    (rejoinable : Rejoinable parts) : IsCut joined parts := by
  induction joins with
  | none => exact absurd rfl some_part
  | one => exact .whole (rejoinable.unbroken _ List.mem_cons_self)
  | @more part second separator rest others connective joins ih =>
      have apart := (List.pairwise_cons.1 rejoinable.apart).1 second List.mem_cons_self
      have later := ih (List.cons_ne_nil second others) rejoinable.tail
      exact .first (apart.unbroken connective rest) connective (joins.solid rejoinable.tail) later

theorem IsJoined.splitConditions_eq (joins : IsJoined parts joined)
    (rejoinable : Rejoinable parts) : splitConditions joined = parts := by
  by_cases empty : parts = []
  · subst empty
    cases joins
    have cut : IsCut [] [[]] := .whole (unbroken_iff.2 trivial)
    rw [cut.splitConditions_eq]
    rfl
  · have same : parts.map Text.trim = parts :=
      (List.map_congr_left fun part member => strip_of_clear (rejoinable.trimmed part member)).trans
        (List.map_id parts)
    rw [(joins.isCut empty rejoinable).splitConditions_eq, same]
    refine List.filter_eq_self.2 fun part member => ?_
    simpa using ⟨rejoinable.some_char part member, rejoinable.no_placeholder part member⟩

end Joined

section Conditions

theorem mem_splitConditions_iff : part ∈ splitConditions clause ↔
    (∃ source ∈ connective.split clause, Text.trim source = part) ∧
      part ≠ [] ∧ part ≠ placeholder := by
  rw [(isCut_split clause).splitConditions_eq, List.mem_filter, List.mem_map]
  simp

theorem rejoinable_splitConditions (clause : Text) : Rejoinable (splitConditions clause) where
  some_char part member := (mem_splitConditions_iff.1 member).2.1
  no_placeholder part member := (mem_splitConditions_iff.1 member).2.2
  trimmed part member := by
    rcases (mem_splitConditions_iff.1 member).1 with ⟨source, _, rfl⟩
    exact clear_strip isBlank source
  unbroken part member := by
    rcases (mem_splitConditions_iff.1 member).1 with ⟨source, inside, rfl⟩
    exact unbroken_trim inside
  apart := by
    rw [(isCut_split clause).splitConditions_eq]
    exact (isCut_split clause).staysApart.filter _

/-- The conditions of a clause are what its connectives leave of it, trimmed, without the empty
ones and the placeholders. There is no connective in any of them, and joined with connectives
they are split into the same conditions again. -/
theorem splitConditions_normal (clause : Text) :
    (∀ part ∈ splitConditions clause,
      part ≠ [] ∧ ClearEnds isBlank part ∧ part ≠ placeholder ∧ ¬ HasConnective part) ∧
    (∃! parts, IsCut clause parts) ∧
    (∀ parts, IsCut clause parts → splitConditions clause =
      (parts.map Text.trim).filter fun part => part ≠ [] ∧ part ≠ placeholder) ∧
    ∀ joined, IsJoined (splitConditions clause) joined →
      splitConditions joined = splitConditions clause := by
  have rejoinable := rejoinable_splitConditions clause
  refine ⟨fun part member => ?_, ?_, fun _ => IsCut.splitConditions_eq, fun _ joins => ?_⟩
  · exact ⟨rejoinable.some_char part member, rejoinable.trimmed part member,
      rejoinable.no_placeholder part member,
      not_hasConnective_iff.2 (rejoinable.unbroken part member)⟩
  · exact ⟨connective.split clause, isCut_split clause, fun _ => isCut_iff.1⟩
  · exact joins.splitConditions_eq rejoinable

/-- Two connectives that share a blank, one without blanks behind it, and a placeholder. -/
theorem splitConditions_normal_shared_blank :
    let clause := "a AND AND b  or __SUBQUERY__ OR c AND".toList
    let conditions := ["a".toList, "AND b".toList, "c AND".toList]
    let joined := "a Or AND b\n\tAND c AND".toList
    (∃ parts, IsCut clause parts ∧ splitConditions clause =
      (parts.map Text.trim).filter fun part => part ≠ [] ∧ part ≠ placeholder) ∧
    ("AND b".toList ∈ splitConditions clause ∧ ¬ HasConnective "AND b".toList) ∧
    IsJoined (splitConditions clause) joined ∧ splitConditions joined = conditions := by
  intro clause conditions joined
  obtain ⟨facts, _, same, again⟩ := splitConditions_normal clause
  have cut : IsCut clause
      ["a".toList, "AND b".toList, "__SUBQUERY__".toList, "c AND".toList] :=
    isCut_iff.2 (by decide +kernel)
  have split : splitConditions clause = conditions := (same _ cut).trans (by decide)
  have member : "AND b".toList ∈ splitConditions clause := by
    rw [split]
    decide
  have joins : IsJoined (splitConditions clause) joined := by
    rw [split]
    exact @IsJoined.more _ _ " Or ".toList _ _ (by decide) <|
      @IsJoined.more _ _ "\n\tAND ".toList _ _ (by decide) .one
  exact ⟨⟨_, cut, same _ cut⟩, ⟨member, (facts _ member).2.2.2⟩, joins, (again _ joins).trans split⟩

end Conditions

end QueryConditions
