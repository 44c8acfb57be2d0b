import QueryConditions.Text.Keyword
import QueryConditions.Text.Pattern

/-!
Table aliases. A FROM or JOIN binds the word after its table, unless that word is one
that cannot be an alias there. Bindings are kept in increasing order of alias, one per
alias, so that two maps with the same bindings are the same value.
-/

namespace QueryConditions

structure Binding where
  name : Text
  table : Text
  deriving DecidableEq

section Source

def notAliasAfterFrom : List Text :=
  ["WHERE", "JOIN", "INNER", "LEFT", "RIGHT", "OUTER", "ON"].map String.toList

def notAliasAfterJoin : List Text := ["ON", "WHERE", "AND", "OR"].map String.toList

def nextWord? (s : Text) : Option (Text × Text) := do word? (← blanks? s)

/-- The alias after a table: the next word, or the one after it if the next word is AS. -/
def aliasName? (s : Text) : Option (Text × Text) := do
  let gap ← blanks? s
  match keyword? "AS".toList gap >>= nextWord? with
  | some named => some named
  | none => word? gap

def binding? (keyword : Text) (before : Option Char) (s : Text) : Option (Binding × Text) := do
  if wordMayBegin before then
    let (table, afterTable) ← nextWord? (← keyword? keyword s)
    let (name, rest) ← aliasName? afterTable
    return (⟨name, table⟩, rest)
  else
    none

theorem nextWord?_follows {s word rest : Text} (found : nextWord? s = some (word, rest)) :
    Follows rest s := by
  simp only [nextWord?, Option.bind_eq_bind, Option.bind_eq_some_iff] at found
  obtain ⟨gap, blank, found⟩ := found
  exact (blanks?_follows blank).trans (word?_follows found).1

theorem aliasName?_follows {s word rest : Text} (found : aliasName? s = some (word, rest)) :
    Follows rest s := by
  simp only [aliasName?, Option.bind_eq_bind, Option.bind_eq_some_iff] at found
  obtain ⟨gap, blank, found⟩ := found
  have start := blanks?_follows blank
  split at found
  · next named here =>
      cases found
      obtain ⟨after, as, here⟩ := Option.bind_eq_some_iff.1 here
      exact start.trans ((nextWord?_follows here).1.trans (keyword?_suffix as))
  · exact start.trans (word?_follows found).1

theorem binding?_follows {keyword s rest : Text} {before : Option Char} {binding : Binding}
    (found : binding? keyword before s = some (binding, rest)) : Follows rest s := by
  unfold binding? at found
  split at found
  · simp only [Option.bind_eq_bind, Option.bind_eq_some_iff, Option.pure_def,
      Option.some.injEq, Prod.mk.injEq] at found
    obtain ⟨after, here, ⟨table, afterTable⟩, named, ⟨name, last⟩, aliased, _, rfl⟩ := found
    exact follows_of_suffix (keyword?_suffix here)
      ((nextWord?_follows named).trans (aliasName?_follows aliased).1)
  · simp at found

def bindings (keyword : Text) : Pattern Binding where
  read? := binding? keyword
  follows := binding?_follows

def bindingsAfter (keyword : Text) (excluded : List Text) (sql : Text) : List Binding :=
  ((bindings keyword).findAll sql).filter fun binding =>
    !excluded.contains (binding.name.map Char.toUpper)

def fromBindings (sql : Text) : List Binding :=
  bindingsAfter "FROM".toList notAliasAfterFrom sql

def joinBindings (sql : Text) : List Binding :=
  bindingsAfter "JOIN".toList notAliasAfterJoin sql

end Source

section Map

def precedes : Text → Text → Bool
  | _, [] => false
  | [], _ :: _ => true
  | c :: s, d :: t => c.toNat < d.toNat || (c = d && precedes s t)

theorem precedes_trans {s t u : Text} (first : precedes s t = true)
    (second : precedes t u = true) : precedes s u = true := by
  induction s generalizing t u with
  | nil =>
      cases u with
      | nil => cases t <;> simp [precedes] at second
      | cons d u => rfl
  | cons c s ih =>
      cases t with
      | nil => simp [precedes] at first
      | cons d t =>
          cases u with
          | nil => simp [precedes] at second
          | cons e u =>
              simp only [precedes, Bool.or_eq_true, Bool.and_eq_true, decide_eq_true_eq]
                at first second ⊢
              rcases first with less | ⟨rfl, rest⟩
              · rcases second with less' | ⟨rfl, _⟩
                · exact .inl (Nat.lt_trans less less')
                · exact .inl less
              · rcases second with less' | ⟨rfl, rest'⟩
                · exact .inl less'
                · exact .inr ⟨rfl, ih rest rest'⟩

theorem not_precedes_self (s : Text) : precedes s s = false := by
  induction s with
  | nil => rfl
  | cons c s ih => simp [precedes, ih]

/-- Of two different texts one precedes the other. -/
theorem precedes_of_not_precedes {s t : Text} (not_before : precedes s t = false)
    (different : s ≠ t) : precedes t s = true := by
  induction s generalizing t with
  | nil =>
      cases t with
      | nil => exact absurd rfl different
      | cons d t => simp [precedes] at not_before
  | cons c s ih =>
      cases t with
      | nil => rfl
      | cons d t =>
          simp only [precedes, Bool.or_eq_false_iff, decide_eq_false_iff_not,
            Bool.and_eq_false_imp, decide_eq_true_eq, Nat.not_lt] at not_before
          simp only [precedes, Bool.or_eq_true, Bool.and_eq_true, decide_eq_true_eq]
          by_cases same : c = d
          · subst same
            exact .inr ⟨rfl, ih (not_before.2 rfl) (by simpa using different)⟩
          · have apart : d.toNat ≠ c.toNat := fun h => same (Char.toNat_inj.1 h.symm)
            exact .inl (Nat.lt_of_le_of_ne not_before.1 apart)

def Increasing (bindings : List Binding) : Prop :=
  bindings.Pairwise fun first second => precedes first.name second.name = true

def insertBinding (new : Binding) : List Binding → List Binding
  | [] => [new]
  | old :: rest =>
      if precedes new.name old.name then new :: old :: rest
      else if new.name = old.name then new :: rest
      else old :: insertBinding new rest

theorem mem_insertBinding {new binding : Binding} {bindings : List Binding}
    (member : binding ∈ insertBinding new bindings) : binding = new ∨ binding ∈ bindings := by
  induction bindings with
  | nil => simpa [insertBinding] using member
  | cons old rest ih =>
      simp only [insertBinding] at member
      grind

theorem increasing_insertBinding (new : Binding) {bindings : List Binding}
    (increasing : Increasing bindings) : Increasing (insertBinding new bindings) := by
  induction bindings with
  | nil => simp [insertBinding, Increasing]
  | cons old rest ih =>
      have above : ∀ binding ∈ rest, precedes old.name binding.name = true :=
        (List.pairwise_cons.1 increasing).1
      have tail : Increasing rest := (List.pairwise_cons.1 increasing).2
      simp only [insertBinding]
      -- The new binding goes before the first that it precedes, or takes the place of its like.
      split
      · next less =>
          refine List.pairwise_cons.2 ⟨?_, increasing⟩
          intro binding member
          rcases List.mem_cons.1 member with rfl | member
          · exact less
          · exact precedes_trans less (above binding member)
      · next notLess =>
          split
          · next same => exact List.pairwise_cons.2 ⟨same ▸ above, tail⟩
          · next different =>
              refine List.pairwise_cons.2 ⟨?_, ih tail⟩
              intro binding member
              rcases mem_insertBinding member with rfl | member
              · exact precedes_of_not_precedes (by simpa using notLess) different
              · exact above binding member

structure Aliases where
  bindings : List Binding
  increasing : Increasing bindings
  deriving DecidableEq

namespace Aliases

def empty : Aliases := ⟨[], List.Pairwise.nil⟩

def insert (aliases : Aliases) (binding : Binding) : Aliases :=
  ⟨insertBinding binding aliases.bindings, increasing_insertBinding binding aliases.increasing⟩

def insertAll (aliases : Aliases) (bindings : List Binding) : Aliases :=
  bindings.foldl insert aliases

def extend (aliases other : Aliases) : Aliases := aliases.insertAll other.bindings

def get? (aliases : Aliases) (name : Text) : Option Text :=
  (aliases.bindings.find? (·.name = name)).map Binding.table

def resolve (aliases : Aliases) (name : Text) : Text := (aliases.get? name).getD name

def size (aliases : Aliases) : Nat := aliases.bindings.length

def isEmpty (aliases : Aliases) : Bool := aliases.bindings.isEmpty

def ofSql (sql : Text) : Aliases := empty.insertAll (fromBindings sql ++ joinBindings sql)

@[simp] theorem get?_empty (name : Text) : empty.get? name = none := rfl

theorem get?_insert (aliases : Aliases) (binding : Binding) (name : Text) :
    (aliases.insert binding).get? name =
      if binding.name = name then some binding.table else aliases.get? name := by
  obtain ⟨bindings, increasing⟩ := aliases
  simp only [get?, insert]
  clear increasing
  induction bindings with
  | nil => by_cases same : binding.name = name <;> simp [insertBinding, same]
  | cons old rest ih =>
      simp only [insertBinding]
      split
      · by_cases same : binding.name = name <;> simp [same]
      · split
        · next equal => by_cases same : old.name = name <;> simp [equal, same]
        · next different =>
            by_cases same : old.name = name
            · have other : binding.name ≠ name := fun h => different (h.trans same.symm)
              simp [same, other]
            · simpa [same] using ih

end Aliases

end Map

end QueryConditions
