import QueryConditions.Query.Subquery

/-!
The WHERE clause of a query and its conditions. The clause runs from the first WHERE
to the first keyword that ends it; AND and OR between blanks separate its conditions,
whatever parentheses stand around them.
-/

namespace QueryConditions

def whereKeyword : Pattern Unit where
  read? before s :=
    if wordMayBegin before then
      (keyword? "WHERE".toList s >>= blanks?).map fun rest => ((), rest)
    else none
  follows found := by
    split at found
    · obtain ⟨_, here, same⟩ := Option.map_eq_some_iff.1 found
      cases same
      obtain ⟨after, keyword, gap⟩ := Option.bind_eq_some_iff.1 here
      exact follows_of_suffix (keyword?_suffix keyword) (blanks?_follows gap)
    · simp at found

def clauseEnders : List (List Text) :=
  [["GROUP", "BY"], ["ORDER", "BY"], ["HAVING"], ["LIMIT"]].map (·.map String.toList)

def endsClause (s : Text) : Bool :=
  match blanks? s with
  | none => false
  | some rest => clauseEnders.any fun ender => (keywords? ender rest).any wordEnds

def clauseBody : Text → Text
  | [] => []
  | c :: rest => if endsClause (c :: rest) then [] else c :: clauseBody rest

def whereClause? (sql : Text) : Option Text :=
  (whereKeyword.find? none sql).map fun (_, _, rest) => clauseBody rest

def connective? (s : Text) : Option Text := do
  let start ← blanks? s
  blanks? (← (keyword? "AND".toList start).or (keyword? "OR".toList start))

def connective : Pattern Unit where
  read? _ s := (connective? s).map fun rest => ((), rest)
  follows found := by
    obtain ⟨_, here, same⟩ := Option.map_eq_some_iff.1 found
    cases same
    simp only [connective?, Option.bind_eq_bind, Option.bind_eq_some_iff] at here
    obtain ⟨start, gap, after, keyword, here⟩ := here
    have read : after <:+ start := by
      rcases Option.or_eq_some_iff.1 keyword with first | ⟨_, second⟩
      · exact keyword?_suffix first
      · exact keyword?_suffix second
    exact (blanks?_follows gap).trans ((blanks?_follows here).1.trans read)

def splitConditions (clause : Text) : List Text :=
  -- A part that was nothing but a subquery has left a lone placeholder.
  ((connective.split clause).map Text.trim).filter fun part =>
    !part.isEmpty && part != placeholder

def whereFragments (sql : Text) : List Text :=
  match whereClause? sql with
  | none => []
  | some clause => splitConditions clause

end QueryConditions
