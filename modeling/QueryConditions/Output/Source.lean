import QueryConditions.Extraction

/-!
Sources: conditions under the label of the query that they come from.
-/

namespace QueryConditions

structure Source where
  label : Text
  conditions : List Condition
  deriving DecidableEq

namespace Source

def ofSql (label sql : Text) : Source := ⟨label, extract sql⟩

def firstSeen (items : List Text) : List Text :=
  items.foldl (fun seen item => if seen.contains item then seen else seen ++ [item]) []

def tables (source : Source) : List Text :=
  firstSeen ((source.conditions.map Condition.table).filter (!·.isEmpty))

end Source

end QueryConditions
