import QueryConditions.Condition.Json
import QueryConditions.Json.Printer
import QueryConditions.Output.Format
import QueryConditions.Output.Table

/-!
The conditions of one query or of several sources, in either format. In JSON each
source is an entry of its own: a label that is taken already gets the least number
from two on that makes it free.
-/

namespace QueryConditions.Document

def numbered (label : Text) (number : Nat) : Text := label ++ " #".toList ++ Text.ofNat number

def freeNumber (taken : List Text) (label : Text) (number : Nat) : (tries : Nat) → Nat
  | 0 => number
  | tries + 1 =>
      if taken.contains (numbered label number) then freeNumber taken label (number + 1) tries
      else number

def freeLabel (taken : List Text) (label : Text) : Text :=
  -- As many tries as there are labels are enough.
  if taken.contains label then numbered label (freeNumber taken label 2 taken.length) else label

/-- The labels under which sources are written, each free of those before it. -/
def labelsFrom (taken : List Text) : List Text → List Text
  | [] => []
  | label :: rest =>
      let free := freeLabel taken label
      free :: labelsFrom (taken ++ [free]) rest

def labels (sources : List Source) : List Text := labelsFrom [] (sources.map Source.label)

def sourcesToJson (sources : List Source) : Json :=
  .object (List.zipWith (fun label source => (label, Condition.listToJson source.conditions))
    (labels sources) sources)

def render (conditions : List Condition) : Format → Text
  | .json => (Condition.listToJson conditions).pretty
  | .table => Table.render conditions

def titled (source : Source) : Text :=
  line ("== ".toList ++ source.label ++ " ==".toList) ++ Table.render source.conditions

def renderSources (sources : List Source) : Format → Text
  | .json => (sourcesToJson sources).pretty
  | .table => ['\n'].intercalate (sources.map titled)

end QueryConditions.Document
