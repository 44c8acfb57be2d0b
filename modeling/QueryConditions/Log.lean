import QueryConditions.Extraction
import QueryConditions.Json.Merge
import QueryConditions.Text.Quotation

/-!
What a run tells a log about itself. An event is what the program hands to the logger, a library
of its own: this puts the time before an event and writes the names in an order that is not
specified, so that no line of a log is known from its event alone.
-/

namespace QueryConditions

inductive Event where
  | scope (aliases : Aliases)
  | subquery (interior : Text)
  | dropped (fragment : Text)
  | unclosed (start : Nat)
  | skipped (error : Json.ReadError)
  deriving DecidableEq

namespace Event

def target : Event → Text
  | .scope _ | .subquery _ | .dropped _ => "sql2conds::extractor".toList
  | .unclosed _ => "sql2conds::parser".toList
  | .skipped _ => "sql2conds::merge".toList

def message : Event → Text
  | .scope _ => "extracting scope".toList
  | .subquery _ => "entering subquery scope".toList
  | .dropped _ => "no known operator; fragment dropped".toList
  | .unclosed _ => "unbalanced subquery candidate left in place".toList
  | .skipped _ => "skipping input".toList

def bindingText (binding : Binding) : Text :=
  '(' :: Text.quotation binding.name ++ ", ".toList ++ Text.quotation binding.table ++ [')']

def field : Event → Text × Text
  | .scope aliases =>
      ("aliases".toList, '[' :: ", ".toList.intercalate (aliases.bindings.map bindingText) ++ [']'])
  | .subquery interior => ("subquery".toList, Text.quotation interior)
  | .dropped fragment => ("fragment".toList, Text.quotation fragment)
  | .unclosed start => ("offset".toList, Text.ofNat start)
  | .skipped error => ("error".toList, error.message)

def text (event : Event) : Text :=
  event.target ++ ": ".toList ++ event.message ++ ' ' :: event.field.1 ++ '=' :: event.field.2

end Event

/-- The events of an extraction in order: those of a subquery stand between those of the text
before it and the fragments that the text itself has no use for. -/
def extractionLog (inherited : Aliases) (sql : Text) : List Event :=
  let aliases := inherited.extend (Aliases.ofSql sql)
  let fragments := whereFragments (outerText sql)
  .scope aliases :: (unclosedStarts sql).map .unclosed ++
    ((interiors sql).attach.flatMap fun ⟨interior, _⟩ =>
      .subquery interior :: extractionLog aliases interior) ++
    (fragments.filter fun fragment => (Condition.ofFragment? aliases fragment).isNone).map .dropped
termination_by sql.length
decreasing_by exact length_lt_of_mem_interiors ‹_›

end QueryConditions
