import QueryConditions.Text.Keyword
import QueryConditions.Text.Pattern

/-!
The column that an expression speaks of. Calls of scalar functions are unwrapped,
type casts and parentheses dropped, and the first column reference left is the
column: a word, or two words with a dot between.
-/

namespace QueryConditions

def scalarFunctions : List Text :=
  ["CAST", "NVL", "NVL2", "COALESCE", "UPPER", "LOWER", "TRIM", "LTRIM", "RTRIM",
   "TO_DATE", "TO_CHAR", "TO_NUMBER", "SUBSTR"].map String.toList

def call? (function s : Text) : Option Text :=
  match (keyword? function s).map Text.skipBlanks with
  | some ('(' :: rest) => some rest
  | _ => none

theorem call?_follows {function s rest : Text} (found : call? function s = some rest) :
    Follows rest s := by
  unfold call? at found
  split at found
  · next shape =>
      cases found
      obtain ⟨after, read, skipped⟩ := Option.map_eq_some_iff.1 shape
      have tail : Follows rest (Text.skipBlanks after) := skipped ▸ follows_cons '(' rest
      exact follows_of_suffix ((skipBlanks_suffix after).trans (keyword?_suffix read)) tail
  · simp at found

def scalarCall : Pattern Unit where
  read? before s :=
    if wordMayBegin before then
      (scalarFunctions.findSome? (call? · s)).map fun rest => ((), rest)
    else none
  follows found := by
    split at found
    · obtain ⟨_, here, same⟩ := Option.map_eq_some_iff.1 found
      cases same
      obtain ⟨function, _, called⟩ := List.exists_of_findSome?_eq_some here
      exact call?_follows called
    · simp at found

def typeCast : Pattern Unit where
  read? _ s := do
    let gap ← blanks? s
    let named ← keyword? "AS".toList gap
    let (_, rest) ← word? (← blanks? named)
    return ((), rest)
  follows found := by
    simp only [Option.bind_eq_bind, Option.bind_eq_some_iff, Option.pure_def,
      Option.some.injEq, Prod.mk.injEq] at found
    obtain ⟨gap, first, named, as, start, second, ⟨type, last⟩, typed, _, rfl⟩ := found
    exact (blanks?_follows first).trans ((word?_follows typed).1.trans
      ((blanks?_follows second).1.trans (keyword?_suffix as)))

def eraseCalls (s : Text) : Text :=
  -- Erasing a call can bring another to light.
  if scalarCall.erase s = s then s else eraseCalls (scalarCall.erase s)
termination_by s.length
decreasing_by exact scalarCall.length_erase_lt_of_ne ‹_›

def columnRef? (s : Text) : Option Text := do
  let (first, rest) ← word? (s.dropWhile (!isWord ·))
  match rest with
  | '.' :: after =>
      match word? after with
      | some (second, _) => return first ++ '.' :: second
      | none => return first
  | _ => return first

def normalizeColumn (expr : Text) : Text :=
  let bare := (typeCast.erase (eraseCalls (Text.trim expr))).filter fun c => c != '(' && c != ')'
  (columnRef? bare).getD (Text.trim bare)

def splitQualified (column : Text) : Option Text × Text :=
  match column.dropWhile (· != '.') with
  | [] => (none, column)
  | _ :: name => (some (column.takeWhile (· != '.')), name)

def isQuote (c : Char) : Bool := c == '\'' || c == '"'

def stripQuotes (value : Text) : Text :=
  (((Text.trim value).dropWhile isQuote).reverse.dropWhile isQuote).reverse

end QueryConditions
