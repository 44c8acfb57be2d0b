import QueryConditions.Query.Paren
import QueryConditions.Text.Keyword
import QueryConditions.Text.Pattern

/-!
Subqueries inside a query. A group that opens with SELECT and is closed is taken out
of the text around it and leaves a placeholder behind. A group that is never closed
stays where it is, and the search goes on inside it.
-/

namespace QueryConditions

def placeholder : Text := "__SUBQUERY__".toList

def opensSubquery : Text → Bool
  | '(' :: rest =>
      match keyword? "SELECT".toList (Text.skipBlanks rest) with
      | some after => wordEnds after
      | none => false
  | _ => false

def subquery? (s : Text) : Option (Text × Text) :=
  if opensSubquery s then group? s else none

/-- The outermost subqueries of a text; each occurrence stands for its interior. -/
def subqueries : Pattern Text where
  read? _ s := subquery? s
  follows found := by
    simp only [subquery?] at found
    split at found
    · exact group?_follows found
    · simp at found

abbrev Segment := Piece Text

def segments (sql : Text) : List Segment := subqueries.scan none sql

def Segment.outer : Segment → Text
  | .plain c => [c]
  | .found _ => ' ' :: placeholder ++ [' ']

def Segment.source : Segment → Text
  | .plain c => [c]
  | .found interior => '(' :: interior ++ [')']

def outerText (sql : Text) : Text := (segments sql).flatMap Segment.outer

def interiors (sql : Text) : List Text := (segments sql).filterMap Piece.value?

def subquerySpans (sql : Text) : List (Nat × Nat) := spansFrom 0 (segments sql)
where
  spansFrom (start : Nat) : List Segment → List (Nat × Nat)
    | [] => []
    | .plain c :: rest => spansFrom (start + c.utf8Size) rest
    | .found interior :: rest =>
        -- Two bytes for the parentheses.
        let stop := start + Text.byteLength interior + 2
        (start, stop) :: spansFrom stop rest

/-- Byte offsets of the openings that are left in place because nothing closes them. -/
def unclosedStarts (sql : Text) : List Nat := unclosedFrom 0 sql (segments sql)
where
  unclosedFrom (start : Nat) (s : Text) : List Segment → List Nat
    | [] => []
    | .plain c :: rest =>
        let later := unclosedFrom (start + c.utf8Size) s.tail rest
        if opensSubquery s then start :: later else later
    | .found interior :: rest =>
        unclosedFrom (start + Text.byteLength interior + 2) (s.drop (interior.length + 2)) rest

variable {sql interior : Text}

/-- The segments of a text are all of it, in order. -/
theorem segments_source (before : Option Char) (sql : Text) :
    (subqueries.scan before sql).flatMap Segment.source = sql := by
  fun_induction subqueries.scan before sql with
  | case1 => rfl
  | case2 before c tail absent ih => simp [Segment.source, ih]
  | case3 before c tail value rest found ih =>
      have shape : subquery? (c :: tail) = some (value, rest) := found
      simp only [subquery?] at shape
      split at shape
      · rw [List.flatMap_cons, ih]
        simp [Segment.source, group?_append shape]
      · simp at shape

theorem length_lt_of_mem_interiors (member : interior ∈ interiors sql) :
    interior.length < sql.length := by
  obtain ⟨segment, inside, value⟩ := List.mem_filterMap.1 member
  obtain ⟨left, right, split⟩ := List.append_of_mem inside
  cases segment with
  | plain c => simp [Piece.value?] at value
  | found value' =>
      cases value
      have whole := segments_source none sql
      rw [show subqueries.scan none sql = segments sql from rfl, split] at whole
      rw [← whole]
      simp [Segment.source]
      omega

end QueryConditions
