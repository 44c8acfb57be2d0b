import QueryConditions.Json.Fault

/-!
Readings of a JSON document. A reading takes a value from the beginning of a text and
keeps the text after it, with the proof that this is an end of the text given. Most
readings take one character at least, so whatever repeats them comes to an end.
-/

namespace QueryConditions.Json

/-- A value read from the beginning of `s`, perhaps from nothing of it, and the text after it. -/
structure Scanned (α : Type) (s : Text) where
  value : α
  rest : Text
  suffix : rest <:+ s

structure Parsed (α : Type) (s : Text) where
  value : α
  rest : Text
  follows : Follows rest s

abbrev Reading (α : Type) (s : Text) := Except Fault (Parsed α s)

variable {α β : Type} {s t : Text}

namespace Scanned

def widen (suffix : t <:+ s) (scanned : Scanned α t) : Scanned α s :=
  ⟨scanned.value, scanned.rest, scanned.suffix.trans suffix⟩

def after (follows : Follows t s) (scanned : Scanned α t) : Parsed α s :=
  ⟨scanned.value, scanned.rest, follows.trans scanned.suffix⟩

def pass (c : Char) (scanned : Scanned α s) : Scanned α (c :: s) :=
  scanned.widen (List.suffix_cons c s)

def afterChar (c : Char) (scanned : Scanned α s) : Parsed α (c :: s) :=
  scanned.after (follows_cons c s)

end Scanned

namespace Parsed

def char (c : Char) (rest : Text) (value : α) : Parsed α (c :: rest) :=
  ⟨value, rest, follows_cons c rest⟩

def map (f : α → β) (parsed : Parsed α s) : Parsed β s :=
  ⟨f parsed.value, parsed.rest, parsed.follows⟩

def andThen (first : Parsed α s) (second : Parsed β first.rest) : Parsed β s :=
  ⟨second.value, second.rest, first.follows.trans second.follows.1⟩

def widen (suffix : t <:+ s) (parsed : Parsed α t) : Parsed α s :=
  ⟨parsed.value, parsed.rest, follows_of_suffix suffix parsed.follows⟩

def pass (c : Char) (parsed : Parsed α s) : Parsed α (c :: s) :=
  parsed.widen (List.suffix_cons c s)

end Parsed

def isSpace (c : Char) : Bool := c == ' ' || c == '\n' || c == '\t' || c == '\r'

def skipSpace (s : Text) : Text := s.dropWhile isSpace

theorem skipSpace_suffix (s : Text) : skipSpace s <:+ s := List.dropWhile_suffix isSpace

/-- What stands after space and one more character. -/
theorem follows_of_skipSpace {rest : Text} {c : Char} (shape : skipSpace s = c :: rest) :
    Follows rest s :=
  follows_of_suffix (shape ▸ skipSpace_suffix s) (follows_cons c rest)

def afterSpace (read : (s : Text) → Reading α s) (s : Text) : Reading α s :=
  (read (skipSpace s)).map (·.widen (skipSpace_suffix s))

def readWhole (read : (s : Text) → Reading α s) (document : Text) : Except ReadError α :=
  match read document with
  | .error fault => .error (fault.locate document)
  | .ok parsed =>
      match skipSpace parsed.rest with
      | [] => .ok parsed.value
      | c :: rest => .error ((Fault.at .trailingText (c :: rest)).locate document)

end QueryConditions.Json
