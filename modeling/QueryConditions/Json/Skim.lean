import QueryConditions.Json.Reader

/-!
Passing over a value whose content does not matter. Only its shape is checked:
numbers may be of any size, surrogates need no partner, and lists and objects may be
nested to any depth.
-/

namespace QueryConditions.Json

variable {s : Text}

def skimExponent (s : Text) : Except Fault (Scanned Unit s) :=
  let unsigned (s : Text) : Except Fault (Scanned Unit s) :=
    match s with
    | [] => .error ⟨.invalidNumber, 0⟩
    | c :: rest =>
        if isDigit c then
          .ok ⟨(), rest.dropWhile isDigit, dropDigits_suffix_cons c rest⟩
        else .error (.at .invalidNumber (c :: rest))
  match s with
  | '+' :: rest => (unsigned rest).map (·.pass '+')
  | '-' :: rest => (unsigned rest).map (·.pass '-')
  | s => unsigned s

def skimAfterFraction (s : Text) : Except Fault (Scanned Unit s) :=
  match s with
  | 'e' :: rest => (skimExponent rest).map (·.pass 'e')
  | 'E' :: rest => (skimExponent rest).map (·.pass 'E')
  | s => .ok ⟨(), s, List.suffix_rfl⟩

def skimAfterInteger (s : Text) : Except Fault (Scanned Unit s) :=
  match s with
  | '.' :: rest =>
      if (rest.head?).any isDigit then
        (skimAfterFraction (rest.dropWhile isDigit)).map fun read =>
          (read.widen (dropDigits_suffix rest)).pass '.'
      else .error (.at .invalidNumber rest)
  | s => skimAfterFraction s

def skimUnsigned (s : Text) : Reading Unit s :=
  match s with
  | [] => .error ⟨.invalidNumber, 0⟩
  | '0' :: rest =>
      if (rest.head?).any isDigit then .error (.at .invalidNumber rest)
      else (skimAfterInteger rest).map (·.afterChar '0')
  | c :: rest =>
      if isDigit c then
        (skimAfterInteger (rest.dropWhile isDigit)).map fun read =>
          (read.widen (dropDigits_suffix rest)).afterChar c
      else .error (.at .invalidNumber (c :: rest))

def skimEscaped (s : Text) : Reading Unit s :=
  match s with
  | [] => .error ⟨.endOfString, 0⟩
  | 'u' :: rest => (hexUnit rest).map fun unit => (unit.map fun _ => ()).pass 'u'
  | c :: rest =>
      if ['"', '\\', '/', 'b', 'f', 'n', 'r', 't'].contains c then
        .ok (.char c rest ())
      else .error (.at .invalidEscape (c :: rest))

def skimString (s : Text) : Reading Unit s :=
  match s with
  | [] => .error ⟨.endOfString, 0⟩
  | '"' :: rest => .ok (.char '"' rest ())
  | '\\' :: rest => do
      let char ← skimEscaped rest
      let body ← skimString char.rest
      return (char.andThen body).pass '\\'
  | c :: rest =>
      -- Unlike in a string that is kept, the character itself is left unread.
      if c.toNat < 0x20 then .error (.before .controlCharacter (c :: rest))
      else (skimString rest).map (·.pass c)
termination_by s.length
decreasing_by
  · have := char.follows.2
    simp only [List.length_cons]
    omega
  · simp

def skimScalar? (s : Text) : Option (Reading Unit s) :=
  match s with
  | 'n' :: rest => some (literally "ull".toList () 'n' rest)
  | 't' :: rest => some (literally "rue".toList () 't' rest)
  | 'f' :: rest => some (literally "alse".toList () 'f' rest)
  | '-' :: rest => some ((skimUnsigned rest).map (·.pass '-'))
  | '"' :: rest => some ((skimString rest).map (·.pass '"'))
  | s => if (s.head?).any isDigit then some (skimUnsigned s) else none

inductive Container where
  | list
  | object
  deriving DecidableEq

def Container.closing : Container → Char
  | .list => ']'
  | .object => '\x7d'

def Container.endMissing : Container → Cause
  | .list => .endOfList
  | .object => .endOfObject

def Container.commaMissing : Container → Cause
  | .list => .commaOrListEndExpected
  | .object => .commaOrObjectEndExpected

def skimKey : (s : Text) → Reading Unit s :=
  afterSpace fun
    | [] => .error ⟨.endOfObject, 0⟩
    | '"' :: rest => do
        let key ← skimString rest
        let mark ← colon key.rest
        return (key.andThen mark).pass '"'
    | c :: rest => .error (.at .keyExpected (c :: rest))

inductive Expecting where
  | value
  | item (container : Container)
  | itemOrEnd (container : Container)
  | commaOrEnd

def Expecting.rank : Expecting → Nat
  | .value | .commaOrEnd => 0
  | .item _ => 1
  | .itemOrEnd _ => 2

/-- Passes over the rest of a value of which some containers are open, the innermost first. -/
def skimWithin (expecting : Expecting) (opened : List Container) (s : Text) :
    Except Fault (Scanned Unit s) :=
  match expecting, opened with
  | .value, opened =>
      match shape : skipSpace s with
      | [] => .error ⟨.endOfValue, 0⟩
      | c :: rest =>
          have here := follows_of_skipSpace shape
          match skimScalar? (c :: rest) with
          | some read => do
              let scalar ← read
              have passed := follows_of_suffix (shape ▸ skipSpace_suffix s) scalar.follows
              let after ← skimWithin .commaOrEnd opened scalar.rest
              return after.widen passed.1
          | none =>
              if c = '[' then
                (skimWithin (.itemOrEnd .list) opened rest).map (·.widen here.1)
              else if c = '\x7b' then
                (skimWithin (.itemOrEnd .object) opened rest).map (·.widen here.1)
              else .error (.at .valueExpected (c :: rest))
  | .commaOrEnd, [] => .ok ⟨(), s, List.suffix_rfl⟩
  | .commaOrEnd, container :: outer =>
      match shape : skipSpace s with
      | [] => .error ⟨container.endMissing, 0⟩
      | c :: rest =>
          have here := follows_of_skipSpace shape
          if c = ',' then
            (skimWithin (.item container) outer rest).map (·.widen here.1)
          else if c = container.closing then
            (skimWithin .commaOrEnd outer rest).map (·.widen here.1)
          else .error (.at container.commaMissing (c :: rest))
  | .itemOrEnd container, outer =>
      match shape : skipSpace s with
      | [] => .error ⟨container.endMissing, 0⟩
      | c :: rest =>
          have here := follows_of_skipSpace shape
          if c = container.closing then
            (skimWithin .commaOrEnd outer rest).map (·.widen here.1)
          else skimWithin (.item container) outer s
  | .item .list, outer => skimWithin .value (.list :: outer) s
  | .item .object, outer => do
      let key ← skimKey s
      have passed := key.follows
      let value ← skimWithin .value (.object :: outer) key.rest
      return value.widen passed.1
termination_by (s.length, expecting.rank)
decreasing_by
  · exact Prod.Lex.left _ _ passed.2
  · exact Prod.Lex.left _ _ here.2
  · exact Prod.Lex.left _ _ here.2
  · exact Prod.Lex.left _ _ here.2
  · exact Prod.Lex.left _ _ here.2
  · exact Prod.Lex.left _ _ here.2
  · exact Prod.Lex.right _ (by simp [Expecting.rank])
  · exact Prod.Lex.right _ (by simp [Expecting.rank])
  · exact Prod.Lex.left _ _ passed.2

end QueryConditions.Json
