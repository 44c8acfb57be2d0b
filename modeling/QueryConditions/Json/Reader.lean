import QueryConditions.Json.Basic
import QueryConditions.Json.Lexeme

/-!
Reading JSON documents. Lists and objects are read by one loop each, which is given
the reading of an item, or of what follows a key; each reading leaves a shorter text,
so the loops end. Lists and objects may be nested 127 deep.
-/

namespace QueryConditions.Json

variable {α σ : Type} {s : Text}

def moreItems (item : (s : Text) → Reading α s) (s : Text) : Reading (List α) s :=
  match shape : skipSpace s with
  | [] => .error ⟨.endOfList, 0⟩
  | c :: rest =>
      have here := follows_of_skipSpace shape
      if c = ']' then .ok ⟨[], rest, here⟩
      else if c = ',' then
        let next := skipSpace rest
        match next.head? with
        | none => .error ⟨.endOfValue, 0⟩
        | some ']' => .error (.at .trailingComma next)
        | some _ => do
            let first ← item next
            let others ← moreItems item first.rest
            return (first.andThen (others.map (first.value :: ·))).widen
              ((skipSpace_suffix rest).trans here.1)
      else .error (.at .commaOrListEndExpected (c :: rest))
termination_by s.length
decreasing_by
  have inner := first.follows.2
  have gap := (skipSpace_suffix rest).length_le
  have outer := here.2
  simp only [next] at inner
  omega

def items (item : (s : Text) → Reading α s) : (s : Text) → Reading (List α) s :=
  afterSpace fun
    | [] => .error ⟨.endOfList, 0⟩
    | ']' :: rest => .ok (.char ']' rest [])
    | c :: rest => do
        let first ← item (c :: rest)
        let others ← moreItems item first.rest
        return first.andThen (others.map (first.value :: ·))

def colon : (s : Text) → Reading Unit s :=
  afterSpace fun
    | [] => .error ⟨.endOfObject, 0⟩
    | ':' :: rest => .ok (.char ':' rest ())
    | c :: rest => .error (.at .colonExpected (c :: rest))

def keyed (entry : Text → (s : Text) → Reading α s) (s : Text) : Reading α s := do
  let key ← stringBody s
  let value ← entry key.value key.rest
  return key.andThen value

def moreEntries (entry : σ → Text → (s : Text) → Reading σ s) (state : σ) (s : Text) :
    Reading σ s :=
  match shape : skipSpace s with
  | [] => .error ⟨.endOfObject, 0⟩
  | c :: rest =>
      have here := follows_of_skipSpace shape
      if c = '\x7d' then .ok ⟨state, rest, here⟩
      else if c = ',' then
        match gap : skipSpace rest with
        | [] => .error ⟨.endOfValue, 0⟩
        | '"' :: after => do
            let first ← keyed (entry state) after
            let others ← moreEntries entry first.value first.rest
            return (first.andThen others).widen ((follows_of_skipSpace gap).1.trans here.1)
        | '\x7d' :: after => .error (.at .trailingComma ('\x7d' :: after))
        | other :: after => .error (.at .keyExpected (other :: after))
      else .error (.at .commaOrObjectEndExpected (c :: rest))
termination_by s.length
decreasing_by
  have inner := first.follows.2
  have middle := (follows_of_skipSpace gap).2
  have outer := here.2
  omega

def foldEntries (entry : σ → Text → (s : Text) → Reading σ s) (state : σ) :
    (s : Text) → Reading σ s :=
  afterSpace fun
    | [] => .error ⟨.endOfObject, 0⟩
    | '\x7d' :: rest => .ok (.char '\x7d' rest state)
    | '"' :: rest => do
        let first ← keyed (entry state) rest
        let others ← moreEntries entry first.value first.rest
        return (first.andThen others).pass '"'
    | c :: rest => .error (.at .keyExpected (c :: rest))

def literally (letters : Text) (value : α) (c : Char) (rest : Text) : Reading α (c :: rest) :=
  (literal letters rest).map fun read => (read.afterChar c).map fun _ => value

def scalar? (s : Text) : Option (Reading Json s) :=
  match s with
  | 'n' :: rest => some (literally "ull".toList .null 'n' rest)
  | 't' :: rest => some (literally "rue".toList (.bool true) 't' rest)
  | 'f' :: rest => some (literally "alse".toList (.bool false) 'f' rest)
  | '-' :: rest => some ((unsignedNumber true rest).map fun read => (read.map .number).pass '-')
  | '"' :: rest => some ((stringBody rest).map fun read => (read.map .string).pass '"')
  | s =>
      if (s.head?).any isDigit then some ((unsignedNumber false s).map (·.map .number))
      else none

def valueWithin (depth : Nat) : (s : Text) → Reading Json s :=
  afterSpace fun
    | [] => .error ⟨.endOfValue, 0⟩
    | c :: rest =>
        match scalar? (c :: rest) with
        | some read => read
        | none =>
            if c = '[' then
              match depth with
              | 0 => .error (.at .tooDeep (c :: rest))
              | depth + 1 =>
                  (items (valueWithin depth) rest).map fun read => (read.map .array).pass c
            else if c = '\x7b' then
              match depth with
              | 0 => .error (.at .tooDeep (c :: rest))
              | depth + 1 =>
                  let entry (entries : List (Text × Json)) (key s : Text) :
                      Reading (List (Text × Json)) s := do
                    let mark ← colon s
                    let value ← valueWithin depth mark.rest
                    return mark.andThen (value.map fun value => entries ++ [(key, value)])
                  (foldEntries entry [] rest).map fun read =>
                    (read.map fun entries => .object (settle entries)).pass c
            else .error (.at .valueExpected (c :: rest))

def greatestDepth : Nat := 127

def parse (document : Text) : Except ReadError Json :=
  readWhole (valueWithin greatestDepth) document

end QueryConditions.Json
