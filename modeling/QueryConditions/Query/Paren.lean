import QueryConditions.Text.Basic

/-!
Matching parentheses. Depth is counted through every character, quoted or not, so
a parenthesis inside a literal counts too.
-/

namespace QueryConditions

/-- The text up to the `)` that closes `depth + 1` open groups, and the text after it. -/
def untilClose? : Nat → Text → Option (Text × Text)
  | _, [] => none
  | depth, c :: rest =>
      if c = ')' then
        match depth with
        | 0 => some ([], rest)
        | outer + 1 => (untilClose? outer rest).map fun (inside, after) => (c :: inside, after)
      else if c = '(' then
        (untilClose? (depth + 1) rest).map fun (inside, after) => (c :: inside, after)
      else
        (untilClose? depth rest).map fun (inside, after) => (c :: inside, after)

def group? : Text → Option (Text × Text)
  | '(' :: rest => untilClose? 0 rest
  | _ => none

/-- The byte offset of the `)` that matches the `(` at byte offset `start`. -/
def matchingParen? (s : Text) (start : Nat) : Option Nat := do
  let group ← s.dropBytes? start
  let (interior, _) ← group? group
  return start + 1 + Text.byteLength interior

variable {s inside rest : Text} {depth : Nat}

theorem untilClose?_append (found : untilClose? depth s = some (inside, rest)) :
    s = inside ++ ')' :: rest := by
  induction s generalizing depth inside with
  | nil => simp [untilClose?] at found
  | cons c tail ih =>
      simp only [untilClose?] at found
      split at found
      · next close =>
          subst close
          cases depth with
          | zero => cases found; rfl
          | succ outer =>
              obtain ⟨⟨inside', rest'⟩, later, same⟩ := Option.map_eq_some_iff.1 found
              cases same
              rw [ih later, List.cons_append]
      · split at found <;>
        · obtain ⟨⟨inside', rest'⟩, later, same⟩ := Option.map_eq_some_iff.1 found
          cases same
          rw [ih later, List.cons_append]

theorem group?_append (found : group? s = some (inside, rest)) :
    s = '(' :: inside ++ ')' :: rest := by
  unfold group? at found
  split at found
  · rw [untilClose?_append found, List.cons_append]
  · simp at found

theorem group?_follows (found : group? s = some (inside, rest)) : Follows rest s := by
  rw [group?_append found]
  refine ⟨⟨'(' :: inside ++ [')'], by simp⟩, ?_⟩
  simp
  omega

end QueryConditions
