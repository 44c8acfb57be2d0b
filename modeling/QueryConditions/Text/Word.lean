import QueryConditions.Text.Basic
import QueryConditions.Text.WordRanges

/-!
Word characters and the words made of them. A word is read as far as it goes, so
the character after it is never a word character.
-/

namespace QueryConditions

def isWord (c : Char) : Bool :=
  if c.toNat < 0x80 then c.isAlphanum || c == '_' else inRanges wordRanges c

def word? : Text → Option (Text × Text)
  | [] => none
  | c :: rest =>
      if isWord c then some (c :: rest.takeWhile isWord, rest.dropWhile isWord) else none

def wordEnds : Text → Bool
  | [] => true
  | c :: _ => !isWord c

/-- A word can begin after this character. -/
def wordMayBegin : Option Char → Bool
  | none => true
  | some c => !isWord c

variable {s word rest : Text}

theorem word?_follows (found : word? s = some (word, rest)) : Follows rest s := by
  cases s with
  | nil => simp [word?] at found
  | cons c tail =>
      simp only [word?] at found
      split at found
      · cases found
        exact (follows_cons c tail).trans (List.dropWhile_suffix isWord)
      · simp at found

theorem word?_append (found : word? s = some (word, rest)) : word ++ rest = s := by
  cases s with
  | nil => simp [word?] at found
  | cons c tail =>
      simp only [word?] at found
      split at found
      · cases found
        simp [List.takeWhile_append_dropWhile]
      · simp at found

end QueryConditions
