/-!
Texts are lists of characters, so that a statement about a text can go by its
characters. Blank characters separate words everywhere in a query; cutting blanks
off the ends of a text never changes what stands between them.
-/

namespace QueryConditions

abbrev Text := List Char

def inRanges (ranges : List (Nat × Nat)) (c : Char) : Bool :=
  ranges.any fun range => range.1 ≤ c.toNat && c.toNat ≤ range.2

def blankRanges : List (Nat × Nat) := [
  (0x09, 0x0D), (0x20, 0x20), (0x85, 0x85), (0xA0, 0xA0), (0x1680, 0x1680),
  (0x2000, 0x200A), (0x2028, 0x2029), (0x202F, 0x202F), (0x205F, 0x205F),
  (0x3000, 0x3000)]

def isBlank (c : Char) : Bool := inRanges blankRanges c

namespace Text

def skipBlanks (s : Text) : Text := s.dropWhile isBlank

def trimEnd (s : Text) : Text := (s.reverse.dropWhile isBlank).reverse

def trim (s : Text) : Text := trimEnd (skipBlanks s)

def words (s : Text) : List Text :=
  match _ : skipBlanks s with
  | [] => []
  | first :: rest =>
      (first :: rest.takeWhile (!isBlank ·)) :: words (rest.dropWhile (!isBlank ·))
termination_by s.length
decreasing_by
  rename_i shape
  have kept : (skipBlanks s).length ≤ s.length := (List.dropWhile_suffix isBlank).length_le
  have left : (rest.dropWhile (!isBlank ·)).length ≤ rest.length :=
    (List.dropWhile_suffix _).length_le
  simp only [shape, List.length_cons] at kept
  omega

def byteLength : Text → Nat
  | [] => 0
  | c :: s => c.utf8Size + byteLength s

def dropBytes? : Nat → Text → Option Text
  | 0, s => some s
  | _ + 1, [] => none
  | offset, c :: rest =>
      if c.utf8Size ≤ offset then dropBytes? (offset - c.utf8Size) rest else none

@[simp] theorem byteLength_nil : byteLength [] = 0 := rfl

@[simp] theorem byteLength_cons (c : Char) (s : Text) :
    byteLength (c :: s) = c.utf8Size + byteLength s := rfl

@[simp] theorem byteLength_append (s t : Text) :
    byteLength (s ++ t) = byteLength s + byteLength t := by
  induction s with
  | nil => simp
  | cons c s ih => simp [ih, Nat.add_assoc]

def ofNat (n : Nat) : Text := Nat.toDigits 10 n

end Text

/-! What is left of a text after its beginning has been read. -/

section Reading

/-- Something was read, and `rest` is what follows it. -/
def Follows (rest s : Text) : Prop := rest <:+ s ∧ rest.length < s.length

variable {rest middle s : Text}

theorem Follows.trans (first : Follows middle s) (second : rest <:+ middle) : Follows rest s :=
  ⟨second.trans first.1, Nat.lt_of_le_of_lt second.length_le first.2⟩

theorem follows_of_suffix (first : middle <:+ s) (second : Follows rest middle) :
    Follows rest s :=
  ⟨second.1.trans first, Nat.lt_of_lt_of_le second.2 first.length_le⟩

theorem follows_cons (c : Char) (s : Text) : Follows s (c :: s) :=
  ⟨List.suffix_cons c s, by simp⟩

theorem skipBlanks_suffix (s : Text) : Text.skipBlanks s <:+ s := List.dropWhile_suffix isBlank

def blanks? : Text → Option Text
  | [] => none
  | c :: rest => if isBlank c then some (Text.skipBlanks rest) else none

theorem blanks?_follows (found : blanks? s = some rest) : Follows rest s := by
  cases s with
  | nil => simp [blanks?] at found
  | cons c tail =>
      simp only [blanks?] at found
      split at found
      · cases found
        exact (follows_cons c tail).trans (skipBlanks_suffix tail)
      · simp at found

end Reading

end QueryConditions
