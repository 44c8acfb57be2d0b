import QueryConditions.Text.Basic

/-!
The bytes of a text in UTF-8, which byte offsets count. The byte of an ASCII character stands
for this character alone, since the other characters have greater bytes only. So it is found
where the character is, and in any number of bytes it is counted as often as the character is
counted in what these bytes are all of.
-/

namespace QueryConditions

def Text.bytes (s : Text) : List UInt8 := s.flatMap String.utf8EncodeChar

def IsAscii (c : Char) : Prop := c.toNat < 0x80

instance (c : Char) : Decidable (IsAscii c) := inferInstanceAs (Decidable (c.toNat < 0x80))

variable {s t : Text} {c d : Char} {b : UInt8} {offset : Nat}

@[simp] theorem bytes_nil : Text.bytes [] = [] := rfl

@[simp] theorem bytes_cons (c : Char) (s : Text) :
    Text.bytes (c :: s) = String.utf8EncodeChar c ++ s.bytes := rfl

@[simp] theorem bytes_append (s t : Text) : Text.bytes (s ++ t) = s.bytes ++ t.bytes :=
  List.flatMap_append

@[simp] theorem length_bytes (s : Text) : s.bytes.length = s.byteLength := by
  induction s with
  | nil => rfl
  | cons c s ih => simp [ih, String.length_utf8EncodeChar]

/-- What can be checked of all ASCII characters holds of each. -/
theorem of_ascii_table {holds : Char → Prop} (table : ∀ n < 0x80, holds (Char.ofNat n))
    (ascii : IsAscii c) : holds c := by
  simpa using table c.toNat ascii

theorem utf8EncodeChar_ascii (ascii : IsAscii c) : String.utf8EncodeChar c = [c.toUInt8] := by
  have small : c.val.toNat ≤ 127 := Nat.le_of_lt_succ ascii
  rw [String.utf8EncodeChar, if_pos small]
  rfl

theorem utf8Size_ascii (ascii : IsAscii c) : c.utf8Size = 1 := by
  rw [← String.length_utf8EncodeChar, utf8EncodeChar_ascii ascii]
  rfl

theorem toUInt8_inj (ascii : IsAscii c) (ascii' : IsAscii d) (same : c.toUInt8 = d.toUInt8) :
    c = d := by
  unfold IsAscii at ascii ascii'
  have bytes := congrArg UInt8.toNat same
  simp only [Char.toUInt8, UInt32.toNat_toUInt8] at bytes
  apply Char.toNat_inj.1
  simp only [Char.toNat] at ascii ascii' ⊢
  omega

theorem le_of_mem_utf8EncodeChar (wide : ¬ IsAscii c) (member : b ∈ String.utf8EncodeChar c) :
    0x80 ≤ b.toNat := by
  have large : ¬ c.val.toNat ≤ 127 := fun small => wide (Nat.lt_succ_of_le small)
  simp only [String.utf8EncodeChar, large, if_false] at member
  split at member
  · simp only [List.mem_cons, List.not_mem_nil, or_false] at member
    rcases member with rfl | rfl <;> simp <;> omega
  · split at member
    · simp only [List.mem_cons, List.not_mem_nil, or_false] at member
      rcases member with rfl | rfl | rfl <;> simp <;> omega
    · simp only [List.mem_cons, List.not_mem_nil, or_false] at member
      rcases member with rfl | rfl | rfl | rfl <;> simp <;> omega

/-- The byte of an ASCII character is in no other character. -/
theorem eq_of_mem_utf8EncodeChar (ascii : IsAscii c)
    (member : c.toUInt8 ∈ String.utf8EncodeChar d) : d = c := by
  by_cases other : IsAscii d
  · rw [utf8EncodeChar_ascii other, List.mem_singleton] at member
    exact (toUInt8_inj ascii other member).symm
  · have large := le_of_mem_utf8EncodeChar other member
    unfold IsAscii at ascii
    simp only [Char.toUInt8, UInt32.toNat_toUInt8] at large
    simp only [Char.toNat] at ascii
    omega

/-- The byte of an ASCII character stands where the character does. -/
theorem getElem?_bytes_eq_some_iff (ascii : IsAscii c) : s.bytes[offset]? = some c.toUInt8 ↔
    ∃ before rest : Text, s = before ++ c :: rest ∧ before.byteLength = offset := by
  induction s generalizing offset with
  | nil => simp
  | cons d s ih =>
      -- The byte belongs to the first character or to the text behind it.
      by_cases inside : offset < d.utf8Size
      · rw [bytes_cons, List.getElem?_append_left (by rwa [String.length_utf8EncodeChar])]
        constructor
        · intro here
          obtain rfl := eq_of_mem_utf8EncodeChar ascii (List.mem_of_getElem? here)
          rw [utf8Size_ascii ascii] at inside
          exact ⟨[], s, rfl, (Nat.lt_one_iff.1 inside).symm⟩
        · rintro ⟨before, rest, split, rfl⟩
          cases before with
          | nil =>
              obtain ⟨rfl, rfl⟩ := List.cons.inj split
              rw [utf8EncodeChar_ascii ascii]
              rfl
          | cons e before =>
              obtain ⟨rfl, _⟩ := List.cons.inj split
              rw [Text.byteLength_cons] at inside
              omega
      · rw [bytes_cons, List.getElem?_append_right (by rw [String.length_utf8EncodeChar]; omega),
          String.length_utf8EncodeChar, ih]
        constructor
        · rintro ⟨before, rest, rfl, length⟩
          exact ⟨d :: before, rest, rfl, by rw [Text.byteLength_cons]; omega⟩
        · rintro ⟨before, rest, split, rfl⟩
          cases before with
          | nil =>
              have positive := Char.utf8Size_pos d
              rw [Text.byteLength_nil] at inside
              omega
          | cons e before =>
              obtain ⟨rfl, rfl⟩ := List.cons.inj split
              exact ⟨before, rest, rfl, by rw [Text.byteLength_cons]; omega⟩

theorem count_bytes (ascii : IsAscii c) (s : Text) : s.bytes.count c.toUInt8 = s.count c := by
  induction s with
  | nil => rfl
  | cons d s ih =>
      rw [bytes_cons, List.count_append, ih, List.count_cons]
      by_cases same : d = c
      · subst same
        simp [utf8EncodeChar_ascii ascii, Nat.add_comm]
      · have absent : c.toUInt8 ∉ String.utf8EncodeChar d :=
          fun member => same (eq_of_mem_utf8EncodeChar ascii member)
        simp [List.count_eq_zero.2 absent, same]

/-- A number of bytes is all of some characters and, where it ends inside of one, bytes of no
ASCII character. -/
theorem exists_prefix_of_take (s : Text) (length : Nat) : ∃ part : Text, part <+: s ∧
    part.byteLength ≤ length ∧
      ∀ c, IsAscii c → (s.bytes.take length).count c.toUInt8 = part.count c := by
  induction s generalizing length with
  | nil => exact ⟨[], List.prefix_rfl, Nat.zero_le _, by simp⟩
  | cons d s ih =>
      rw [bytes_cons]
      by_cases inside : length < d.utf8Size
      · refine ⟨[], List.nil_prefix, Nat.zero_le _, fun c ascii => ?_⟩
        rw [List.take_append_of_le_length (by rw [String.length_utf8EncodeChar]; omega),
          List.count_nil, List.count_eq_zero]
        intro member
        obtain rfl := eq_of_mem_utf8EncodeChar ascii (List.mem_of_mem_take member)
        rw [utf8Size_ascii ascii] at inside
        rw [Nat.lt_one_iff.1 inside] at member
        simp at member
      · rcases ih (length - d.utf8Size) with ⟨part, ⟨rest, rfl⟩, bound, counts⟩
        refine ⟨d :: part, ⟨rest, rfl⟩, by rw [Text.byteLength_cons]; omega, fun c ascii => ?_⟩
        have single := count_bytes ascii [d]
        rw [bytes_cons, bytes_nil, List.append_nil] at single
        rw [List.take_append, String.length_utf8EncodeChar,
          List.take_of_length_le (by rw [String.length_utf8EncodeChar]; omega), List.count_append,
          counts c ascii, single, ← List.count_append, List.singleton_append]

end QueryConditions
