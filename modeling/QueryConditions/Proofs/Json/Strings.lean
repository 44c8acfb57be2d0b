import QueryConditions.Json.Printer
import QueryConditions.Json.Reader

/-!
Strings read back. Whatever characters a text has, its quoted form is read as this text and
nothing behind it is touched.
-/

namespace QueryConditions.Json

variable {α β : Type} {s t rest left : Text} {value : α} {result : β} {c : Char}

section Takes

def Takes (reading : Reading α s) (value : α) (rest : Text) : Prop :=
  ∃ parsed, reading = .ok parsed ∧ parsed.value = value ∧ parsed.rest = rest

theorem takes_ok (parsed : Parsed α s) : Takes (.ok parsed) parsed.value parsed.rest :=
  ⟨parsed, rfl, rfl, rfl⟩

theorem takes_map {reading : Reading α s} (takes : Takes reading value rest)
    {f : Parsed α s → Parsed β t}
    (same : ∀ follows, (f ⟨value, rest, follows⟩).value = result ∧
      (f ⟨value, rest, follows⟩).rest = left) :
    Takes (Except.map f reading) result left := by
  obtain ⟨⟨_, _, follows⟩, rfl, rfl, rfl⟩ := takes
  exact ⟨_, rfl, same follows⟩

theorem takes_bind {reading : Reading α s} (takes : Takes reading value rest)
    {next : Parsed α s → Reading β t}
    (later : ∀ follows, Takes (next ⟨value, rest, follows⟩) result left) :
    Takes (reading >>= next) result left := by
  obtain ⟨⟨_, _, follows⟩, rfl, rfl, rfl⟩ := takes
  exact later follows

theorem takes_pass {reading : Reading α s} (takes : Takes reading value rest) (c : Char) :
    Takes (reading.map (·.pass c)) value rest :=
  takes_map takes fun _ => ⟨rfl, rfl⟩

theorem takes_afterSpace_iff {read : (s : Text) → Reading α s} :
    Takes (afterSpace read s) value rest ↔ Takes (read (skipSpace s)) value rest := by
  unfold afterSpace Takes
  cases read (skipSpace s) <;> simp [Except.map, Parsed.widen]

theorem takes_afterSpace {read : (s : Text) → Reading α s}
    (takes : Takes (read (skipSpace s)) value rest) : Takes (afterSpace read s) value rest :=
  takes_afterSpace_iff.2 takes

end Takes

section Strings

theorem takes_stringBody_plain (quote : c ≠ '"') (backslash : c ≠ '\\') (shown : ¬ c.toNat < 0x20)
    (takes : Takes (stringBody s) t rest) : Takes (stringBody (c :: s)) (c :: t) rest := by
  rw [stringBody, if_neg shown]
  · exact takes_map takes fun _ => ⟨rfl, rfl⟩
  · exact quote
  · exact backslash

theorem takes_stringBody_escaped (char : Takes (escaped s) c rest)
    (takes : Takes (stringBody rest) t left) :
    Takes (stringBody ('\\' :: s)) (c :: t) left := by
  rw [stringBody]
  exact takes_bind char fun _ => takes_bind takes fun _ => takes_ok _

theorem hexValue?_hexDigit {n : Nat} (digit : n < 16) : hexValue? (hexDigit n) = some n := by
  revert n
  decide

theorem takes_hexUnit {high low : Nat} (high_digit : high < 16) (low_digit : low < 16)
    (rest : Text) :
    Takes (hexUnit ('0' :: '0' :: hexDigit high :: hexDigit low :: rest)) (high * 16 + low)
      rest := by
  have zero : hexValue? '0' = some 0 := by decide
  rw [hexUnit]
  simp only [zero, hexValue?_hexDigit high_digit, hexValue?_hexDigit low_digit]
  exact ⟨_, rfl, by simp, rfl⟩

theorem takes_hexEscape (control : c.toNat < 0x20) (rest : Text) :
    Takes (hexEscape ('0' :: '0' :: hexDigit (c.toNat / 16) :: hexDigit (c.toNat % 16) :: rest))
      c rest := by
  have unit : c.toNat / 16 * 16 + c.toNat % 16 = c.toNat := Nat.div_add_mod' _ _
  have trailing : isTrailing c.toNat = false := by
    simp only [isTrailing, Bool.and_eq_false_imp, decide_eq_true_eq]
    omega
  have leading : isLeading c.toNat = false := by
    simp only [isLeading, Bool.and_eq_false_imp, decide_eq_true_eq]
    omega
  rw [hexEscape]
  refine takes_bind (takes_hexUnit (by omega) (by omega) rest) fun follows => ?_
  simp only [unit, trailing, leading, Bool.false_eq_true, ↓reduceIte]
  exact ⟨_, rfl, Char.ofNat_toNat c, rfl⟩

/-- A character is either written as it is, or as an escape that is read as this character. -/
theorem escape_cases (c : Char) :
    (escape c = [c] ∧ c ≠ '"' ∧ c ≠ '\\' ∧ ¬ c.toNat < 0x20) ∨
      ∃ code, escape c = '\\' :: code ∧ ∀ rest, Takes (escaped (code ++ rest)) c rest := by
  unfold escape
  split
  case h_8 =>
    split
    · next control =>
      exact .inr ⟨_, rfl, fun rest => takes_pass (takes_hexEscape control rest) 'u'⟩
    · next quote backslash _ _ _ _ _ shown => exact .inl ⟨rfl, quote, backslash, shown⟩
  all_goals exact .inr ⟨_, rfl, fun rest => takes_ok (.char _ rest _)⟩

/-- A text is read off its quoted form. -/
theorem takes_stringBody (s rest : Text) :
    Takes (stringBody (s.flatMap escape ++ '"' :: rest)) s rest := by
  induction s with
  | nil =>
      rw [List.flatMap_nil, List.nil_append, stringBody]
      exact takes_ok _
  | cons c s ih =>
      rw [List.flatMap_cons, List.append_assoc]
      rcases escape_cases c with ⟨plain, quote, backslash, shown⟩ | ⟨code, coded, read⟩
      · rw [plain, List.singleton_append]
        exact takes_stringBody_plain quote backslash shown ih
      · rw [coded, List.cons_append]
        exact takes_stringBody_escaped (read _) ih

end Strings

end QueryConditions.Json
