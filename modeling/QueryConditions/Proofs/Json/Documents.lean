import QueryConditions.Proofs.Json.Merging

/-!
What comes of reading a document, whatever it is: either a value none of whose objects has a
key twice, or a fault of the text itself, which is reported on a single line.
-/

namespace QueryConditions.Json

def Cause.isOfText : Cause → Bool
  | .missingField _ | .duplicateField _ | .unknownVariant _ _ | .wrongType _ _
  | .wrongLength _ _ => false
  | _ => true

def Sound {α : Type} (good : α → Prop) : Except Fault α → Prop
  | .ok value => good value
  | .error fault => fault.cause.isOfText = true

section Sound

variable {α β σ : Type} {s : Text} {good : α → Prop}

theorem sound_map {result : Except Fault β} (f : β → α) (sound : Sound (good ∘ f) result) :
    Sound good (result.map f) := by
  cases result with
  | ok value => exact sound
  | error fault => exact sound

theorem sound_bind {first : β → Prop} {result : Except Fault β} {next : β → Except Fault α}
    (sound : Sound first result) (later : ∀ value, first value → Sound good (next value)) :
    Sound good (result >>= next) := by
  cases result with
  | ok value => exact later value sound
  | error fault => exact sound

theorem Sound.weaken {result : Except Fault α} {better : α → Prop} (sound : Sound better result)
    (weaker : ∀ value, better value → good value) : Sound good result := by
  cases result with
  | ok value => exact weaker value sound
  | error fault => exact sound

theorem sound_literal (letters s : Text) : Sound (fun _ => True) (literal letters s) := by
  induction letters generalizing s with
  | nil => trivial
  | cons letter letters ih =>
      cases s with
      | nil => rfl
      | cons c s =>
          rw [literal]
          split
          · exact sound_map _ (ih s)
          · rfl

theorem sound_inRange (number : Option Number) (rest : Text) (suffix : rest <:+ s) :
    Sound (fun _ => True) (inRange number rest suffix) := by
  cases number <;> trivial

theorem sound_exponentDigits (below : Bool) (numeral : Numeral) (down : Bool) (s : Text) :
    Sound (fun _ => True) (exponentDigits below numeral down s) := by
  unfold exponentDigits
  split
  · rfl
  · split
    · simp only
      split
      · exact sound_inRange _ _ _
      · split <;> trivial
    · rfl

theorem sound_exponentPart (below : Bool) (numeral : Numeral) (s : Text) :
    Sound (fun _ => True) (exponentPart below numeral s) := by
  unfold exponentPart
  split
  · exact sound_map _ (sound_exponentDigits _ _ _ _)
  · exact sound_map _ (sound_exponentDigits _ _ _ _)
  · exact sound_exponentDigits _ _ _ _

theorem sound_afterFraction (below : Bool) (numeral : Numeral) (s : Text) :
    Sound (fun _ => True) (afterFraction below numeral s) := by
  unfold afterFraction
  split
  · exact sound_inRange _ _ _
  · split
    · exact sound_map _ (sound_exponentPart _ _ _)
    · exact sound_inRange _ _ _

theorem sound_fractionPart (below : Bool) (numeral : Numeral) (s : Text) :
    Sound (fun _ => True) (fractionPart below numeral s) := by
  unfold fractionPart
  simp only
  split
  · split <;> rfl
  · exact sound_map _ (sound_afterFraction _ _ _)

theorem sound_afterInteger (below : Bool) (digits excess : Nat) (s : Text) :
    Sound (fun _ => True) (afterInteger below digits excess s) := by
  unfold afterInteger
  split
  · exact sound_map _ (sound_fractionPart _ _ _)
  · exact sound_afterFraction _ _ _
  · exact sound_afterFraction _ _ _
  · split <;> exact sound_inRange _ _ _

theorem sound_unsignedNumber (below : Bool) (s : Text) :
    Sound (fun _ => True) (unsignedNumber below s) := by
  unfold unsignedNumber
  split
  · rfl
  · split
    · rfl
    · exact sound_map _ (sound_afterInteger _ _ _ _)
  · split
    · exact sound_map _ (sound_afterInteger _ _ _ _)
    · rfl

theorem sound_hexUnit (s : Text) : Sound (fun _ => True) (hexUnit s) := by
  unfold hexUnit
  split
  · split <;> trivial
  · split <;> rfl

theorem sound_trailingUnit (s : Text) : Sound (fun _ => True) (trailingUnit s) := by
  unfold trailingUnit
  split
  · rfl
  · rfl
  · refine sound_bind (sound_hexUnit _) fun unit _ => ?_
    split <;> trivial
  · rfl
  · rfl

theorem sound_hexEscape (s : Text) : Sound (fun _ => True) (hexEscape s) := by
  unfold hexEscape
  refine sound_bind (sound_hexUnit s) fun unit _ => ?_
  split
  · rfl
  · split
    · exact sound_bind (sound_trailingUnit _) fun _ _ => trivial
    · trivial

theorem sound_escaped (s : Text) : Sound (fun _ => True) (escaped s) := by
  unfold escaped
  split
  · rfl
  · exact sound_map _ (sound_hexEscape _)
  · simp only
    split <;> trivial

theorem sound_stringBody (s : Text) : Sound (fun _ => True) (stringBody s) := by
  fun_induction stringBody s with
  | case1 => rfl
  | case2 => trivial
  | case3 rest ih =>
      exact sound_bind (sound_escaped rest) fun char _ => sound_bind (ih char) fun _ _ => trivial
  | case4 => rfl
  | case5 c rest _ _ _ ih => exact sound_map _ ih

theorem sound_afterSpace (good : α → Prop) {read : (s : Text) → Reading α s}
    (sound : ∀ s, Sound (fun parsed => good parsed.value) (read s)) (s : Text) :
    Sound (fun parsed => good parsed.value) (afterSpace read s) :=
  sound_map _ (sound _)

theorem sound_colon (s : Text) : Sound (fun _ => True) (colon s) := by
  refine sound_afterSpace (fun _ => True) (fun s => ?_) s
  split <;> trivial

theorem sound_moreItems {item : (s : Text) → Reading α s}
    (sound : ∀ s, Sound (fun parsed => good parsed.value) (item s)) (s : Text) :
    Sound (fun parsed => ∀ value ∈ parsed.value, good value) (moreItems item s) := by
  fun_induction moreItems item s with
  | case1 | case3 | case4 | case6 => rfl
  | case2 => simp [Sound]
  | case5 s rest next c _ _ _ _ _ ih =>
      refine sound_bind (sound next) fun first found => sound_bind (ih first) fun others all => ?_
      exact List.forall_mem_cons.2 ⟨found, all⟩

theorem sound_items {item : (s : Text) → Reading α s}
    (sound : ∀ s, Sound (fun parsed => good parsed.value) (item s)) (s : Text) :
    Sound (fun parsed => ∀ value ∈ parsed.value, good value) (items item s) := by
  refine sound_afterSpace (fun values => ∀ value ∈ values, good value) (fun s => ?_) s
  split
  · rfl
  · simp [Sound, Parsed.char]
  · refine sound_bind (sound _) fun first found =>
      sound_bind (sound_moreItems sound _) fun others all => ?_
    exact List.forall_mem_cons.2 ⟨found, all⟩

theorem sound_keyed {entry : Text → (s : Text) → Reading α s}
    (sound : ∀ key s, Sound (fun parsed => good parsed.value) (entry key s)) (s : Text) :
    Sound (fun parsed => good parsed.value) (keyed entry s) :=
  sound_bind (sound_stringBody s) fun _ _ => sound_bind (sound _ _) fun _ found => found

theorem sound_moreEntries {kept : σ → Prop} {entry : σ → Text → (s : Text) → Reading σ s}
    (sound : ∀ state, kept state → ∀ key s,
      Sound (fun parsed => kept parsed.value) (entry state key s))
    {state : σ} (holds : kept state) (s : Text) :
    Sound (fun parsed => kept parsed.value) (moreEntries entry state s) := by
  fun_induction moreEntries entry state s with
  | case1 | case3 | case5 | case6 | case7 => rfl
  | case2 => exact holds
  | case4 state s rest after _ _ _ _ ih =>
      refine sound_bind (sound_keyed (sound state holds) after) fun first kept_first =>
        sound_bind (ih first kept_first) fun others kept_others => ?_
      exact kept_others

theorem sound_foldEntries {kept : σ → Prop} {entry : σ → Text → (s : Text) → Reading σ s}
    (sound : ∀ state, kept state → ∀ key s,
      Sound (fun parsed => kept parsed.value) (entry state key s))
    {state : σ} (holds : kept state) (s : Text) :
    Sound (fun parsed => kept parsed.value) (foldEntries entry state s) := by
  refine sound_afterSpace kept (fun s => ?_) s
  split
  · rfl
  · exact holds
  · exact sound_bind (sound_keyed (sound state holds) _) fun first kept_first =>
      sound_bind (sound_moreEntries sound kept_first _) fun others kept_others => kept_others
  · rfl

end Sound

section Values

variable {s : Text}

theorem distinct_settle {entries : List (Text × Json)}
    (inner : ∀ entry ∈ entries, Distinct entry.2) : Distinct (.object (settle entries)) := by
  let add (settled : List (Text × Json)) (entry : Text × Json) : List (Text × Json) :=
    upsert entry.1 (fun _ => entry.2) settled
  have grow : ∀ settled, Distinct (.object settled) →
      Distinct (.object (entries.foldl add settled)) := by
    induction entries with
    | nil => exact fun _ distinct => distinct
    | cons entry rest ih =>
        intro settled distinct
        rw [List.forall_mem_cons] at inner
        exact ih inner.2 _ (distinct_upsert distinct inner.1)
  exact grow [] (by simp)

theorem sound_scalar {read : Reading Json s} (scalar : scalar? s = some read) :
    Sound (fun parsed => Distinct parsed.value) read := by
  unfold scalar? at scalar
  split at scalar
  · cases scalar
    exact sound_map _ ((sound_literal _ _).weaken fun _ _ => .null)
  · cases scalar
    exact sound_map _ ((sound_literal _ _).weaken fun _ _ => .bool true)
  · cases scalar
    exact sound_map _ ((sound_literal _ _).weaken fun _ _ => .bool false)
  · cases scalar
    exact sound_map _ ((sound_unsignedNumber _ _).weaken fun _ _ => .number _)
  · cases scalar
    exact sound_map _ ((sound_stringBody _).weaken fun _ _ => .string _)
  · split at scalar
    · cases scalar
      exact sound_map _ ((sound_unsignedNumber _ _).weaken fun _ _ => .number _)
    · contradiction

/-- Each value read is free of repeated keys, as deep as documents may be nested. -/
theorem sound_valueWithin (depth : Nat) (s : Text) :
    Sound (fun parsed => Distinct parsed.value) (valueWithin depth s) := by
  induction depth generalizing s with
  | zero =>
      rw [valueWithin]
      refine sound_afterSpace Distinct (fun s => ?_) s
      split
      · rfl
      · split
        · exact sound_scalar ‹_›
        · split
          · rfl
          · split <;> rfl
  | succ depth ih =>
      rw [valueWithin]
      refine sound_afterSpace Distinct (fun s => ?_) s
      split
      · rfl
      · split
        · exact sound_scalar ‹_›
        · split
          · exact sound_map _ ((sound_items ih _).weaken fun _ all => .array all)
          · split
            -- While entries are read a key may come twice; they are settled at the end.
            · let kept (entries : List (Text × Json)) : Prop := ∀ entry ∈ entries, Distinct entry.2
              have none : kept [] := by simp [kept]
              refine sound_map _ (Sound.weaken (sound_foldEntries ?_ none _)
                fun _ all => distinct_settle all)
              intro entries all key s
              refine sound_bind (sound_colon s) fun mark _ =>
                sound_bind (ih _) fun value distinct => ?_
              exact List.forall_mem_append.2 ⟨all, by simpa using distinct⟩
            · rfl

theorem distinct_of_parse {document : Text} {value : Json} (read : parse document = .ok value) :
    Distinct value := by
  have sound := sound_valueWithin greatestDepth document
  unfold parse readWhole at read
  split at read
  · contradiction
  · next parsed found =>
    rw [found] at sound
    split at read
    · exact Except.ok.inj read ▸ sound
    · contradiction

theorem isOfText_of_parse {document : Text} {error : ReadError}
    (failed : parse document = .error error) : error.cause.isOfText = true := by
  have sound := sound_valueWithin greatestDepth document
  unfold parse readWhole at failed
  split at failed
  · next fault found =>
    rw [found] at sound
    exact Except.error.inj failed ▸ sound
  · split at failed
    · contradiction
    · exact Except.error.inj failed ▸ rfl

theorem distinct_of_mem_read {documents : List Text} {value : Json}
    (member : value ∈ documents.filterMap fun document => (parse document).toOption) :
    Distinct value := by
  obtain ⟨document, _, read⟩ := List.mem_filterMap.1 member
  cases parsed : parse document with
  | ok found =>
      rw [parsed] at read
      exact Option.some.inj read ▸ distinct_of_parse parsed
  | error error => simp [parsed, Except.toOption] at read

/-- However many documents are merged, no object of the result has a key twice. -/
theorem distinct_combine (documents : List Text) : Distinct (combine documents).value := by
  have grow : ∀ values : List Json, (∀ value ∈ values, Distinct value) →
      ∀ base, Distinct base → Distinct (values.foldl merge base) := by
    intro values all
    induction values with
    | nil => exact fun _ distinct => distinct
    | cons value rest ih =>
        intro base distinct
        rw [List.forall_mem_cons] at all
        exact ih all.2 _ (distinct_merge distinct all.1)
  rw [combine_eq]
  exact grow _ (fun _ => distinct_of_mem_read) _ (.object (by simp) (by simp))

end Values

section Messages

theorem not_mem_ofNat {c : Char} (other : c.isDigit = false) (n : Nat) : c ∉ Text.ofNat n := by
  intro member
  have digit := Nat.isDigit_of_mem_toDigits (by decide) (by decide) member
  rw [other] at digit
  contradiction

theorem newline_not_mem_message {cause : Cause} (ofText : cause.isOfText = true) :
    '\n' ∉ cause.message := by
  cases cause <;> first | contradiction | decide

/-- What is wrong with a document is said on one line. -/
theorem newline_not_mem_inputMessage {document : Text} {error : ReadError}
    (failed : parse document = .error error) : '\n' ∉ inputMessage error := by
  have cause := newline_not_mem_message (isOfText_of_parse failed)
  change '\n' ∉ "Error parsing JSON: ".toList ++ error.message
  simp only [ReadError.message, List.mem_append, not_or]
  exact ⟨by decide, ⟨⟨⟨cause, by decide⟩, not_mem_ofNat (by decide) _⟩, by decide⟩,
    not_mem_ofNat (by decide) _⟩

end Messages

end QueryConditions.Json
