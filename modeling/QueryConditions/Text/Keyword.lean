import QueryConditions.Text.Word

/-!
Keywords are recognized in any letter case. Two letters outside ASCII have an
ASCII letter as their simple case folding: the long s and the Kelvin sign.
-/

namespace QueryConditions

def foldCase (c : Char) : Char :=
  if c = '\u017f' then 's' else if c = '\u212a' then 'k' else c.toLower

def keyword? : Text → Text → Option Text
  | [], s => some s
  | _ :: _, [] => none
  | letter :: keyword, c :: s =>
      if foldCase letter = foldCase c then keyword? keyword s else none

def keywords? : List Text → Text → Option Text
  | [], s => some s
  | [keyword], s => keyword? keyword s
  | keyword :: keywords, s => do
      let after ← keyword? keyword s
      let next ← blanks? after
      keywords? keywords next

variable {s rest : Text}

theorem keyword?_suffix {keyword : Text} (found : keyword? keyword s = some rest) : rest <:+ s := by
  induction keyword generalizing s with
  | nil => cases found; exact List.suffix_rfl
  | cons letter keyword ih =>
      cases s with
      | nil => simp [keyword?] at found
      | cons c tail =>
          simp only [keyword?] at found
          split at found
          · exact (ih found).trans (List.suffix_cons c tail)
          · simp at found

theorem keywords?_suffix {keywords : List Text} (found : keywords? keywords s = some rest) :
    rest <:+ s := by
  induction keywords generalizing s with
  | nil => cases found; exact List.suffix_rfl
  | cons keyword keywords ih =>
      cases keywords with
      | nil => exact keyword?_suffix found
      | cons second others =>
          simp only [keywords?, Option.bind_eq_bind, Option.bind_eq_some_iff] at found
          obtain ⟨after, here, next, gap, found⟩ := found
          exact (ih found).trans ((blanks?_follows gap).1.trans (keyword?_suffix here))

end QueryConditions
