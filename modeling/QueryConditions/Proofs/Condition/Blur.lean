import QueryConditions.Condition.Basic
import QueryConditions.Proofs.Condition.Operators
import QueryConditions.Proofs.Text.Blur

/-!
Conditions of blurred fragments. A blurred fragment states the same operator, and its
column and value are the blurred ones. Tables are left out: aliases are looked up as
they are written.
-/

namespace QueryConditions

section Operators

theorem parts_not_blank (op : Operator) : op.parts.all (·.all (!isBlank ·)) = true := by
  cases op <;> decide

theorem spacedOperand?_blur (op : Operator) (after : Text) :
    spacedOperand? op after.blur = (spacedOperand? op after).map (Option.map Text.blur) := by
  unfold spacedOperand?
  split
  · rw [wordEnds_blur]
    split <;> rfl
  · rcases after with - | ⟨gap, - | ⟨c, rest⟩⟩
    · rfl
    · rfl
    · simp only [blur_cons, isBlank_blurChar]
      split
      · exact congrArg (some ∘ some) (trim_blur (gap :: c :: rest))
      · rfl

theorem notBlank_blurChar (before : Option Char) :
    (before.map blurChar).all (!isBlank ·) = before.all (!isBlank ·) := by
  cases before with
  | none => rfl
  | some c => exact congrArg (! ·) (isBlank_blurChar c)

theorem spacedOperator_blind (op : Operator) : (spacedOperator op).Blind (Option.map Text.blur) := by
  intro before s
  simp only [spacedOperator, notBlank_blurChar, Option.bind_eq_bind, blanks?_blur]
  split
  · cases blanks? s with
    | none => rfl
    | some start =>
        simp only [Option.map_some, Option.bind_some, keywords?_blur (parts_not_blank op)]
        cases keywords? op.parts start with
        | none => rfl
        | some after =>
            simp only [Option.map_some, Option.bind_some, spacedOperand?_blur]
            cases spacedOperand? op after <;> rfl
  · rfl

theorem blurChar_eq_sign {sign : Char} (isSign : isSign sign = true) (c : Char) :
    blurChar c = sign ↔ c = sign := by
  simp only [QueryConditions.isSign, Bool.or_eq_true, beq_iff_eq] at isSign
  rcases isSign with ((rfl | rfl) | rfl) | rfl <;>
    exact blurChar_eq_iff (by decide) (by decide) c

theorem symbol?_blur {symbol : Text} (signs : symbol.all isSign = true) (s : Text) :
    symbol? symbol s.blur = (symbol? symbol s).map Text.blur := by
  induction symbol generalizing s with
  | nil => rfl
  | cons sign symbol ih =>
      simp only [List.all_cons, Bool.and_eq_true] at signs
      cases s with
      | nil => rfl
      | cons c s =>
          simp only [blur_cons, symbol?, eq_comm (a := sign), blurChar_eq_sign signs.1, ih signs.2]
          split <;> rfl

theorem bne_sign_blurChar {sign : Char} (sign' : isSign sign = true) (c : Char) :
    (blurChar c != sign) = (c != sign) := by
  rw [Bool.eq_iff_iff, bne_iff_ne, bne_iff_ne, Ne, Ne, blurChar_eq_sign sign']

theorem mayFollowSymbol_blurChar (c : Char) :
    mayFollowSymbol (blurChar c) = mayFollowSymbol c := by
  have less := bne_sign_blurChar (by decide : isSign '<' = true) c
  have greater := bne_sign_blurChar (by decide : isSign '>' = true) c
  have equals := bne_sign_blurChar (by decide : isSign '=' = true) c
  simp only [mayFollowSymbol, isBlank_blurChar, less, greater, equals]

theorem mayPrecedeSymbol_blurChar (before : Option Char) :
    (before.map blurChar).any mayPrecedeSymbol = before.any mayPrecedeSymbol := by
  cases before with
  | none => rfl
  | some c =>
      have less := bne_sign_blurChar (by decide : isSign '<' = true) c
      have greater := bne_sign_blurChar (by decide : isSign '>' = true) c
      have bang := bne_sign_blurChar (by decide : isSign '!' = true) c
      have equals := bne_sign_blurChar (by decide : isSign '=' = true) c
      simp only [Option.map_some, Option.any_some, mayPrecedeSymbol, isBlank_blurChar, less,
        greater, bang, equals]

theorem compactOperand?_blur (after : Text) :
    compactOperand? after.blur = (compactOperand? after).map Text.blur := by
  unfold compactOperand?
  rw [skipBlanks_blur]
  cases Text.skipBlanks after with
  | nil => rfl
  | cons c rest =>
      simp only [blur_cons, mayFollowSymbol_blurChar]
      split
      · exact congrArg some (trimEnd_blur (c :: rest))
      · rfl

theorem compactOperator_blind {op : Operator} (symbolic : op.isSymbolic = true) :
    (compactOperator op).Blind Text.blur := by
  intro before s
  simp only [compactOperator, mayPrecedeSymbol_blurChar, Option.bind_eq_bind, skipBlanks_blur,
    symbol?_blur (token_signs symbolic)]
  split
  · cases symbol? op.token (Text.skipBlanks s) with
    | none => rfl
    | some after =>
        simp only [Option.map_some, Option.bind_some, compactOperand?_blur]
        cases compactOperand? after <;> rfl
  · rfl

def OperatorMatch.blur (found : OperatorMatch) : OperatorMatch :=
  ⟨found.operator, found.left.blur, found.right.map Text.blur⟩

theorem spacedMatch?_blur (fragment : Text) (op : Operator) :
    spacedMatch? fragment.blur op = (spacedMatch? fragment op).map OperatorMatch.blur := by
  cases fragment with
  | nil => rfl
  | cons c tail =>
      have found := Pattern.find?_blur (spacedOperator_blind op) none tail
      rw [Option.map_none] at found
      simp only [blur_cons, spacedMatch?, found, Option.map_map]
      congr 1
      funext reading
      obtain ⟨left, right, rest⟩ := reading
      exact congrArg (OperatorMatch.mk op · (right.map Text.blur)) (trim_blur (c :: left))

theorem compactMatch?_blur (fragment : Text) (op : Operator) :
    compactMatch? fragment.blur op = (compactMatch? fragment op).map OperatorMatch.blur := by
  unfold compactMatch?
  split
  · next symbolic =>
      have found := Pattern.find?_blur (compactOperator_blind symbolic) none fragment
      rw [Option.map_none] at found
      simp only [found, Option.map_map]
      congr 1
      funext reading
      obtain ⟨left, right, rest⟩ := reading
      exact congrArg (OperatorMatch.mk op · (some right.blur)) (trim_blur left)
  · rfl

theorem matchOperator?_blur (fragment : Text) :
    matchOperator? fragment.blur = (matchOperator? fragment).map OperatorMatch.blur := by
  rw [matchOperator?, matchOperator?, Option.map_or, List.map_findSome?, List.map_findSome?,
    show spacedMatch? fragment.blur = Option.map OperatorMatch.blur ∘ spacedMatch? fragment from
      funext (spacedMatch?_blur fragment),
    show compactMatch? fragment.blur = Option.map OperatorMatch.blur ∘ compactMatch? fragment from
      funext (compactMatch?_blur fragment)]

end Operators

section Columns

theorem call?_blur {function : Text} (letters : function.all (!isBlank ·) = true) (s : Text) :
    call? function s.blur = (call? function s).map Text.blur := by
  unfold call?
  rw [keyword?_blur letters, Option.map_map]
  cases keyword? function s with
  | none => rfl
  | some after =>
      simp only [Option.map_some, Function.comp_apply, skipBlanks_blur]
      cases Text.skipBlanks after with
      | nil => rfl
      | cons c rest =>
          by_cases opens : c = '('
          · subst opens
            rfl
          · have opens' : blurChar c ≠ '(' := fun same => opens ((blurChar_eq_open_iff c).1 same)
            simp [opens, opens']

theorem scalarCall_blind : scalarCall.Blind id := by
  intro before s
  have letters : scalarFunctions.all (·.all (!isBlank ·)) = true := by decide
  simp only [scalarCall, wordMayBegin_blur]
  split
  · generalize scalarFunctions = functions at letters
    induction functions with
    | nil => rfl
    | cons function functions ih =>
        simp only [List.all_cons, Bool.and_eq_true] at letters
        simp only [List.findSome?_cons, call?_blur letters.1]
        cases call? function s with
        | none => exact ih letters.2
        | some rest => rfl
  · rfl

theorem typeCast_blind : typeCast.Blind id := by
  intro before s
  have letters : "AS".toList.all (!isBlank ·) = true := by decide
  simp only [typeCast, Option.bind_eq_bind, blanks?_blur]
  cases blanks? s with
  | none => rfl
  | some gap =>
      simp only [Option.map_some, Option.bind_some, keyword?_blur letters]
      cases keyword? "AS".toList gap with
      | none => rfl
      | some named =>
          simp only [Option.map_some, Option.bind_some, blanks?_blur]
          cases blanks? named with
          | none => rfl
          | some start =>
              simp only [Option.map_some, Option.bind_some, word?_blur]
              cases word? start <;> rfl

theorem eraseCalls_blur (s : Text) : eraseCalls s.blur = (eraseCalls s).blur := by
  have erased := Pattern.erase_blur scalarCall_blind s
  rw [eraseCalls.eq_def s.blur, eraseCalls.eq_def s, erased]
  by_cases stable : scalarCall.erase s = s
  · simp [stable]
  · have shorter := scalarCall.length_erase_lt_of_ne stable
    have changed : (scalarCall.erase s).blur ≠ s.blur := by
      intro same
      have lengths := congrArg List.length same
      rw [length_blur, length_blur] at lengths
      omega
    rw [if_neg changed, if_neg stable]
    exact eraseCalls_blur (scalarCall.erase s)
termination_by s.length

theorem columnRef?_blur (s : Text) : columnRef? s.blur = (columnRef? s).map Text.blur := by
  have word (c : Char) : (!isWord (blurChar c)) = !isWord c := congrArg (! ·) (isWord_blurChar c)
  simp only [columnRef?, Option.bind_eq_bind, dropWhile_blur (p := (!isWord ·)) word, word?_blur]
  cases word? (s.dropWhile (!isWord ·)) with
  | none => rfl
  | some found =>
      obtain ⟨first, rest⟩ := found
      simp only [Option.map_some, Option.bind_some]
      rcases rest with - | ⟨c, after⟩
      · rfl
      · by_cases dot : c = '.'
        · subst dot
          have shape : blurChar '.' = '.' := by decide
          simp only [blur_cons, shape, word?_blur]
          cases word? after with
          | none => rfl
          | some second => simp [shape]
        · have dot' : blurChar c ≠ '.' := fun same =>
            dot ((blurChar_eq_iff (by decide) (by decide) c).1 same)
          simp [dot, dot']

theorem normalizeColumn_blur (expr : Text) :
    normalizeColumn expr.blur = (normalizeColumn expr).blur := by
  have kept (c : Char) : (blurChar c != '(' && blurChar c != ')') = (c != '(' && c != ')') := by
    rw [Bool.eq_iff_iff]
    simp only [Bool.and_eq_true, bne_iff_ne, Ne, blurChar_eq_open_iff, blurChar_eq_close_iff]
  simp only [normalizeColumn, trim_blur, eraseCalls_blur, Pattern.erase_blur typeCast_blind]
  generalize typeCast.erase (eraseCalls (Text.trim expr)) = erased
  have bare : erased.blur.filter (fun c => c != '(' && c != ')') =
      Text.blur (erased.filter fun c => c != '(' && c != ')') := by
    rw [Text.blur, List.filter_map, Text.blur]
    congr 1
    exact List.filter_congr fun c _ => kept c
  rw [bare, columnRef?_blur, trim_blur]
  cases columnRef? (erased.filter fun c => c != '(' && c != ')') <;> rfl

theorem splitQualified_blur (column : Text) :
    splitQualified column.blur =
      ((splitQualified column).1.map Text.blur, (splitQualified column).2.blur) := by
  have dot (c : Char) : (blurChar c != '.') = (c != '.') := by
    have same : blurChar c = '.' ↔ c = '.' := blurChar_eq_iff (by decide) (by decide) c
    rw [Bool.eq_iff_iff, bne_iff_ne, bne_iff_ne, Ne, Ne, same]
  unfold splitQualified
  rw [dropWhile_blur dot, takeWhile_blur dot]
  cases column.dropWhile (· != '.') <;> rfl

end Columns

section Conditions

theorem isQuote_blurChar (c : Char) : isQuote (blurChar c) = isQuote c := by
  have single : blurChar c = '\'' ↔ c = '\'' := blurChar_eq_iff (by decide) (by decide) c
  have double : blurChar c = '"' ↔ c = '"' := blurChar_eq_iff (by decide) (by decide) c
  rw [Bool.eq_iff_iff]
  simp only [isQuote, Bool.or_eq_true, beq_iff_eq, single, double]

theorem stripQuotes_blur (value : Text) : stripQuotes value.blur = (stripQuotes value).blur := by
  rw [stripQuotes, trim_blur, dropWhile_blur isQuote_blurChar, reverse_blur,
    dropWhile_blur isQuote_blurChar, reverse_blur, stripQuotes]

def Condition.blurred (condition : Condition) : Text × Operator × Text :=
  (condition.column.blur, condition.operator, condition.value.blur)

theorem ofFragment?_blur (aliases other : Aliases) (fragment : Text) :
    (Condition.ofFragment? aliases fragment.blur).map Condition.blurred =
      (Condition.ofFragment? other fragment).map Condition.blurred := by
  unfold Condition.ofFragment?
  rw [matchOperator?_blur]
  cases matchOperator? fragment with
  | none => rfl
  | some found =>
      obtain ⟨op, left, right⟩ := found
      simp only [Option.map_some, OperatorMatch.blur, normalizeColumn_blur, splitQualified_blur,
        Condition.blurred, blur_blur]
      cases right with
      | none => rfl
      | some right =>
          simp only [Option.map_some, Option.elim_some, stripQuotes_blur, blur_blur]

end Conditions

end QueryConditions
