import QueryConditions.Proofs.Extraction.Nesting
import QueryConditions.Proofs.Extraction.Tables
import QueryConditions.Proofs.Query.OuterText

/-!
The interior of a subquery and the text around it. One interior in the place of another
leaves the outer text as it is, wherever the subquery stands: groups that open before it
close behind it as they did, or stay open as they did. So the conditions that the outermost
scope states itself are the same, but for tables that its aliases may give them.
-/

namespace QueryConditions

def IsSubquery (s : Text) : Prop :=
  OpensSubquery s ∧ matchingParen? s 0 = some (s.byteLength - 1)

instance (s : Text) : Decidable (IsSubquery s) := inferInstanceAs (Decidable (_ ∧ _))

def withGroup (before interior after : Text) : Text := before ++ '(' :: (interior ++ ')' :: after)

variable {first second interior before after : Text}

theorem eq_nil_of_byteLength {s : Text} (empty : s.byteLength = 0) : s = [] := by
  cases s with
  | nil => rfl
  | cons c s =>
      have positive := Char.utf8Size_pos c
      rw [Text.byteLength_cons] at empty
      omega

theorem balanced_of_isSubquery (whole : IsSubquery (withGroup [] interior [])) :
    Balanced interior := by
  obtain ⟨_, closed⟩ := whole
  simp only [withGroup, List.nil_append, matchingParen?, dropBytes?_zero, Option.bind_eq_bind,
    Option.bind_some, Option.bind_eq_some_iff, Option.pure_def, Option.some.injEq] at closed
  obtain ⟨⟨inside, rest⟩, found, last⟩ := closed
  obtain ⟨balanced, shape⟩ := group?_eq_some_iff.1 found
  -- The matching parenthesis is the last character, so nothing is left behind the group.
  have none : rest = [] := by
    apply eq_nil_of_byteLength
    simp only [shape, byteLength_group] at last
    omega
  rw [none] at shape
  simp only [List.cons.injEq, true_and] at shape
  rw [List.append_cancel_right shape]
  exact balanced

theorem opens_of_isSubquery (whole : IsSubquery (withGroup [] interior [])) :
    opensSubquery ('(' :: interior) = true := by
  have opens := opensSubquery_iff.2 whole.1
  rwa [withGroup, List.nil_append, opensSubquery_append_stop (by decide) (by decide)] at opens

theorem untilClose?_group (balanced : Balanced interior) (depth : Nat) (after : Text) :
    untilClose? depth ('(' :: (interior ++ ')' :: after)) =
      (untilClose? depth after).map fun (inside, rest) => (withGroup [] interior inside, rest) := by
  simpa [withGroup] using untilClose?_balanced (.group balanced .nil) depth after

/-- A subquery that opens before a group closes before it or behind it, or never. -/
theorem subquery?_withGroup (c : Char) (before after : Text) :
    (∀ interior, Balanced interior → subquery? (c :: withGroup before interior after) = none) ∨
    (∃ inside rest, rest <:+ before ∧ ∀ interior, Balanced interior →
      subquery? (c :: withGroup before interior after) =
        some (inside, withGroup rest interior after)) ∨
    ∃ start rest, ∀ interior, Balanced interior →
      subquery? (c :: withGroup before interior after) =
        some (withGroup before interior start, rest) := by
  by_cases parenthesis : c = '('
  · subst parenthesis
    have opening (interior : Text) : opensSubquery ('(' :: withGroup before interior after) =
        opensSubquery ('(' :: before) :=
      opensSubquery_append_stop (by decide) (by decide) before _
    by_cases opens : opensSubquery ('(' :: before) = true
    -- Whether the search ends before the group is settled without looking into the group.
    · rcases untilClose?_append_cases 0 before with ⟨inside, rest, suffix, ends⟩ | ⟨depth, goesOn⟩
      · refine .inr (.inl ⟨inside, rest, suffix, fun interior _ => ?_⟩)
        rw [subquery?, opening, if_pos opens]
        exact ends _
      · have onward (interior : Text) (balanced : Balanced interior) :
            subquery? ('(' :: withGroup before interior after) =
              (untilClose? depth after).map fun (start, rest) =>
                (withGroup before interior start, rest) := by
          rw [subquery?, opening, if_pos opens, withGroup, group?, goesOn,
            untilClose?_group balanced, Option.map_map]
          rfl
        cases closed : untilClose? depth after with
        | none => exact .inl fun interior balanced => by rw [onward interior balanced, closed]; rfl
        | some found =>
            refine .inr (.inr ⟨found.1, found.2, fun interior balanced => ?_⟩)
            rw [onward interior balanced, closed]
            rfl
    · exact .inl fun interior _ => by rw [subquery?, opening, if_neg opens]
  · exact .inl fun interior _ => subquery?_cons_of_ne parenthesis _

theorem outerText_withGroup (balanced : Balanced first) (balanced' : Balanced second)
    (opens : opensSubquery ('(' :: first) = true) (opens' : opensSubquery ('(' :: second) = true)
    (before after : Text) :
    outerText (withGroup before first after) = outerText (withGroup before second after) := by
  cases before with
  | nil =>
      have found := subquery?_balanced balanced after
      have found' := subquery?_balanced balanced' after
      rw [if_pos opens] at found
      rw [if_pos opens'] at found'
      rw [withGroup, withGroup, List.nil_append, List.nil_append, outerText_cons_of_some found,
        outerText_cons_of_some found']
      rfl
  | cons c before =>
      -- Behind its first segment the text has the same group in it, or no more of it.
      have swap (rest : Text) (shorter : rest <:+ before) :
          outerText (withGroup rest first after) = outerText (withGroup rest second after) :=
        have := shorter.length_le
        outerText_withGroup balanced balanced' opens opens' rest after
      have front (interior : Text) :
          withGroup (c :: before) interior after = c :: withGroup before interior after := rfl
      rw [front, front]
      rcases subquery?_withGroup c before after with
        never | ⟨inside, rest, suffix, ahead⟩ | ⟨start, rest, behind⟩
      · rw [outerText_cons_of_none (never first balanced),
          outerText_cons_of_none (never second balanced'), swap before List.suffix_rfl]
      · rw [outerText_cons_of_some (ahead first balanced),
          outerText_cons_of_some (ahead second balanced'), swap rest suffix]
      · rw [outerText_cons_of_some (behind first balanced),
          outerText_cons_of_some (behind second balanced')]
        rfl
termination_by before.length
decreasing_by
  simp only [List.length_cons]
  omega

/-- What stands inside of a subquery has no part in the outer text, nor in what the outermost
scope states itself, but for the aliases that may be found in it. -/
theorem interior_leaves_outer_scope (before first second after : Text)
    (whole : IsSubquery (withGroup [] first [])) (whole' : IsSubquery (withGroup [] second [])) :
    outerText (withGroup before first after) = outerText (withGroup before second after) ∧
    ∀ inherited,
      List.Forall₂ Condition.Agrees (ownConditions inherited (withGroup before first after))
        (ownConditions inherited (withGroup before second after)) ∧
      (Aliases.ofSql (withGroup before first after) =
          Aliases.ofSql (withGroup before second after) →
        ownConditions inherited (withGroup before first after) =
          ownConditions inherited (withGroup before second after)) := by
  have outer := outerText_withGroup (balanced_of_isSubquery whole) (balanced_of_isSubquery whole')
    (opens_of_isSubquery whole) (opens_of_isSubquery whole') before after
  refine ⟨outer, fun inherited => ⟨?_, fun aliases => ?_⟩⟩
  · exact Condition.forall₂_agrees_iff.2 (untabled_conditions outer _ _)
  · simp only [ownConditions, Scope.conditions, outer, aliases]

theorem interior_leaves_outer_scope_unclosed :
    IsSubquery (withGroup [] "SELECT a FROM b c".toList []) ∧
    IsSubquery (withGroup [] "select(c.d) FROM b c WHERE c.d > 0".toList []) ∧
    outerText (withGroup "FROM b c WHERE c.x = 1 AND (SELECT q ( c.y IN ".toList
        "SELECT a FROM b c".toList " ) AND z = 2".toList) =
      outerText (withGroup "FROM b c WHERE c.x = 1 AND (SELECT q ( c.y IN ".toList
        "select(c.d) FROM b c WHERE c.d > 0".toList " ) AND z = 2".toList) ∧
    ownConditions .empty (withGroup "FROM b c WHERE c.x = 1 AND (SELECT q ( c.y IN ".toList
        "SELECT a FROM b c".toList " ) AND z = 2".toList) =
      ownConditions .empty (withGroup "FROM b c WHERE c.x = 1 AND (SELECT q ( c.y IN ".toList
        "select(c.d) FROM b c WHERE c.d > 0".toList " ) AND z = 2".toList) := by
  have whole : IsSubquery (withGroup [] "SELECT a FROM b c".toList []) := by decide +kernel
  have whole' : IsSubquery (withGroup [] "select(c.d) FROM b c WHERE c.d > 0".toList []) := by
    decide +kernel
  have same := interior_leaves_outer_scope "FROM b c WHERE c.x = 1 AND (SELECT q ( c.y IN ".toList
    _ _ " ) AND z = 2".toList whole whole'
  exact ⟨whole, whole', same.1, (same.2 .empty).2 (by decide +kernel)⟩

end QueryConditions
