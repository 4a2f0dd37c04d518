import JsonShape.Proofs.Validation.Depth
import JsonShape.Proofs.Validation.Located

/-!
# What a rule says of itself

The kind that a rule expects, and whether it admits a missing input and `null`, are found by looking through its
layers without a check.  A check by a rule agrees with all three (`parse_agrees_with_summaries`): an input of
another kind is let through just if it is admitted, and otherwise there is one complaint, made by the outermost
rule at the place itself, however many layers there are.
-/

namespace JsonShape

/-- What a rule admits, whatever its kind is. -/
def Schema.admits (rule : Schema) : Option Json → Bool
  | none => rule.admitsMissing
  | some .null => rule.admitsNull
  | some _ => false

theorem Schema.decider_letsThrough (rule : Schema) (input : Option Json) :
    (rule.decider input).letsThrough input = rule.admits input := by
  rw [Bool.eq_iff_iff, decider_letsThrough_iff]
  rcases input with _ | (_ | _ | _ | _ | _ | _) <;> simp [admits]

/-- No base rule wants a missing input or `null`. -/
theorem Schema.expected_ne (rule : Schema) : rule.expected ≠ .missing ∧ rule.expected ≠ .null := by
  induction rule with
  | primitive rule hp =>
    cases rule with
    | string | number | boolean => simp [expected]
    | construct | optional | nullable | array => cases hp
  | construct fields _ => simp [expected]
  | array item _ => simp [expected]
  | layer inner rule hl ih =>
    rw [hl.expected]
    exact ih

/-- **An input of another kind than the expected one** is let through as it is if the rule admits it, and
otherwise the outermost rule complains, once. -/
theorem parse_of_kind_ne {rule : Schema} {cap : Nat} (h : rule.depth ≤ cap) {input : Option Json}
    (hk : kindOf input ≠ rule.expected) :
    rule.parse input cap =
      if rule.admits input then .ok input
      else .error [⟨rule.complaint, rule.expected, kindOf input, []⟩] := by
  rw [parse_eq, scan_covered (show rule.depth + 1 ≤ cap + 1 by omega), Schema.decider_letsThrough, if_neg hk]
  by_cases ha : rule.admits input = true
  · have hpruned : input.map rule.prune = input := by
      rcases input with _ | (_ | _ | _ | _ | _ | _)
      · rfl
      · exact congrArg some (Schema.prune_eq_null_iff.mpr rfl)
      all_goals cases ha
    rw [if_pos ha, if_pos ha, if_pos rfl, hpruned]
  · rw [if_neg ha, if_neg ha, if_neg (List.cons_ne_nil _ _)]

/-- **The summaries of a rule are exact**: a missing input and `null` are let through just if they are admitted,
and come out as they are.  Any other document must be of the expected kind.  Whatever else is supplied, there is
one complaint about it, that of the outermost rule, at the place itself. -/
theorem parse_agrees_with_summaries {rule : Schema} {cap : Nat} (h : rule.depth ≤ cap) :
    (rule.parse none cap =
      if rule.admitsMissing then .ok none
      else .error [⟨rule.complaint, rule.expected, .missing, []⟩]) ∧
    (rule.parse (some .null) cap =
      if rule.admitsNull then .ok (some .null)
      else .error [⟨rule.complaint, rule.expected, .null, []⟩]) ∧
    ∀ document, document ≠ .null →
      ((∃ out, rule.parse (some document) cap = .ok out) → document.kind = rule.expected) ∧
      (document.kind ≠ rule.expected →
        rule.parse (some document) cap = .error [⟨rule.complaint, rule.expected, document.kind, []⟩]) := by
  obtain ⟨hmissing, hnull⟩ := rule.expected_ne
  refine ⟨parse_of_kind_ne h hmissing.symm, parse_of_kind_ne h hnull.symm, ?_⟩
  intro document hd
  -- no document but `null` is let through outright, so one of another kind is refused by the outermost rule
  have hrefused : document.kind ≠ rule.expected →
      rule.parse (some document) cap = .error [⟨rule.complaint, rule.expected, document.kind, []⟩] := by
    intro hk
    have hne : kindOf (some document) ≠ rule.expected := hk
    have hn : rule.admits (some document) = false := by
      cases document with
      | null => exact absurd rfl hd
      | bool | number | string | array | object => rfl
    rw [parse_of_kind_ne h hne, hn]
    rfl
  refine ⟨?_, hrefused⟩
  rintro ⟨out, hparse⟩
  by_contra hk
  rw [hrefused hk] at hparse
  cases hparse

/-- A missing input passes through the outer layer, and it is this layer that complains about a truth value. -/
theorem parse_agrees_with_summaries_sample :
    let rule : Schema := .nullable (.optional (.array .string))
    rule.depth ≤ 4 ∧ rule.parse none 4 = .ok none ∧ rule.parse (some .null) 4 = .ok (some .null) ∧
      rule.parse (some (.bool true)) 4 = .error [⟨.unexpectedNull, .array, .boolean, []⟩] := by
  intro rule
  have hdepth : rule.depth ≤ 4 := by decide
  obtain ⟨hmissing, hnull, hothers⟩ := parse_agrees_with_summaries hdepth
  exact ⟨hdepth, hmissing, hnull, (hothers (.bool true) (by simp)).2 (by decide)⟩

end JsonShape
