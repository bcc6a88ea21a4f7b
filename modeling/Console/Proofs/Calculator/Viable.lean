import Console.Proofs.Calculator.Exactness
import Mathlib.Data.List.Induction

/-! Tokens that can be continued to an expression. They are those that are read into a draft: an
    operand that a draft waits for can be supplied, and open parentheses can be closed. What is
    finished in a draft stays a part of every expression that the tokens begin. -/

namespace Console.Calculator

namespace Draft

/-! ### Tokens that can be continued -/

/-- Behind an operand the open parentheses can be closed, from the innermost. -/
theorem exists_run_operator (outer : List Pending) :
    ∀ (sum : Option (Expr × SumOp)) (term : Term), ∃ rest next e,
      (operator sum term outer).run rest = some next ∧ next.finish = some e := by
  induction outer with
  | nil => exact fun sum term => ⟨[], _, _, rfl, rfl⟩
  | cons p outer ih =>
    intro sum term
    obtain ⟨rest, next, e, hrun, hfinish⟩ :=
      ih p.sum (p.term (.atom (.parentheses (.join sum term))))
    exact ⟨.closing :: rest, next, e, hrun, hfinish⟩

/-- Every draft can be finished. -/
theorem exists_run_finish (d : Draft) :
    ∃ rest next e, d.run rest = some next ∧ next.finish = some e := by
  cases d with
  | operator sum term outer => exact exists_run_operator outer sum term
  | operand p outer =>
    obtain ⟨rest, next, e, hrun, hfinish⟩ :=
      exists_run_operator outer p.sum (p.term (.atom (.number (.int 0))))
    exact ⟨.number (.int 0) :: rest, next, e, hrun, hfinish⟩

end Draft

/-- Tokens can be continued exactly if they are read into a draft. -/
theorem viable_iff_run {ts : List Token} : Viable ts ↔ ∃ d, Draft.start.run ts = some d := by
  constructor
  · rintro ⟨rest, e, he⟩
    have hparse := parse?_eq_some_iff.2 he
    rw [parse?, Draft.run_append] at hparse
    obtain ⟨_, hrun, -⟩ := Option.bind_eq_some_iff.1 hparse
    obtain ⟨d, hd, -⟩ := Option.bind_eq_some_iff.1 hrun
    exact ⟨d, hd⟩
  · rintro ⟨d, hd⟩
    obtain ⟨rest, next, e, hrun, hfinish⟩ := d.exists_run_finish
    have hparse : parse? (ts ++ rest) = some e := by
      rw [parse?, Draft.run_append, hd, Option.bind_some, hrun, Option.bind_some, hfinish]
    exact ⟨rest, e, tokens_of_parse? hparse⟩

theorem Grammatical.viable {ts : List Token} (h : Grammatical ts) : Viable ts :=
  ⟨[], (List.append_nil ts).symm ▸ h⟩

/-- Tokens that cannot be continued have a first one that cannot come where it stands. -/
theorem exists_first_refused {ts : List Token} (h : ¬ Viable ts) :
    ∃ front t back, ts = front ++ t :: back ∧ Viable front ∧ ¬ Viable (front ++ [t]) := by
  induction ts using List.reverseRecOn with
  | nil => exact absurd (viable_iff_run.2 ⟨_, rfl⟩) h
  | append_singleton ts t ih =>
    by_cases hts : Viable ts
    · exact ⟨ts, t, [], rfl, hts, h⟩
    · obtain ⟨front, u, back, rfl, hfront, hrefused⟩ := ih hts
      exact ⟨front, u, back ++ [t], List.append_assoc _ _ _, hfront, hrefused⟩

/-! ### Finished parts stay -/

namespace Draft

/-- The subexpressions of an open sum. -/
def sumSubexpressions : Option (Expr × SumOp) → List Subexpression
  | none => []
  | some (left, _) => left.subexpressions

/-- The subexpressions of an open product. -/
def productSubexpressions : Option (Term × ProductOp) → List Subexpression
  | none => []
  | some (left, _) => left.subexpressions

/-- The subexpressions of what waits at one depth. -/
def pendingSubexpressions (p : Pending) : List Subexpression :=
  sumSubexpressions p.sum ++ productSubexpressions p.product

/-- The subexpressions of the finished parts of a draft. -/
def subexpressions : Draft → List Subexpression
  | .operand p outer => outer.flatMap pendingSubexpressions ++ pendingSubexpressions p
  | .operator sum term outer =>
    outer.flatMap pendingSubexpressions ++ sumSubexpressions sum ++ term.subexpressions

theorem join_subexpressions (sum : Option (Expr × SumOp)) (term : Term) :
    sumSubexpressions sum ++ term.subexpressions ⊆ (Expr.join sum term).subexpressions := by
  cases sum with
  | none => exact List.Subset.refl _
  | some waiting => exact List.subset_append_left _ _

theorem minusTimes_subexpressions (u : Unary) :
    ∀ n : Nat, u.subexpressions ⊆ (u.minusTimes n).subexpressions
  | 0 => List.Subset.refl _
  | n + 1 => List.Subset.trans (minusTimes_subexpressions u n) (List.subset_append_left _ _)

theorem term_subexpressions (p : Pending) (u : Unary) :
    productSubexpressions p.product ++ u.subexpressions ⊆ (p.term u).subexpressions := by
  have hminus := minusTimes_subexpressions u p.minuses
  unfold Pending.term
  cases p.product with
  | none => exact hminus
  | some waiting =>
    refine List.Subset.trans ?_ (List.subset_append_left _ _)
    exact List.append_subset.2
      ⟨List.subset_append_left _ _, List.Subset.trans hminus (List.subset_append_right _ _)⟩

theorem supply_subexpressions (p : Pending) (outer : List Pending) (u : Unary) :
    (operand p outer).subexpressions ++ u.subexpressions ⊆ (supply p outer u).subexpressions := by
  have hterm := term_subexpressions p u
  simp only [supply, subexpressions, pendingSubexpressions]
  grind

/-- A token that is read keeps what is finished. -/
theorem step_subexpressions {d d' : Draft} {t : Token} (h : d.step t = some d') :
    d.subexpressions ⊆ d'.subexpressions := by
  unfold step at h
  split at h
  · obtain rfl := Option.some.inj h
    exact List.Subset.trans (List.subset_append_left _ _) (supply_subexpressions _ _ _)
  · obtain rfl := Option.some.inj h
    exact List.Subset.refl _
  · obtain rfl := Option.some.inj h
    rw [subexpressions, subexpressions, List.flatMap_cons]
    exact List.append_subset.2 ⟨fun s hs => by simp [hs], fun s hs => by simp [hs]⟩
  · exact nomatch h
  · obtain rfl := Option.some.inj h
    simp [subexpressions, pendingSubexpressions, productSubexpressions]
  · obtain rfl := Option.some.inj h
    rename_i sum term outer op
    rw [subexpressions, subexpressions, List.append_assoc]
    refine List.append_subset.2
      ⟨List.subset_append_left _ _, List.Subset.trans (join_subexpressions sum term) ?_⟩
    exact List.Subset.trans (List.subset_append_left _ _) (List.subset_append_right _ _)
  · obtain rfl := Option.some.inj h
    rename_i sum term p outer
    have hsupply := supply_subexpressions p outer (.atom (.parentheses (.join sum term)))
    have hjoin : sumSubexpressions sum ++ term.subexpressions ⊆
        (Unary.atom (.parentheses (.join sum term))).subexpressions := join_subexpressions sum term
    rw [subexpressions, List.flatMap_cons, List.append_assoc]
    rw [subexpressions] at hsupply
    grind
  · exact nomatch h

theorem run_subexpressions : ∀ {ts : List Token} {d d' : Draft}, d.run ts = some d' →
    d.subexpressions ⊆ d'.subexpressions
  | [], _, _, h => by
    obtain rfl := Option.some.inj h
    exact List.Subset.refl _
  | t :: ts, _, _, h => by
    obtain ⟨next, hstep, hrun⟩ := Option.bind_eq_some_iff.1 h
    exact List.Subset.trans (step_subexpressions hstep) (run_subexpressions hrun)

theorem finish_subexpressions {d : Draft} {e : Expr} (h : d.finish = some e) :
    d.subexpressions ⊆ e.subexpressions := by
  unfold finish at h
  split at h
  · obtain rfl := Option.some.inj h
    exact join_subexpressions _ _
  · exact nomatch h

/-- What is finished behind some tokens is part of every expression that they begin. -/
theorem subexpressions_subset {ts rest : List Token} {d : Draft} {e : Expr}
    (h : start.run ts = some d) (he : e.tokens = ts ++ rest) :
    d.subexpressions ⊆ e.subexpressions := by
  have hparse := parse?_eq_some_iff.2 he
  rw [parse?, run_append, h] at hparse
  obtain ⟨next, hrun, hfinish⟩ := Option.bind_eq_some_iff.1 hparse
  exact List.Subset.trans (run_subexpressions hrun) (finish_subexpressions hfinish)

end Draft

end Console.Calculator
