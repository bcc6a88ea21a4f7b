import Console.Proofs.Calculator.Viable
import Mathlib.Data.List.Induction

/-! The first offence among tokens. An evaluation without a value stops behind the first divisor
    that is zero, or at the first token behind which the tokens cannot be continued, whichever comes
    first, and at the end if neither does. -/

namespace Console.Calculator

/-! ### Divisors that are zero -/

/-- The tokens can be continued, and they end with the divisor of a division or remainder, a whole
    unary whose value is zero. It is the divisor in every expression that begins with them. -/
def EndsInZeroDivisor (ts : List Token) : Prop :=
  Viable ts ∧ ∃ (front : List Token) (left : Term) (op : ProductOp) (right : Unary) (zero : Number),
    ts = front ++ left.tokens ++ .product op :: right.tokens ∧ op ≠ .times ∧
      right.value = .ok zero ∧ zero.isZero = true ∧
      ∀ (e : Expr) (rest : List Token), e.tokens = ts ++ rest →
        .product left op right ∈ e.subexpressions

/-- No divisor in the tokens is zero, as far as they can be continued. -/
def DividesProperly (ts : List Token) : Prop :=
  ∀ front, front <+: ts → ¬ EndsInZeroDivisor front

theorem DividesProperly.mono {ts us : List Token} (hbegins : ts <+: us)
    (h : DividesProperly us) : DividesProperly ts :=
  fun front hfront => h front (hfront.trans hbegins)

namespace Draft

/-- The operand that has just ended is a divisor whose value is zero. -/
def DivisorIsZero : Draft → Prop
  | .operator _ (.product _ op right) _ =>
    op ≠ .times ∧ ∃ zero, right.value = .ok zero ∧ zero.isZero = true
  | _ => False

/-- An operand with a value fails only as a divisor that is zero. -/
theorem supply_fault {p : Pending} {outer : List Pending} {u : Unary} {v : Number} {r : Reading}
    {fault : Fault} (hp : (operand p outer).value = .ok r) (hu : u.value = .ok v)
    (h : (supply p outer u).value = .error fault) :
    fault = .divisionByZero ∧ (supply p outer u).DivisorIsZero := by
  obtain ⟨frames, houter, hp⟩ := bind_ok hp
  obtain ⟨frame, hframe, rfl⟩ := map_ok hp
  have hterm : frame.term v = .error fault := by
    rw [supply_value, houter, Except.bind, hframe, Except.bind, hu] at h
    exact map_error h
  obtain ⟨sum, -, hframe⟩ := bind_ok hframe
  obtain ⟨product, hproduct, rfl⟩ := map_ok hframe
  rw [supply, Pending.term]
  cases hwaiting : p.product with
  | none =>
    rw [hwaiting] at hproduct
    obtain rfl := Except.ok.inj hproduct
    cases hterm
  | some waiting =>
    rw [hwaiting] at hproduct
    obtain ⟨a, -, rfl⟩ := map_ok hproduct
    obtain ⟨hfault, hop, hzero⟩ := product_eq_error_iff.1 hterm
    refine ⟨hfault, hop, _, ?_, hzero⟩
    rw [minusTimes_value, hu]
    rfl

/-- A token that can come next fails only as the end of a divisor that is zero. -/
theorem step_fault {d d' : Draft} {t : Token} {r : Reading} {fault : Fault}
    (h : d.step t = some d') (hd : d.value = .ok r) (hfault : d'.value = .error fault) :
    fault = .divisionByZero ∧ d'.DivisorIsZero := by
  have hstep : r.step t = .error fault := by
    rw [step_value h, hd] at hfault
    exact hfault
  unfold step at h
  split at h
  · obtain rfl := Option.some.inj h
    exact supply_fault hd rfl hfault
  · obtain ⟨frame, frames, rfl⟩ := operand_value_ok hd
    exact nomatch hstep
  · obtain ⟨frame, frames, rfl⟩ := operand_value_ok hd
    exact nomatch hstep
  · exact nomatch h
  · obtain ⟨sum', v, frames, rfl, -⟩ := operator_value_ok hd
    exact nomatch hstep
  · obtain ⟨sum', v, frames, rfl, -⟩ := operator_value_ok hd
    exact nomatch hstep
  · obtain rfl := Option.some.inj h
    rename_i sum term p outer
    obtain ⟨frames, houter, hd⟩ := bind_ok hd
    obtain ⟨sum', hsum, hd⟩ := bind_ok hd
    obtain ⟨v, hv, -⟩ := map_ok hd
    obtain ⟨frames', hframes', houter⟩ := bind_ok houter
    obtain ⟨frame, hframe, -⟩ := map_ok houter
    have hp : (operand p outer).value = .ok (.operand frame frames') := by
      rw [value, hframes', Except.bind, hframe]
      rfl
    have hjoin : (Expr.join sum term).value = .ok (addTerm sum' v) := by
      rw [join_value, hsum, Except.bind, hv]
      rfl
    exact supply_fault hp hjoin hfault
  · exact nomatch h

/-- A divisor that is zero leaves a draft without a value. -/
theorem value_ne_ok {d : Draft} {r : Reading} (h : d.DivisorIsZero) : d.value ≠ .ok r := by
  unfold DivisorIsZero at h
  split at h
  · rename_i op right _
    obtain ⟨hop, zero, hzero, hisZero⟩ := h
    intro hd
    obtain ⟨frames, -, hd⟩ := bind_ok hd
    obtain ⟨sum, -, hd⟩ := bind_ok hd
    obtain ⟨v, hv, -⟩ := map_ok hd
    obtain ⟨a, -, hv⟩ := bind_ok hv
    rw [hzero] at hv
    exact nomatch hv.symm.trans (product_eq_error_iff.2 ⟨rfl, hop, hisZero⟩)
  · exact h.elim

/-- Behind tokens that end with a divisor that is zero, the draft has it as its last operand. -/
theorem divisorIsZero_of_endsInZeroDivisor {ts : List Token} {d : Draft}
    (h : EndsInZeroDivisor ts) (hd : start.run ts = some d) : d.DivisorIsZero := by
  obtain ⟨-, front, left, op, right, zero, rfl, hop, hzero⟩ := h
  rw [run_append] at hd
  obtain ⟨d₀, -, hd⟩ := Option.bind_eq_some_iff.1 hd
  obtain ⟨d₁, hstep, hd⟩ := Option.bind_eq_some_iff.1 hd
  -- the operator can only follow an operand
  cases d₀ with
  | operand p outer => exact nomatch hstep
  | operator sum term outer =>
    obtain rfl := Option.some.inj hstep
    have hunary := run_unary ⟨sum, some (term, op), 0⟩ outer right []
    rw [List.append_nil] at hunary
    obtain rfl := Option.some.inj (hd.symm.trans hunary)
    exact ⟨hop, zero, hzero.1, hzero.2.1⟩

/-- And if the last operand of a draft is such a divisor, so the tokens end with it. -/
theorem DivisorIsZero.endsInZeroDivisor {ts : List Token} {d : Draft} (h : d.DivisorIsZero)
    (hd : start.run ts = some d) : EndsInZeroDivisor ts := by
  refine ⟨viable_iff_run.2 ⟨d, hd⟩, ?_⟩
  have htokens := run_tokens hd
  unfold DivisorIsZero at h
  split at h
  · rename_i sum left op right outer
    obtain ⟨hop, zero, hzero, hisZero⟩ := h
    refine ⟨outerTokens outer ++ sumTokens sum, left, op, right, zero, ?_, hop, hzero, hisZero, ?_⟩
    · rw [List.append_assoc]
      exact htokens.symm
    · intro e rest he
      refine subexpressions_subset hd he (List.mem_append_right _ ?_)
      exact List.mem_append_right _ (List.mem_singleton.2 rfl)
  · exact h.elim

/-- Tokens that can be continued have no fault but a division by zero, and then some divisor in them
    is zero. -/
theorem run_fault {ts : List Token} : ∀ {d : Draft} {fault : Fault}, start.run ts = some d →
    d.value = .error fault → fault = .divisionByZero ∧ ¬ DividesProperly ts := by
  induction ts using List.reverseRecOn with
  | nil =>
    intro d fault hd hfault
    obtain rfl := Option.some.inj hd
    exact nomatch hfault
  | append_singleton ts t ih =>
    intro d fault hd hfault
    have hrun := hd
    rw [run_append] at hrun
    obtain ⟨d₀, hd₀, hrun⟩ := Option.bind_eq_some_iff.1 hrun
    obtain ⟨_, hstep, hlast⟩ := Option.bind_eq_some_iff.1 hrun
    obtain rfl := Option.some.inj hlast
    cases hvalue : d₀.value with
    | error fault₀ =>
      have hsame : fault = fault₀ := by
        rw [step_value hstep, hvalue] at hfault
        exact (Except.error.inj hfault).symm
      obtain ⟨hzero, hdivides⟩ := ih hd₀ hvalue
      exact ⟨hsame.trans hzero, mt (DividesProperly.mono (List.prefix_append _ _)) hdivides⟩
    | ok r =>
      obtain ⟨hzero, hdivisor⟩ := step_fault hstep hvalue hfault
      exact ⟨hzero, fun hdivides => hdivides _ List.prefix_rfl (hdivisor.endsInZeroDivisor hd)⟩

end Draft

/-! ### The fault that is reported -/

/-- The evaluation of tokens that are read into a draft has come as far as the draft. -/
theorem evaluate_append {front : List Token} {d : Draft} (hd : Draft.start.run front = some d)
    (back : List Token) :
    evaluate (front ++ back) = d.value.bind fun r => (r.run back).bind Reading.value := by
  rw [evaluate, Reading.run_append, Draft.run_value hd]
  change ((Reading.start.run front).bind _).bind _ = (Reading.start.run front).bind _
  cases Reading.start.run front <;> rfl

/-- While no divisor is zero, tokens that can be continued have a draft with a value. -/
theorem Viable.exists_value {ts : List Token} (h : Viable ts) (hdivides : DividesProperly ts) :
    ∃ d r, Draft.start.run ts = some d ∧ d.value = .ok r := by
  obtain ⟨d, hd⟩ := viable_iff_run.1 h
  cases hvalue : d.value with
  | error fault => exact absurd hdivides (Draft.run_fault hd hvalue).2
  | ok r => exact ⟨d, r, hd, hvalue⟩

theorem evaluate_of_zeroDivisor {ts : List Token} (h : ¬ DividesProperly ts) :
    evaluate ts = .error .divisionByZero := by
  simp only [DividesProperly, not_forall, not_not] at h
  obtain ⟨front, ⟨back, rfl⟩, hfront⟩ := h
  obtain ⟨d, hd⟩ := viable_iff_run.1 hfront.1
  rw [evaluate_append hd]
  cases hvalue : d.value with
  | error fault =>
    rw [(Draft.run_fault hd hvalue).1]
    rfl
  | ok r =>
    exact absurd hvalue
      (Draft.value_ne_ok (Draft.divisorIsZero_of_endsInZeroDivisor hfront hd))

theorem evaluate_of_refused {front : List Token} {t : Token} (back : List Token)
    (hfront : Viable front) (hrefused : ¬ Viable (front ++ [t]))
    (hdivides : DividesProperly front) :
    evaluate (front ++ t :: back) = .error (.unexpectedToken t.render) := by
  obtain ⟨d, r, hd, hvalue⟩ := hfront.exists_value hdivides
  have hstep : d.step t = none := by
    refine Option.eq_none_iff_forall_ne_some.2 fun next hnext => ?_
    refine hrefused (viable_iff_run.2 ⟨next, ?_⟩)
    rw [Draft.run_append, hd, Option.bind_some, Draft.run, hnext]
    rfl
  rw [evaluate_append hd, hvalue]
  change ((r.step t).bind _).bind _ = _
  rw [Draft.step_none hstep hvalue]
  rfl

theorem evaluate_of_incomplete {ts : List Token} (h : Viable ts) (hts : ¬ Grammatical ts)
    (hdivides : DividesProperly ts) : evaluate ts = .error .unexpectedEnd := by
  obtain ⟨d, r, hd, hvalue⟩ := h.exists_value hdivides
  have hfinish : d.finish = none := by
    refine Option.eq_none_iff_forall_ne_some.2 fun e he => hts ⟨e, tokens_of_parse? ?_⟩
    rw [parse?, hd, Option.bind_some, he]
  have hevaluate := evaluate_append hd []
  rw [List.append_nil, hvalue] at hevaluate
  exact hevaluate.trans (Draft.value_of_finish_none hfinish hvalue)

/-- An expression fails only where a divisor is zero. -/
theorem evaluate_of_grammatical {ts : List Token} (h : Grammatical ts) {fault : Fault}
    (hfault : evaluate ts = .error fault) : fault = .divisionByZero ∧ ¬ DividesProperly ts := by
  obtain ⟨e, rfl⟩ := h
  have hzero : fault = .divisionByZero := expr_fault ((evaluate_tokens e).symm.trans hfault)
  refine ⟨hzero, fun hdivides => ?_⟩
  obtain ⟨d, r, hd, hvalue⟩ := (Grammatical.viable ⟨e, rfl⟩).exists_value hdivides
  have hevaluate := evaluate_append hd []
  rw [List.append_nil, hvalue, hfault, hzero] at hevaluate
  change _ = r.value at hevaluate
  -- at the end there is nothing left to divide
  unfold Reading.value at hevaluate
  split at hevaluate <;> exact nomatch hevaluate

/-- What stops an evaluation without a value, in the order in which it wins. -/
theorem evaluate_fault {ts : List Token} {fault : Fault} (h : evaluate ts = .error fault) :
    (fault = .divisionByZero ∧ ¬ DividesProperly ts) ∨
    (fault = .unexpectedEnd ∧ Viable ts ∧ ¬ Grammatical ts ∧ DividesProperly ts) ∨
    ∃ front t back, ts = front ++ t :: back ∧ fault = .unexpectedToken t.render ∧
      Viable front ∧ ¬ Viable (front ++ [t]) ∧ DividesProperly front := by
  by_cases hdivides : DividesProperly ts
  · by_cases hviable : Viable ts
    · by_cases hts : Grammatical ts
      · exact absurd hdivides (evaluate_of_grammatical hts h).2
      · rw [evaluate_of_incomplete hviable hts hdivides] at h
        exact .inr (.inl ⟨(Except.error.inj h).symm, hviable, hts, hdivides⟩)
    · obtain ⟨front, t, back, rfl, hfront, hrefused⟩ := exists_first_refused hviable
      have hproper := hdivides.mono (List.prefix_append front (t :: back))
      rw [evaluate_of_refused back hfront hrefused hproper] at h
      exact .inr (.inr ⟨front, t, back, rfl, (Except.error.inj h).symm, hfront, hrefused, hproper⟩)
  · rw [evaluate_of_zeroDivisor hdivides] at h
    exact .inl ⟨(Except.error.inj h).symm, hdivides⟩

theorem execute_eq_error_iff {text : Text} {ts : List Token} (h : tokenize text = .ok ts)
    {fault : Fault} : execute text = .error fault ↔ evaluate ts = .error fault := by
  rw [execute, h]
  change (evaluate ts).map _ = _ ↔ _
  cases evaluate ts <;> simp [Except.map]

/-- Faults point at the first offence. A text with tokens is refused for a token exactly if that is
    the first one behind which the tokens cannot be continued to an expression; as ended too early
    exactly if all tokens can be continued but are no expression; both as long as no divisor before
    is zero. It is refused for a division by zero exactly if the tokens can be continued up to the
    end of a divisor that is zero. It is refused for a number exactly if it has no tokens for that
    reason. -/
theorem execute_points_at_first_offence (text : Text) :
    (∀ ts, tokenize text = .ok ts →
      (∀ shown, execute text = .error (.unexpectedToken shown) ↔
        ∃ front t back, ts = front ++ t :: back ∧ t.render = shown ∧
          Viable front ∧ ¬ Viable (front ++ [t]) ∧ DividesProperly front) ∧
      (execute text = .error .unexpectedEnd ↔
        Viable ts ∧ ¬ Grammatical ts ∧ DividesProperly ts) ∧
      (execute text = .error .divisionByZero ↔ ∃ front, front <+: ts ∧ EndsInZeroDivisor front)) ∧
    ∀ literal, execute text = .error (.invalidNumber literal) ↔
      tokenize text = .error (.invalidNumber literal) := by
  refine ⟨fun ts hts => ?_, fun literal => ⟨fun h => ?_, fun h => ?_⟩⟩
  · simp only [execute_eq_error_iff hts]
    refine ⟨fun shown => ⟨fun h => ?_, ?_⟩, ⟨fun h => ?_, ?_⟩, ⟨fun h => ?_, ?_⟩⟩
    · obtain ⟨h, -⟩ | ⟨h, -⟩ | ⟨front, t, back, rfl, h, hrest⟩ := evaluate_fault h
      · exact nomatch h
      · exact nomatch h
      · exact ⟨front, t, back, rfl, (Fault.unexpectedToken.inj h).symm, hrest⟩
    · rintro ⟨front, t, back, rfl, rfl, hfront, hrefused, hdivides⟩
      exact evaluate_of_refused back hfront hrefused hdivides
    · obtain ⟨h, -⟩ | ⟨-, h⟩ | ⟨front, t, back, -, h, -⟩ := evaluate_fault h
      · exact nomatch h
      · exact h
      · exact nomatch h
    · rintro ⟨hviable, hgrammatical, hdivides⟩
      exact evaluate_of_incomplete hviable hgrammatical hdivides
    · obtain ⟨-, h⟩ | ⟨h, -⟩ | ⟨front, t, back, -, h, -⟩ := evaluate_fault h
      · simpa only [DividesProperly, not_forall, not_not, exists_prop] using h
      · exact nomatch h
      · exact nomatch h
    · rintro ⟨front, hbegins, hzero⟩
      exact evaluate_of_zeroDivisor fun hdivides => hdivides front hbegins hzero
  · obtain h | ⟨ts, hts, h⟩ := bind_error h
    · exact h
    · obtain ⟨h, -⟩ | ⟨h, -⟩ | ⟨front, t, back, -, h, -⟩ := evaluate_fault (map_error h)
      all_goals exact nomatch h
  · rw [execute, h]
    rfl

/-- Behind a division by zero nothing is looked at, not even a parenthesis that cannot come. -/
theorem execute_points_at_first_offence_of_divisor :
    ∃ ts, tokenize ['1', '/', '0', ')'] = .ok ts ∧ ¬ Viable ts ∧
      execute ['1', '/', '0', ')'] = .error .divisionByZero ∧
      ∃ front, front <+: ts ∧ EndsInZeroDivisor front := by
  let ts : List Token := [.number (.int 1), .product .over, .number (.int 0), .closing]
  have htokens : tokenize ['1', '/', '0', ')'] = .ok ts := by
    have h1 : Number.ofLiteral? ['1'] = some (.int 1) :=
      ofLiteral?_of_value (n := 1) (by simp) (by decide) (by decide)
    have h0 : Number.ofLiteral? ['0'] = some (.int 0) :=
      ofLiteral?_of_value (n := 0) (by simp) (by decide) (by decide)
    have hover : Token.ofChar? '/' = some (.product .over) := rfl
    have hclosing : Token.ofChar? ')' = some .closing := rfl
    rw [tokenize_literal '1' ['/', '0', ')'] (by decide) h1]
    change (tokenize ['/', '0', ')']).map _ = _
    rw [tokenize_symbol hover, tokenize_literal '0' [')'] (by decide) h0]
    change (((tokenize [')']).map _).map _).map _ = _
    rw [tokenize_symbol hclosing, tokenize_nil]
    rfl
  have hrefused : ¬ Viable ts := by
    rw [viable_iff_run]
    exact fun ⟨d, hd⟩ => nomatch hd
  have hfault : execute ['1', '/', '0', ')'] = .error .divisionByZero := by
    rw [execute, htokens]
    rfl
  obtain ⟨hts, -⟩ := execute_points_at_first_offence ['1', '/', '0', ')']
  exact ⟨ts, htokens, hrefused, hfault, (hts ts htokens).2.2.1 hfault⟩

end Console.Calculator
