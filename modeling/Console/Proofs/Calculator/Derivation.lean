import Console.Proofs.Calculator.DraftValue
import Console.Proofs.Calculator.Lexing

/-! The calculator against its grammar. The tokens that an expression derives have that one
    derivation, and the answer is its value, evaluated from the left; all other tokens are an
    error. A value fails on nothing but a division by zero. -/

namespace Console.Calculator

/-! ### Faults of values -/

/-- Only a divisor that is zero makes an operation fail. -/
theorem product_eq_error_iff {op : ProductOp} {a b : Number} {fault : Fault} :
    a.product op b = .error fault ↔ fault = .divisionByZero ∧ op ≠ .times ∧ b.isZero = true := by
  constructor
  · intro h
    unfold Number.product at h
    split at h
    · rename_i hzero
      exact ⟨(Except.error.inj h).symm, hzero⟩
    · split at h
      · split at h <;> exact nomatch h
      · exact nomatch h
  · rintro ⟨rfl, hzero⟩
    unfold Number.product
    rw [if_pos hzero]

mutual

/-- The value of a tree fails on nothing but a division by zero. -/
theorem expr_fault : ∀ {e : Expr} {fault : Fault}, e.value = .error fault → fault = .divisionByZero
  | .term t, _, h => term_fault (t := t) h
  | .sum _ _ _, _, h => by
    rw [Expr.value] at h
    obtain h | ⟨a, -, h⟩ := bind_error h
    · exact expr_fault h
    · exact term_fault (map_error h)

theorem term_fault : ∀ {t : Term} {fault : Fault}, t.value = .error fault → fault = .divisionByZero
  | .unary u, _, h => unary_fault (u := u) h
  | .product _ _ _, _, h => by
    rw [Term.value] at h
    obtain h | ⟨a, -, h⟩ := bind_error h
    · exact term_fault h
    obtain h | ⟨b, -, h⟩ := bind_error h
    · exact unary_fault h
    · exact (product_eq_error_iff.1 h).1

theorem unary_fault : ∀ {u : Unary} {fault : Fault}, u.value = .error fault →
    fault = .divisionByZero
  | .minus u, _, h => by
    rw [Unary.value] at h
    exact unary_fault (map_error h)
  | .atom (.number _), _, h => nomatch h
  | .atom (.parentheses e), _, h => expr_fault (e := e) h

end

/-! ### Texts -/

/-- The tokens of a tree have the value of the tree. -/
theorem evaluate_tokens (e : Expr) : evaluate e.tokens = e.value :=
  evaluate_of_parse? (parse?_tokens e)

theorem execute_of_tokens {text : Text} {e : Expr} (h : tokenize text = .ok e.tokens) :
    execute text = e.value.map Number.render := by
  rw [execute, h]
  change (evaluate e.tokens).map _ = _
  rw [evaluate_tokens]

theorem execute_of_not_grammatical {text : Text} {ts : List Token} (h : tokenize text = .ok ts)
    (hts : ¬ Grammatical ts) : ∃ fault, execute text = .error fault := by
  have hnone : parse? ts = none := by
    cases hparse : parse? ts with
    | none => rfl
    | some e => exact absurd ⟨e, parse?_eq_some_iff.1 hparse⟩ hts
  obtain ⟨fault, hfault⟩ := evaluate_of_parse?_none hnone
  refine ⟨fault, ?_⟩
  rw [execute, h]
  change (evaluate ts).map _ = _
  rw [hfault]
  rfl

/-- A text succeeds exactly if it has tokens, an expression derives them, and nothing in the
    evaluation of the expression is divided by zero. -/
theorem execute_ok_iff (text : Text) : (∃ shown, execute text = .ok shown) ↔
    ∃ e : Expr, tokenize text = .ok e.tokens ∧ e.value ≠ .error .divisionByZero := by
  constructor
  · rintro ⟨shown, hshown⟩
    obtain ⟨ts, hts, -⟩ := bind_ok hshown
    have hgrammatical : Grammatical ts := by
      refine Classical.byContradiction fun hnot => ?_
      obtain ⟨fault, hfault⟩ := execute_of_not_grammatical hts hnot
      exact nomatch hshown.symm.trans hfault
    obtain ⟨e, rfl⟩ := hgrammatical
    refine ⟨e, hts, fun hzero => ?_⟩
    rw [execute_of_tokens hts, hzero] at hshown
    exact nomatch hshown
  · rintro ⟨e, hts, hzero⟩
    rw [execute_of_tokens hts]
    cases hvalue : e.value with
    | error fault => exact absurd (expr_fault hvalue ▸ hvalue) hzero
    | ok v => exact ⟨v.render, rfl⟩

/-- The calculator follows its grammar. Tokens that an expression derives have one derivation tree,
    and the answer is the value of the tree, evaluated from the left; any other tokens are an error.
    So an answer comes exactly if the text has tokens, an expression derives them, and nothing is
    divided by zero. -/
theorem execute_follows_grammar (text : Text) :
    (∀ ts, tokenize text = .ok ts →
      (∀ e : Expr, e.tokens = ts → (∀ e' : Expr, e'.tokens = ts → e' = e) ∧
        execute text = e.value.map Number.render) ∧
      (¬ Grammatical ts → ∃ fault, execute text = .error fault)) ∧
    ((∃ shown, execute text = .ok shown) ↔
      ∃ e : Expr, tokenize text = .ok e.tokens ∧ e.value ≠ .error .divisionByZero) := by
  refine ⟨fun ts hts => ⟨?_, execute_of_not_grammatical hts⟩, execute_ok_iff text⟩
  rintro e rfl
  exact ⟨fun e' he' => tokens_injective he', execute_of_tokens hts⟩

/-- Quotients bind from the left. -/
theorem execute_follows_grammar_of_quotients :
    ∃ e : Expr, tokenize ['8', '/', '4', '/', '2'] = .ok e.tokens ∧
      (∀ e' : Expr, e'.tokens = e.tokens → e' = e) ∧
      execute ['8', '/', '4', '/', '2'] = .ok ['1'] := by
  let e : Expr := .term (.product (.product (.unary (.atom (.number (.int 8)))) .over
    (.atom (.number (.int 4)))) .over (.atom (.number (.int 2))))
  have htokens : tokenize ['8', '/', '4', '/', '2'] = .ok e.tokens := by
    have h8 : Number.ofLiteral? ['8'] = some (.int 8) :=
      ofLiteral?_of_value (n := 8) (by simp) (by decide) (by decide)
    have h4 : Number.ofLiteral? ['4'] = some (.int 4) :=
      ofLiteral?_of_value (n := 4) (by simp) (by decide) (by decide)
    have h2 : Number.ofLiteral? ['2'] = some (.int 2) :=
      ofLiteral?_of_value (n := 2) (by simp) (by decide) (by decide)
    have hover : Token.ofChar? '/' = some (.product .over) := rfl
    rw [tokenize_literal '8' ['/', '4', '/', '2'] (by decide) h8]
    change (tokenize ['/', '4', '/', '2']).map _ = _
    rw [tokenize_symbol hover, tokenize_literal '4' ['/', '2'] (by decide) h4]
    change (((tokenize ['/', '2']).map _).map _).map _ = _
    rw [tokenize_symbol hover, tokenize_literal '2' [] (by decide) h2]
    change (((((tokenize []).map _).map _).map _).map _).map _ = _
    rw [tokenize_nil]
    rfl
  have hvalue : e.value.map Number.render = .ok ['1'] := by rfl
  obtain ⟨hunique, hexecute⟩ :=
    ((execute_follows_grammar ['8', '/', '4', '/', '2']).1 e.tokens htokens).1 e rfl
  exact ⟨e, htokens, hunique, hexecute.trans hvalue⟩

end Console.Calculator
