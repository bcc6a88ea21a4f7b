import Console.Calculator.Grammar

/-! Reading tokens into derivation trees, one token at a time. A draft is what has been read of an
    expression: the finished parts that wait for an operand, at every depth of parentheses. A token
    that can come next extends the draft, and the tokens of a draft are always those that were read.
    The tokens of any tree are read into that tree again, so no list of tokens has two trees. -/

namespace Console.Calculator

/-- What waits for an operand at one depth of parentheses, as trees. -/
structure Pending where
  sum : Option (Expr × SumOp)
  product : Option (Term × ProductOp)
  minuses : Nat

/-- Puts unary minus signs in front. -/
def Unary.minusTimes : Nat → Unary → Unary
  | 0, u => u
  | n + 1, u => .minus (u.minusTimes n)

/-- Adds a finished term to the sum that waits for it. -/
def Expr.join (waiting : Option (Expr × SumOp)) (term : Term) : Expr :=
  match waiting with
  | none => .term term
  | some (left, op) => .sum left op term

namespace Pending

/-- Nothing waits at the start of an expression. -/
def start : Pending := ⟨none, none, 0⟩

/-- The term that ends with this operand so far. -/
def term (p : Pending) (operand : Unary) : Term :=
  match p.product with
  | none => .unary (operand.minusTimes p.minuses)
  | some (left, op) => .product left op (operand.minusTimes p.minuses)

end Pending

/-- What has been read: an operand must come, or one has just ended. -/
inductive Draft where
  | operand (frame : Pending) (outer : List Pending)
  | operator (sum : Option (Expr × SumOp)) (term : Term) (outer : List Pending)

namespace Draft

/-- Before the first token. -/
def start : Draft := .operand .start []

/-- An operand has ended. -/
def supply (p : Pending) (outer : List Pending) (operand : Unary) : Draft :=
  .operator p.sum (p.term operand) outer

/-- Reads one token, if it can come next. -/
def step : Draft → Token → Option Draft
  | .operand p outer, .number n => some (supply p outer (.atom (.number n)))
  | .operand p outer, .sum .minus => some (.operand { p with minuses := p.minuses + 1 } outer)
  | .operand p outer, .opening => some (.operand .start (p :: outer))
  | .operand _ _, _ => none
  | .operator sum term outer, .product op => some (.operand ⟨sum, some (term, op), 0⟩ outer)
  | .operator sum term outer, .sum op => some (.operand ⟨some (.join sum term, op), none, 0⟩ outer)
  | .operator sum term (p :: outer), .closing =>
    some (supply p outer (.atom (.parentheses (.join sum term))))
  | .operator _ _ _, _ => none

/-- Reads tokens from the left. -/
def run : Draft → List Token → Option Draft
  | d, [] => some d
  | d, t :: ts => (d.step t).bind fun next => next.run ts

/-- Reading two parts is reading the first, then the second. -/
theorem run_append (d : Draft) (ts us : List Token) :
    d.run (ts ++ us) = (d.run ts).bind fun next => next.run us := by
  induction ts generalizing d with
  | nil => rfl
  | cons t ts ih =>
    simp only [List.cons_append, run]
    cases d.step t with
    | none => rfl
    | some next => exact ih next

/-- The tree at the end, where no operand waits and no parenthesis is open. -/
def finish : Draft → Option Expr
  | .operator sum term [] => some (.join sum term)
  | _ => none

/-! ### The tokens of a draft -/

/-- The tokens of an open sum. -/
def sumTokens : Option (Expr × SumOp) → List Token
  | none => []
  | some (left, op) => left.tokens ++ [.sum op]

/-- The tokens of an open product. -/
def productTokens : Option (Term × ProductOp) → List Token
  | none => []
  | some (left, op) => left.tokens ++ [.product op]

/-- The tokens of what waits at one depth. -/
def pendingTokens (p : Pending) : List Token :=
  sumTokens p.sum ++ productTokens p.product ++ List.replicate p.minuses (.sum .minus)

/-- The tokens up to the innermost open parenthesis. -/
def outerTokens : List Pending → List Token
  | [] => []
  | p :: outer => outerTokens outer ++ pendingTokens p ++ [.opening]

/-- The tokens that have been read. -/
def tokens : Draft → List Token
  | .operand p outer => outerTokens outer ++ pendingTokens p
  | .operator sum term outer => outerTokens outer ++ sumTokens sum ++ term.tokens

theorem minusTimes_tokens (u : Unary) :
    ∀ n : Nat, (u.minusTimes n).tokens = List.replicate n (.sum .minus) ++ u.tokens
  | 0 => rfl
  | n + 1 => by
    rw [Unary.minusTimes, Unary.tokens, minusTimes_tokens u n, List.replicate_succ,
      List.cons_append]

theorem term_tokens (p : Pending) (u : Unary) : (p.term u).tokens =
    productTokens p.product ++ List.replicate p.minuses (.sum .minus) ++ u.tokens := by
  unfold Pending.term
  cases p.product with
  | none => simp [productTokens, Term.tokens, minusTimes_tokens]
  | some waiting => simp [productTokens, Term.tokens, minusTimes_tokens]

theorem join_tokens (sum : Option (Expr × SumOp)) (term : Term) :
    (Expr.join sum term).tokens = sumTokens sum ++ term.tokens := by
  cases sum with
  | none => simp [Expr.join, sumTokens, Expr.tokens]
  | some waiting => simp [Expr.join, sumTokens, Expr.tokens]

theorem supply_tokens (p : Pending) (outer : List Pending) (u : Unary) :
    (supply p outer u).tokens = outerTokens outer ++ pendingTokens p ++ u.tokens := by
  simp only [supply, tokens, term_tokens, pendingTokens, List.append_assoc]

/-- A token that is read is the next of the draft's tokens. -/
theorem step_tokens {d d' : Draft} {t : Token} (h : d.step t = some d') :
    d'.tokens = d.tokens ++ [t] := by
  unfold step at h
  split at h
  · obtain rfl := Option.some.inj h
    exact supply_tokens _ _ _
  · obtain rfl := Option.some.inj h
    simp [tokens, pendingTokens, List.replicate_succ']
  · obtain rfl := Option.some.inj h
    simp [tokens, outerTokens, pendingTokens, Pending.start, sumTokens, productTokens]
  · exact nomatch h
  · obtain rfl := Option.some.inj h
    simp [tokens, pendingTokens, productTokens]
  · obtain rfl := Option.some.inj h
    simp [tokens, pendingTokens, productTokens, sumTokens, join_tokens]
  · obtain rfl := Option.some.inj h
    rw [supply_tokens]
    simp [tokens, outerTokens, Unary.tokens, Atom.tokens, join_tokens]
  · exact nomatch h

theorem run_tokens : ∀ {ts : List Token} {d d' : Draft}, d.run ts = some d' →
    d'.tokens = d.tokens ++ ts
  | [], _, _, h => by
    obtain rfl := Option.some.inj h
    rw [List.append_nil]
  | t :: ts, _, _, h => by
    obtain ⟨next, hstep, hrun⟩ := Option.bind_eq_some_iff.1 h
    rw [run_tokens hrun, step_tokens hstep, List.append_assoc]
    rfl

theorem finish_tokens {d : Draft} {e : Expr} (h : d.finish = some e) : e.tokens = d.tokens := by
  unfold finish at h
  split at h
  · obtain rfl := Option.some.inj h
    rw [join_tokens]
    rfl
  · exact nomatch h

/-! ### Reading a tree -/

/-- The draft behind a whole expression. -/
def after : Expr → List Pending → Draft
  | .term t, outer => .operator none t outer
  | .sum left op right, outer => .operator (some (left, op)) right outer

theorem minusTimes_minus (u : Unary) :
    ∀ n : Nat, (Unary.minus u).minusTimes n = .minus (u.minusTimes n)
  | 0 => rfl
  | n + 1 => by rw [Unary.minusTimes, Unary.minusTimes, minusTimes_minus u n]

/-- One more minus sign that waits is one more in front of the operand. -/
theorem term_minus (p : Pending) (u : Unary) :
    ({ p with minuses := p.minuses + 1 } : Pending).term u = p.term (.minus u) := by
  simp only [Pending.term, minusTimes_minus, Unary.minusTimes]

theorem run_number (p : Pending) (outer : List Pending) (n : Number) (rest : List Token) :
    (operand p outer).run (.number n :: rest) =
      (supply p outer (.atom (.number n))).run rest := rfl

theorem run_closing (e : Expr) (p : Pending) (outer : List Pending) (rest : List Token) :
    (after e (p :: outer)).run (.closing :: rest) =
      (supply p outer (.atom (.parentheses e))).run rest := by
  cases e <;> rfl

theorem run_sum (e : Expr) (outer : List Pending) (op : SumOp) (rest : List Token) :
    (after e outer).run (.sum op :: rest) = (operand ⟨some (e, op), none, 0⟩ outer).run rest := by
  cases e <;> rfl

mutual

/-- The tokens of an expression are read into that expression, whatever follows. -/
theorem run_expr (outer : List Pending) : ∀ (e : Expr) (rest : List Token),
    (operand .start outer).run (e.tokens ++ rest) = (after e outer).run rest
  | .term t, rest => run_term none outer t rest
  | .sum left op right, rest => by
    rw [Expr.tokens, List.append_assoc, List.cons_append, run_expr outer left, run_sum,
      run_term _ outer right]
    rfl

theorem run_term (sum : Option (Expr × SumOp)) (outer : List Pending) :
    ∀ (t : Term) (rest : List Token),
      (operand ⟨sum, none, 0⟩ outer).run (t.tokens ++ rest) = (operator sum t outer).run rest
  | .unary u, rest => run_unary ⟨sum, none, 0⟩ outer u rest
  | .product left op right, rest => by
    rw [Term.tokens, List.append_assoc, List.cons_append, run_term sum outer left]
    exact run_unary ⟨sum, some (left, op), 0⟩ outer right rest

theorem run_unary (p : Pending) (outer : List Pending) : ∀ (u : Unary) (rest : List Token),
    (operand p outer).run (u.tokens ++ rest) = (supply p outer u).run rest
  | .minus u, rest => by
    rw [supply, ← term_minus]
    exact run_unary { p with minuses := p.minuses + 1 } outer u rest
  | .atom a, rest => run_atom p outer a rest

theorem run_atom (p : Pending) (outer : List Pending) : ∀ (a : Atom) (rest : List Token),
    (operand p outer).run (a.tokens ++ rest) = (supply p outer (.atom a)).run rest
  | .number n, rest => run_number p outer n rest
  | .parentheses e, rest => by
    rw [Atom.tokens, List.cons_append, List.cons_append, List.append_assoc, ← run_closing]
    exact run_expr (p :: outer) e (.closing :: rest)

end

end Draft

/-- The tree of an expression, if its tokens are grammatical. -/
def parse? (ts : List Token) : Option Expr := (Draft.start.run ts).bind Draft.finish

theorem tokens_of_parse? {ts : List Token} {e : Expr} (h : parse? ts = some e) : e.tokens = ts := by
  obtain ⟨d, hrun, hfinish⟩ := Option.bind_eq_some_iff.1 h
  rw [Draft.finish_tokens hfinish, Draft.run_tokens hrun]
  rfl

theorem parse?_tokens (e : Expr) : parse? e.tokens = some e := by
  have hrun := Draft.run_expr [] e []
  rw [List.append_nil] at hrun
  rw [parse?, Draft.start, hrun]
  cases e <;> rfl

theorem parse?_eq_some_iff {ts : List Token} {e : Expr} : parse? ts = some e ↔ e.tokens = ts :=
  ⟨tokens_of_parse?, fun h => h ▸ parse?_tokens e⟩

/-- Equal tokens have equal trees. -/
theorem tokens_injective {e e' : Expr} (h : e.tokens = e'.tokens) : e = e' :=
  Option.some.inj ((parse?_tokens e).symm.trans (h ▸ parse?_tokens e'))

end Console.Calculator
