import Console.Proofs.Calculator.Derivation
import Console.Proofs.Calculator.Integers

/-! Exact results. If the value of an expression is an integer, then so is the value of each of its
    subexpressions, and all of them are exact: once a double comes in it stays. Conversely an
    expression whose subexpressions all have exact values that fit in 64 bits has its exact value,
    unless the least integer is somewhere divided by minus one for a remainder. -/

namespace Console.Calculator

/-- A place in a tree where a value comes from: a number, or an operation with its operands.
    Parentheses have the value of what they hold. -/
inductive Subexpression where
  | number (n : Number)
  | minus (u : Unary)
  | sum (left : Expr) (op : SumOp) (right : Term)
  | product (left : Term) (op : ProductOp) (right : Unary)

mutual

/-- The subexpressions of a sum, itself last. -/
def Expr.subexpressions : Expr → List Subexpression
  | .term t => t.subexpressions
  | .sum left op right => left.subexpressions ++ right.subexpressions ++ [.sum left op right]

/-- The subexpressions of a product, itself last. -/
def Term.subexpressions : Term → List Subexpression
  | .unary u => u.subexpressions
  | .product left op right =>
    left.subexpressions ++ right.subexpressions ++ [.product left op right]

/-- The subexpressions of a unary, itself last. -/
def Unary.subexpressions : Unary → List Subexpression
  | .minus u => u.subexpressions ++ [.minus u]
  | .atom a => a.subexpressions

/-- The subexpressions of an atom. -/
def Atom.subexpressions : Atom → List Subexpression
  | .number n => [.number n]
  | .parentheses e => e.subexpressions

end

/-- The exact value of a subexpression. -/
def Subexpression.exact? : Subexpression → Option Int
  | .number n => n.exact?
  | .minus u => Unary.exact? (.minus u)
  | .sum left op right => Expr.exact? (.sum left op right)
  | .product left op right => Term.exact? (.product left op right)

namespace Subexpression

/-- What the calculator makes of a subexpression. -/
def value : Subexpression → Except Fault Number
  | .number n => .ok n
  | .minus u => (Unary.minus u).value
  | .sum left op right => (Expr.sum left op right).value
  | .product left op right => (Term.product left op right).value

/-- The calculator's value is an integer, and the exact one. -/
def IsExact (s : Subexpression) : Prop :=
  ∃ n : Int64, s.value = .ok (.int n) ∧ s.exact? = some n.toInt

/-- There is an exact value, and 64 bits hold it. -/
def Fits (s : Subexpression) : Prop :=
  ∃ n ∈ s.exact?, -Word.half ≤ n ∧ n < Word.half

/-- Whether the exact value fits can be computed. -/
instance (s : Subexpression) : Decidable s.Fits := Option.decidableExistsMem s.exact?

/-- The exact operands of a remainder. -/
def remainder? : Subexpression → Option (Int × Int)
  | .product left .modulo right => left.exact?.bind fun a => right.exact?.map fun b => (a, b)
  | _ => none

/-- The remainder of the least integer by minus one. It is zero, but the quotient does not fit. -/
def LeastByMinusOne (s : Subexpression) : Prop := s.remainder? = some (-Word.half, -1)

/-- Which remainder a subexpression is can be computed. -/
instance (s : Subexpression) : Decidable s.LeastByMinusOne :=
  inferInstanceAs (Decidable (s.remainder? = some (-Word.half, -1)))

theorem leastByMinusOne_iff {left : Term} {op : ProductOp} {right : Unary} {a b : Int}
    (ha : left.exact? = some a) (hb : right.exact? = some b) :
    (product left op right).LeastByMinusOne ↔ op = .modulo ∧ a = -Word.half ∧ b = -1 := by
  unfold LeastByMinusOne
  cases op <;> simp [remainder?, ha, hb]

end Subexpression

/-! ### Integers come from integers -/

theorem exact?_sum {left : Expr} {op : SumOp} {right : Term} {a b : Int}
    (ha : left.exact? = some a) (hb : right.exact? = some b) :
    Expr.exact? (.sum left op right) = some (op.apply a b) := by
  unfold Expr.exact?
  rw [ha, hb]
  rfl

theorem exact?_product {left : Term} {op : ProductOp} {right : Unary} {a b : Int}
    (ha : left.exact? = some a) (hb : right.exact? = some b) :
    Term.exact? (.product left op right) = op.apply? a b := by
  unfold Term.exact?
  rw [ha, hb]
  rfl

theorem exact?_minus {u : Unary} {a : Int} (ha : u.exact? = some a) :
    Unary.exact? (.minus u) = some (-a) := by
  unfold Unary.exact?
  rw [ha]
  rfl

mutual

/-- An expression whose value is an integer has it exactly, and so has each of its
    subexpressions. -/
theorem expr_exact : ∀ {e : Expr} {n : Int64}, e.value = .ok (.int n) →
    e.exact? = some n.toInt ∧ ∀ s ∈ e.subexpressions, s.IsExact ∧ ¬ s.LeastByMinusOne
  | .term t, _, h => term_exact (t := t) h
  | .sum left op right, n, h => by
    have hvalue := h
    rw [Expr.value] at h
    obtain ⟨a, hleft, h⟩ := bind_ok h
    obtain ⟨b, hright, h⟩ := map_ok h
    obtain ⟨k, m, rfl, rfl, hn⟩ := Number.sum_eq_int_iff.1 h
    obtain ⟨hk, hleft⟩ := expr_exact hleft
    obtain ⟨hm, hright⟩ := term_exact hright
    have hexact : Expr.exact? (.sum left op right) = some n.toInt := by rw [exact?_sum hk hm, hn]
    refine ⟨hexact, ?_⟩
    simp only [Expr.subexpressions, List.forall_mem_append, List.forall_mem_singleton]
    exact ⟨⟨hleft, hright⟩, ⟨n, hvalue, hexact⟩, nofun⟩

theorem term_exact : ∀ {t : Term} {n : Int64}, t.value = .ok (.int n) →
    t.exact? = some n.toInt ∧ ∀ s ∈ t.subexpressions, s.IsExact ∧ ¬ s.LeastByMinusOne
  | .unary u, _, h => unary_exact (u := u) h
  | .product left op right, n, h => by
    have hvalue := h
    rw [Term.value] at h
    obtain ⟨a, hleft, h⟩ := bind_ok h
    obtain ⟨b, hright, h⟩ := bind_ok h
    obtain ⟨k, m, rfl, rfl, hn, hleast⟩ := Number.product_eq_int_iff.1 h
    obtain ⟨hk, hleft⟩ := term_exact hleft
    obtain ⟨hm, hright⟩ := unary_exact hright
    have hexact : Term.exact? (.product left op right) = some n.toInt :=
      (exact?_product hk hm).trans hn
    refine ⟨hexact, ?_⟩
    simp only [Term.subexpressions, List.forall_mem_append, List.forall_mem_singleton]
    exact ⟨⟨hleft, hright⟩, ⟨n, hvalue, hexact⟩,
      mt (Subexpression.leastByMinusOne_iff hk hm).1 hleast⟩

theorem unary_exact : ∀ {u : Unary} {n : Int64}, u.value = .ok (.int n) →
    u.exact? = some n.toInt ∧ ∀ s ∈ u.subexpressions, s.IsExact ∧ ¬ s.LeastByMinusOne
  | .minus u, n, h => by
    have hvalue := h
    rw [Unary.value] at h
    obtain ⟨a, hu, h⟩ := map_ok h
    obtain ⟨k, rfl, hn⟩ := Number.negate_eq_int_iff.1 h
    obtain ⟨hk, hu⟩ := unary_exact hu
    have hexact : Unary.exact? (.minus u) = some n.toInt := by rw [exact?_minus hk, hn]
    refine ⟨hexact, ?_⟩
    simp only [Unary.subexpressions, List.forall_mem_append, List.forall_mem_singleton]
    exact ⟨hu, ⟨n, hvalue, hexact⟩, nofun⟩
  | .atom (.number _), n, h => by
    obtain rfl := Except.ok.inj h
    refine ⟨rfl, fun s hs => ?_⟩
    obtain rfl := List.mem_singleton.1 hs
    exact ⟨⟨n, rfl, rfl⟩, nofun⟩
  | .atom (.parentheses e), _, h => expr_exact (e := e) h

end

mutual

/-- The numbers of a tree are among its tokens. -/
theorem expr_number_mem {n : Number} : ∀ {e : Expr}, .number n ∈ e.subexpressions →
    Token.number n ∈ e.tokens
  | .term t, h => term_number_mem (t := t) h
  | .sum left op right, h => by
    simp only [Expr.subexpressions, List.mem_append, List.mem_singleton, reduceCtorEq,
      or_false] at h
    rw [Expr.tokens, List.mem_append]
    exact h.imp expr_number_mem fun h => List.mem_cons_of_mem _ (term_number_mem h)

theorem term_number_mem {n : Number} : ∀ {t : Term}, .number n ∈ t.subexpressions →
    Token.number n ∈ t.tokens
  | .unary u, h => unary_number_mem (u := u) h
  | .product left op right, h => by
    simp only [Term.subexpressions, List.mem_append, List.mem_singleton, reduceCtorEq,
      or_false] at h
    rw [Term.tokens, List.mem_append]
    exact h.imp term_number_mem fun h => List.mem_cons_of_mem _ (unary_number_mem h)

theorem unary_number_mem {n : Number} : ∀ {u : Unary}, .number n ∈ u.subexpressions →
    Token.number n ∈ u.tokens
  | .minus u, h => by
    simp only [Unary.subexpressions, List.mem_append, List.mem_singleton, reduceCtorEq,
      or_false] at h
    exact List.mem_cons_of_mem _ (unary_number_mem h)
  | .atom (.number _), h => by
    obtain h := Subexpression.number.inj (List.mem_singleton.1 h)
    exact List.mem_singleton.2 (congrArg Token.number h)
  | .atom (.parentheses e), h =>
    List.mem_cons_of_mem _ (List.mem_append_left _ (expr_number_mem (e := e) h))

end

/-- Integer results are exact. If an expression evaluates to an integer, that is its exact value,
    and each subexpression has an integer as its value, the exact one; so nothing was rounded or
    wrapped around, and no double was in between. The numbers that it started from are the values
    of literals in the text. -/
theorem int_result_exact {e : Expr} {n : Int64} (h : evaluate e.tokens = .ok (.int n)) :
    e.exact? = some n.toInt ∧ (∀ s ∈ e.subexpressions, s.IsExact) ∧
    ∀ text, tokenize text = .ok e.tokens → ∀ m, .number m ∈ e.subexpressions →
      ∃ (literal : Text) (k : Nat), literal <:+: text ∧ Text.toNat? literal = some k ∧
        m.exact? = some (k : Int) := by
  rw [evaluate_tokens] at h
  obtain ⟨hexact, hall⟩ := expr_exact h
  refine ⟨hexact, fun s hs => (hall s hs).1, fun text htext m hm => ?_⟩
  obtain ⟨literal, hwithin, hliteral⟩ := exists_literal_of_mem_tokenize htext (expr_number_mem hm)
  obtain ⟨⟨k, hk, -⟩, -⟩ := hall _ hm
  obtain rfl : m = .int k := Except.ok.inj hk
  obtain ⟨value, hvalue, hint⟩ := toNat?_of_ofLiteral?_int hliteral
  exact ⟨literal, value, hwithin, hvalue, congrArg some hint⟩

/-- Seven over four has a remainder of three, and the sign is that of the dividend. -/
theorem int_result_exact_of_remainder :
    ∃ e : Expr, evaluate e.tokens = .ok (.int (-3)) ∧ e.exact? = some (-3) ∧
      ∀ s ∈ e.subexpressions, s.IsExact := by
  let e : Expr := .term (.product (.unary (.minus (.atom (.number (.int 7))))) .modulo
    (.atom (.number (.int 4))))
  have hvalue : evaluate e.tokens = .ok (.int (-3)) := by rfl
  obtain ⟨hexact, hall, -⟩ := int_result_exact hvalue
  exact ⟨e, hvalue, hexact, hall⟩

/-! ### Integers stay integers -/

mutual

/-- An expression whose subexpressions have exact values that fit is an integer, if the least
    integer is nowhere divided by minus one for a remainder. -/
theorem expr_int : ∀ {e : Expr}, (∀ s ∈ e.subexpressions, s.Fits ∧ ¬ s.LeastByMinusOne) →
    ∃ n : Int64, e.value = .ok (.int n)
  | .term t, h => term_int (t := t) h
  | .sum left op right, h => by
    simp only [Expr.subexpressions, List.forall_mem_append, List.forall_mem_singleton] at h
    obtain ⟨⟨hleft, hright⟩, ⟨v, hv, hfits⟩, -⟩ := h
    obtain ⟨a, ha⟩ := expr_int hleft
    obtain ⟨b, hb⟩ := term_int hright
    obtain ⟨r, rfl⟩ := exists_toInt hfits
    have hr : r.toInt = op.apply a.toInt b.toInt :=
      Option.some.inj (hv.symm.trans (exact?_sum (expr_exact ha).1 (term_exact hb).1))
    refine ⟨r, ?_⟩
    rw [Expr.value, ha, hb]
    exact congrArg Except.ok (Number.sum_eq_int_iff.2 ⟨a, b, rfl, rfl, hr⟩)

theorem term_int : ∀ {t : Term}, (∀ s ∈ t.subexpressions, s.Fits ∧ ¬ s.LeastByMinusOne) →
    ∃ n : Int64, t.value = .ok (.int n)
  | .unary u, h => unary_int (u := u) h
  | .product left op right, h => by
    simp only [Term.subexpressions, List.forall_mem_append, List.forall_mem_singleton] at h
    obtain ⟨⟨hleft, hright⟩, ⟨v, hv, hfits⟩, hleast⟩ := h
    obtain ⟨a, ha⟩ := term_int hleft
    obtain ⟨b, hb⟩ := unary_int hright
    obtain ⟨r, rfl⟩ := exists_toInt hfits
    have hr : op.apply? a.toInt b.toInt = some r.toInt :=
      (exact?_product (term_exact ha).1 (unary_exact hb).1).symm.trans hv
    rw [Subexpression.leastByMinusOne_iff (term_exact ha).1 (unary_exact hb).1] at hleast
    refine ⟨r, ?_⟩
    rw [Term.value, ha, hb]
    exact Number.product_eq_int_iff.2 ⟨a, b, rfl, rfl, hr, hleast⟩

theorem unary_int : ∀ {u : Unary}, (∀ s ∈ u.subexpressions, s.Fits ∧ ¬ s.LeastByMinusOne) →
    ∃ n : Int64, u.value = .ok (.int n)
  | .minus u, h => by
    simp only [Unary.subexpressions, List.forall_mem_append, List.forall_mem_singleton] at h
    obtain ⟨hu, ⟨v, hv, hfits⟩, -⟩ := h
    obtain ⟨a, ha⟩ := unary_int hu
    obtain ⟨r, rfl⟩ := exists_toInt hfits
    have hr : r.toInt = -a.toInt :=
      Option.some.inj (hv.symm.trans (exact?_minus (unary_exact ha).1))
    refine ⟨r, ?_⟩
    rw [Unary.value, ha]
    exact congrArg Except.ok (Number.negate_eq_int_iff.2 ⟨a, rfl, hr⟩)
  | .atom (.number n), h => by
    obtain ⟨⟨v, hv, -⟩, -⟩ := h _ (List.mem_singleton.2 rfl)
    cases n with
    | int k => exact ⟨k, rfl⟩
    | float x => exact nomatch hv
  | .atom (.parentheses e), h => expr_int (e := e) h

end

/-- Integers stay integers while they fit. An expression whose subexpressions all have exact values
    that 64 bits hold evaluates to its exact value, and shows it, exactly if the least integer is
    nowhere divided by minus one for a remainder. -/
theorem evaluate_int_iff {e : Expr} (h : ∀ s ∈ e.subexpressions, s.Fits) :
    (∃ n : Int64, e.exact? = some n.toInt ∧ evaluate e.tokens = .ok (.int n) ∧
      ∀ text, tokenize text = .ok e.tokens → execute text = .ok (Text.ofInt n.toInt)) ↔
    ∀ s ∈ e.subexpressions, ¬ s.LeastByMinusOne := by
  rw [evaluate_tokens]
  constructor
  · rintro ⟨n, -, hn, -⟩ s hs
    exact ((expr_exact hn).2 s hs).2
  · intro hleast
    obtain ⟨n, hn⟩ := expr_int fun s hs => ⟨h s hs, hleast s hs⟩
    refine ⟨n, (expr_exact hn).1, hn, fun text htext => ?_⟩
    rw [execute_of_tokens htext, hn]
    rfl

/-- The least integer, as a sum in parentheses. -/
def leastAtom : Atom :=
  .parentheses (.sum (.term (.unary (.minus (.atom (.number (.int 9223372036854775807))))))
    .minus (.unary (.atom (.number (.int 1)))))

/-- The least integer by one has a remainder. -/
theorem evaluate_int_iff_of_least :
    let e : Expr := .term (.product (.unary (.atom leastAtom)) .modulo
      (.atom (.number (.int 1))))
    (∀ s ∈ e.subexpressions, s.Fits) ∧ (∀ s ∈ e.subexpressions, ¬ s.LeastByMinusOne) ∧
      ∃ n : Int64, e.exact? = some n.toInt ∧ evaluate e.tokens = .ok (.int n) := by
  intro e
  have hfits : ∀ s ∈ e.subexpressions, s.Fits := by decide
  have hleast : ∀ s ∈ e.subexpressions, ¬ s.LeastByMinusOne := by decide
  obtain ⟨n, hexact, hvalue, -⟩ := (evaluate_int_iff hfits).2 hleast
  exact ⟨hfits, hleast, n, hexact, hvalue⟩

/-- The least integer by minus one has a remainder too, but not among the integers. -/
theorem not_forall_int_of_fits :
    ¬ ∀ e : Expr, (∀ s ∈ e.subexpressions, s.Fits) →
      ∃ n : Int64, e.exact? = some n.toInt ∧ evaluate e.tokens = .ok (.int n) := by
  intro h
  let e : Expr := .term (.product (.unary (.atom leastAtom)) .modulo
    (.minus (.atom (.number (.int 1)))))
  obtain ⟨n, -, hn⟩ := h e (by decide)
  have hfloat : evaluate e.tokens = .ok (.float _) := rfl
  exact nomatch hfloat.symm.trans hn

end Console.Calculator
