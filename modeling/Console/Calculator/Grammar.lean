import Console.Calculator.Reading

/-! The grammar of arithmetic texts, as the trees of its derivations. A sum or product holds its
    left operand as a whole, which is what makes equal operators bind from the left. A tree has the
    tokens that it derives, a value that is evaluated from the left, and, as long as no double comes
    in and every quotient comes out even, an exact value among all integers. -/

namespace Console.Calculator

mutual

/-- A sum: one term, or a sum and a further term. -/
inductive Expr where
  | term (t : Term)
  | sum (left : Expr) (op : SumOp) (right : Term)

/-- A product: one unary, or a product and a further unary. -/
inductive Term where
  | unary (u : Unary)
  | product (left : Term) (op : ProductOp) (right : Unary)

/-- An atom with unary minus signs in front. -/
inductive Unary where
  | minus (u : Unary)
  | atom (a : Atom)

/-- A number, or a sum in parentheses. -/
inductive Atom where
  | number (n : Number)
  | parentheses (e : Expr)

end

/-! ### Tokens -/

mutual

/-- The tokens of a sum. -/
def Expr.tokens : Expr → List Token
  | .term t => t.tokens
  | .sum left op right => left.tokens ++ .sum op :: right.tokens

/-- The tokens of a product. -/
def Term.tokens : Term → List Token
  | .unary u => u.tokens
  | .product left op right => left.tokens ++ .product op :: right.tokens

/-- The tokens of a unary. -/
def Unary.tokens : Unary → List Token
  | .minus u => .sum .minus :: u.tokens
  | .atom a => a.tokens

/-- The tokens of an atom. -/
def Atom.tokens : Atom → List Token
  | .number n => [.number n]
  | .parentheses e => .opening :: e.tokens ++ [.closing]

end

/-- Whether tokens are those of an expression. -/
def Grammatical (ts : List Token) : Prop := ∃ e : Expr, e.tokens = ts

/-- Whether tokens can be continued to those of an expression. -/
def Viable (ts : List Token) : Prop := ∃ rest, Grammatical (ts ++ rest)

/-! ### Values -/

mutual

/-- The value of a sum, the left operand first. -/
def Expr.value : Expr → Except Fault Number
  | .term t => t.value
  | .sum left op right => left.value.bind fun a => right.value.map fun b => a.sum op b

/-- The value of a product, the left operand first. -/
def Term.value : Term → Except Fault Number
  | .unary u => u.value
  | .product left op right => left.value.bind fun a => right.value.bind fun b => a.product op b

/-- The value of a unary. -/
def Unary.value : Unary → Except Fault Number
  | .minus u => u.value.map Number.negate
  | .atom a => a.value

/-- The value of an atom. -/
def Atom.value : Atom → Except Fault Number
  | .number n => .ok n
  | .parentheses e => e.value

end

/-! ### Exact values -/

/-- An additive operator on integers of any size. -/
def SumOp.apply : SumOp → Int → Int → Int
  | .plus, a, b => a + b
  | .minus, a, b => a - b

/-- A multiplicative operator on integers of any size: a quotient that comes out even, and a
    remainder with the sign of the dividend. Nothing is divided by zero. -/
def ProductOp.apply? : ProductOp → Int → Int → Option Int
  | .times, a, b => some (a * b)
  | .over, a, b => if b ≠ 0 ∧ b ∣ a then some (a / b) else none
  | .modulo, a, b => if b ≠ 0 then some (a.tmod b) else none

/-- The exact value of a number. -/
def Number.exact? : Number → Option Int
  | .int n => some n.toInt
  | .float _ => none

mutual

/-- The exact value of a sum. -/
def Expr.exact? : Expr → Option Int
  | .term t => t.exact?
  | .sum left op right => left.exact?.bind fun a => right.exact?.map fun b => op.apply a b

/-- The exact value of a product. -/
def Term.exact? : Term → Option Int
  | .unary u => u.exact?
  | .product left op right => left.exact?.bind fun a => right.exact?.bind fun b => op.apply? a b

/-- The exact value of a unary. -/
def Unary.exact? : Unary → Option Int
  | .minus u => u.exact?.map fun n => -n
  | .atom a => a.exact?

/-- The exact value of an atom. -/
def Atom.exact? : Atom → Option Int
  | .number n => n.exact?
  | .parentheses e => e.exact?

end

end Console.Calculator
