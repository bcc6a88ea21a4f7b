import Console.Calculator.Token

/-! Evaluation in one pass over the tokens. The operators bind as usual: a unary minus first, then
    `*`, `/` and `%`, then `+` and `-`, equal ones from the left. A value is combined with what
    waits for it as soon as the next token shows that nothing binds it more tightly, so the first
    fault in reading order wins. -/

namespace Console.Calculator

/-- What waits for an operand at one depth of parentheses. -/
structure Frame where
  /-- The left side of an open `+` or `-`. -/
  sum : Option (Number × SumOp)
  /-- The left side of an open `*`, `/` or `%`. -/
  product : Option (Number × ProductOp)
  /-- How many unary minus signs stand before the operand. -/
  minuses : Nat

namespace Frame

/-- Nothing waits at the start of an expression. -/
def start : Frame := ⟨none, none, 0⟩

/-- Applies `n` unary minus signs. -/
def negateTimes : Nat → Number → Number
  | 0, v => v
  | n + 1, v => (negateTimes n v).negate

/-- The value of the term that ends with this operand so far. -/
def term (f : Frame) (operand : Number) : Except Fault Number :=
  match f.product with
  | none => .ok (negateTimes f.minuses operand)
  | some (left, op) => left.product op (negateTimes f.minuses operand)

end Frame

/-- Adds a finished term to the sum that waits for it. -/
def addTerm (waiting : Option (Number × SumOp)) (term : Number) : Number :=
  match waiting with
  | none => term
  | some (left, op) => left.sum op term

/-- Where a reading stands: an operand must come, or one has just ended. The outer frames are those
    of the open parentheses, innermost first. -/
inductive Reading where
  | operand (frame : Frame) (outer : List Frame)
  | operator (sum : Option (Number × SumOp)) (term : Number) (outer : List Frame)

namespace Reading

/-- Before the first token. -/
def start : Reading := .operand .start []

/-- An operand has ended. -/
def supply (frame : Frame) (outer : List Frame) (value : Number) : Except Fault Reading :=
  (frame.term value).map fun term => .operator frame.sum term outer

/-- Reads one token. -/
def step : Reading → Token → Except Fault Reading
  | .operand frame outer, .number n => supply frame outer n
  | .operand frame outer, .sum .minus =>
    .ok (.operand { frame with minuses := frame.minuses + 1 } outer)
  | .operand frame outer, .opening => .ok (.operand .start (frame :: outer))
  | .operand _ _, t => .error (.unexpectedToken t.render)
  | .operator sum term outer, .product op => .ok (.operand ⟨sum, some (term, op), 0⟩ outer)
  | .operator sum term outer, .sum op => .ok (.operand ⟨some (addTerm sum term, op), none, 0⟩ outer)
  | .operator sum term (frame :: outer), .closing => supply frame outer (addTerm sum term)
  | .operator _ _ _, t => .error (.unexpectedToken t.render)

/-- Reads tokens from the left. -/
def run : Reading → List Token → Except Fault Reading
  | r, [] => .ok r
  | r, t :: ts => (r.step t).bind fun next => next.run ts

/-- The value at the end of the text, where no parenthesis may be open. -/
def value : Reading → Except Fault Number
  | .operator sum term [] => .ok (addTerm sum term)
  | _ => .error .unexpectedEnd

/-- Reading two parts is reading the first, then the second. -/
theorem run_append (r : Reading) (ts us : List Token) :
    r.run (ts ++ us) = (r.run ts).bind fun next => next.run us := by
  induction ts generalizing r with
  | nil => rfl
  | cons t ts ih =>
    simp only [List.cons_append, run]
    cases r.step t with
    | error e => rfl
    | ok next => exact ih next

end Reading

/-- The value of a list of tokens. -/
def evaluate (ts : List Token) : Except Fault Number := (Reading.start.run ts).bind Reading.value

/-- The text of the value of an arithmetic text. -/
def execute (t : Text) : Except Fault Text :=
  (tokenize t).bind fun ts => (evaluate ts).map Number.render

end Console.Calculator
