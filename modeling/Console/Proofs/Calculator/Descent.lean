import Console.Calculator.Reading
import Mathlib.Data.List.Basic

/-! Evaluation by recursive descent: one function for each rule of the grammar, which reads what the
    rule derives from the front of the tokens and leaves the rest. The pass over the tokens gives
    the same value, and the same fault where there is one. -/

namespace Console.Calculator

/-- What has been read from the front of tokens: a value, and fewer tokens than before. -/
structure Part (n : Nat) where
  value : Number
  rest : List Token
  shorter : rest.length < n

/-- The parenthesis behind a sum. -/
def Part.close {n : Nat} (p : Part n) : Except Fault (Part (n + 1)) :=
  match h : p.rest with
  | .closing :: rest => .ok ⟨p.value, rest, by have := p.shorter; simp [h] at this; omega⟩
  | t :: _ => .error (.unexpectedToken t.render)
  | [] => .error .unexpectedEnd

namespace Descent

mutual

/-- A sum: a term, and further terms. -/
def expr (ts : List Token) : Except Fault (Part ts.length) :=
  (term ts).bind fun first => sums first.value first.rest first.shorter
termination_by (ts.length, 3)
decreasing_by
  · exact Prod.Lex.right _ (by decide)
  · exact Prod.Lex.left _ _ first.shorter

/-- Further terms behind a value. -/
def sums {n : Nat} (value : Number) : (ts : List Token) → ts.length < n → Except Fault (Part n)
  | .sum op :: ts, h => (term ts).bind fun right =>
    sums (value.sum op right.value) right.rest (Nat.lt_trans right.shorter (Nat.lt_of_succ_lt h))
  | ts, h => .ok ⟨value, ts, h⟩
termination_by ts => (ts.length, 0)
decreasing_by
  · exact Prod.Lex.left _ _ (Nat.lt_succ_self _)
  · exact Prod.Lex.left _ _ (Nat.lt_succ_of_lt right.shorter)

/-- A product: a unary, and further unaries. -/
def term (ts : List Token) : Except Fault (Part ts.length) :=
  (unary ts).bind fun first => products first.value first.rest first.shorter
termination_by (ts.length, 2)
decreasing_by
  · exact Prod.Lex.right _ (by decide)
  · exact Prod.Lex.left _ _ first.shorter

/-- Further unaries behind a value. -/
def products {n : Nat} (value : Number) : (ts : List Token) → ts.length < n → Except Fault (Part n)
  | .product op :: ts, h => (unary ts).bind fun right =>
    (value.product op right.value).bind fun result =>
      products result right.rest (Nat.lt_trans right.shorter (Nat.lt_of_succ_lt h))
  | ts, h => .ok ⟨value, ts, h⟩
termination_by ts => (ts.length, 0)
decreasing_by
  · exact Prod.Lex.left _ _ (Nat.lt_succ_self _)
  · exact Prod.Lex.left _ _ (Nat.lt_succ_of_lt right.shorter)

/-- An atom, or a minus and a unary. -/
def unary : (ts : List Token) → Except Fault (Part ts.length)
  | .sum .minus :: ts =>
    (unary ts).map fun p => ⟨p.value.negate, p.rest, Nat.lt_succ_of_lt p.shorter⟩
  | ts => atom ts
termination_by ts => (ts.length, 1)
decreasing_by
  · exact Prod.Lex.left _ _ (Nat.lt_succ_self _)
  · exact Prod.Lex.right _ (by decide)

/-- A number, or a sum in parentheses. -/
def atom : (ts : List Token) → Except Fault (Part ts.length)
  | .number n :: ts => .ok ⟨n, ts, Nat.lt_succ_self _⟩
  | .opening :: ts => (expr ts).bind Part.close
  | t :: _ => .error (.unexpectedToken t.render)
  | [] => .error .unexpectedEnd
termination_by ts => (ts.length, 0)
decreasing_by exact Prod.Lex.left _ _ (Nat.lt_succ_self _)

end

end Descent

/-- The value of tokens by descent: a sum, and nothing behind it. -/
def descend (ts : List Token) : Except Fault Number :=
  (Descent.expr ts).bind fun p =>
    match p.rest with
    | [] => .ok p.value
    | t :: _ => .error (.unexpectedToken t.render)

/-! ### The pass over the tokens -/

namespace Reading

/-- What comes out in the end if a reading stands here. -/
def answer (r : Reading) (ts : List Token) : Except Fault Number := (r.run ts).bind value

/-- What comes out behind a sum. -/
def afterSum (outer : List Frame) (value : Number) : List Token → Except Fault Number
  | .closing :: ts =>
    match outer with
    | frame :: outer => (supply frame outer value).bind fun next => next.answer ts
    | [] => .error (.unexpectedToken Token.closing.render)
  | t :: _ => .error (.unexpectedToken t.render)
  | [] => if outer.isEmpty then .ok value else .error .unexpectedEnd

/-- What comes out behind a term. -/
def afterTerm (sum : Option (Number × SumOp)) (outer : List Frame) (value : Number) :
    List Token → Except Fault Number
  | .sum op :: ts => answer (.operand ⟨some (addTerm sum value, op), none, 0⟩ outer) ts
  | ts => afterSum outer (addTerm sum value) ts

end Reading

namespace Descent

open Reading

theorem negateTimes_succ (n : Nat) (v : Number) :
    Frame.negateTimes (n + 1) v = Frame.negateTimes n v.negate := by
  induction n with
  | zero => rfl
  | succ n ih => rw [Frame.negateTimes, ih, Frame.negateTimes]

theorem close_answer {n : Nat} (p : Part n) (frame : Frame) (outer : List Frame) :
    afterSum (frame :: outer) p.value p.rest =
      p.close.bind fun q => (supply frame outer q.value).bind fun next => next.answer q.rest := by
  obtain ⟨v, rest, h⟩ := p
  cases rest with
  | nil => rfl
  | cons t ts => cases t <;> rfl

theorem answer_cons (r : Reading) (t : Token) (ts : List Token) :
    r.answer (t :: ts) = (r.step t).bind fun next => next.answer ts := by
  rw [answer, run]
  cases r.step t <;> rfl

/-- The terms of a sum end where no additive operator stands. -/
theorem sums_end {n : Nat} (value : Number) {ts : List Token} (h : ts.length < n)
    (hend : ∀ op rest, ts ≠ .sum op :: rest) : sums value ts h = .ok ⟨value, ts, h⟩ := by
  rw [sums]
  exact fun op rest _ heq => absurd heq (hend op rest)

/-- The unaries of a product end where no multiplicative operator stands. -/
theorem products_end {n : Nat} (value : Number) {ts : List Token} (h : ts.length < n)
    (hend : ∀ op rest, ts ≠ .product op :: rest) : products value ts h = .ok ⟨value, ts, h⟩ := by
  rw [products]
  exact fun op rest _ heq => absurd heq (hend op rest)

theorem answer_operator (sum : Option (Number × SumOp)) (outer : List Frame) (value : Number)
    {ts : List Token} (hend : ∀ op rest, ts ≠ .product op :: rest) :
    answer (.operator sum value outer) ts = afterTerm sum outer value ts := by
  cases ts with
  | nil => cases outer <;> rfl
  | cons t ts =>
    cases t with
    | product op => exact absurd rfl (hend op ts)
    | number | sum | opening => cases outer <;> rfl
    | closing =>
      rw [answer_cons]
      cases outer <;> rfl

/-- A unary without a minus in front is an atom. -/
theorem unary_atom (ts : List Token) (hend : ∀ rest, ts ≠ .sum .minus :: rest) :
    unary ts = atom ts := by
  rw [unary]
  exact hend

mutual

theorem expr_answer (outer : List Frame) (ts : List Token) :
    answer (.operand .start outer) ts =
      (expr ts).bind fun p => afterSum outer p.value p.rest := by
  rw [expr, Frame.start, term_answer none outer ts]
  cases term ts with
  | error e => rfl
  | ok first => exact sums_answer none outer first.value first.rest first.shorter
termination_by (ts.length, 3)
decreasing_by
  · exact Prod.Lex.right _ (by decide)
  · exact Prod.Lex.left _ _ first.shorter

theorem sums_answer {n : Nat} (sum : Option (Number × SumOp)) (outer : List Frame)
    (value : Number) : ∀ (ts : List Token) (h : ts.length < n), afterTerm sum outer value ts =
      (sums (addTerm sum value) ts h).bind fun p => afterSum outer p.value p.rest
  | .sum op :: ts, h => by
    rw [afterTerm, term_answer, sums]
    cases term ts with
    | error e => rfl
    | ok right =>
      exact sums_answer (some (addTerm sum value, op)) outer right.value right.rest
        (Nat.lt_trans right.shorter (Nat.lt_of_succ_lt h))
  | [], h | .number _ :: _, h | .product _ :: _, h | .opening :: _, h | .closing :: _, h => by
    rw [sums_end _ h nofun]
    rfl
termination_by ts => (ts.length, 0)
decreasing_by
  · exact Prod.Lex.left _ _ (Nat.lt_succ_self _)
  · exact Prod.Lex.left _ _ (Nat.lt_succ_of_lt right.shorter)

theorem term_answer (sum : Option (Number × SumOp)) (outer : List Frame) (ts : List Token) :
    answer (.operand ⟨sum, none, 0⟩ outer) ts =
      (term ts).bind fun p => afterTerm sum outer p.value p.rest := by
  rw [term, unary_answer]
  cases unary ts with
  | error e => rfl
  | ok first => exact products_answer sum outer first.value first.rest first.shorter
termination_by (ts.length, 2)
decreasing_by
  · exact Prod.Lex.right _ (by decide)
  · exact Prod.Lex.left _ _ first.shorter

theorem products_answer {n : Nat} (sum : Option (Number × SumOp)) (outer : List Frame)
    (value : Number) : ∀ (ts : List Token) (h : ts.length < n),
      answer (.operator sum value outer) ts =
        (products value ts h).bind fun p => afterTerm sum outer p.value p.rest
  | .product op :: ts, h => by
    rw [answer_cons, products]
    refine (unary_answer ⟨sum, some (value, op), 0⟩ outer ts).trans ?_
    cases unary ts with
    | error e => rfl
    | ok right =>
      simp only [Except.bind, supply, Frame.term, Frame.negateTimes]
      cases value.product op right.value with
      | error e => rfl
      | ok result =>
        exact products_answer sum outer result right.rest
          (Nat.lt_trans right.shorter (Nat.lt_of_succ_lt h))
  | [], h | .number _ :: _, h | .sum _ :: _, h | .opening :: _, h | .closing :: _, h => by
    rw [products_end value h nofun]
    exact answer_operator sum outer value nofun
termination_by ts => (ts.length, 0)
decreasing_by
  · exact Prod.Lex.left _ _ (Nat.lt_succ_self _)
  · exact Prod.Lex.left _ _ (Nat.lt_succ_of_lt right.shorter)

theorem unary_answer (frame : Frame) (outer : List Frame) : ∀ ts : List Token,
    answer (.operand frame outer) ts =
      (unary ts).bind fun p => (supply frame outer p.value).bind fun next => next.answer p.rest
  | .sum .minus :: ts => by
    rw [answer_cons, unary]
    refine (unary_answer { frame with minuses := frame.minuses + 1 } outer ts).trans ?_
    cases unary ts with
    | error e => rfl
    | ok p => simp only [Except.bind, Except.map, supply, Frame.term, negateTimes_succ]
  | .number n :: ts => by
    rw [answer_cons, unary_atom (.number n :: ts) nofun, atom]
    rfl
  | .opening :: ts => by
    rw [answer_cons, unary_atom (.opening :: ts) nofun, atom]
    refine (expr_answer (frame :: outer) ts).trans ?_
    cases expr ts with
    | error e => rfl
    | ok inner => exact close_answer inner frame outer
  | [] => by
    rw [unary_atom [] nofun, atom]
    rfl
  | .sum .plus :: ts | .product _ :: ts | .closing :: ts => by
    rw [unary_atom (_ :: ts), atom] <;> first | rfl | nofun
termination_by ts => (ts.length, 1)
decreasing_by
  · exact Prod.Lex.left _ _ (Nat.lt_succ_self _)
  · exact Prod.Lex.left _ _ (Nat.lt_succ_self _)

end

end Descent

/-- The pass over the tokens evaluates them as the descent does. -/
theorem evaluate_eq_descend (ts : List Token) : evaluate ts = descend ts := by
  refine (Descent.expr_answer [] ts).trans ?_
  rw [descend]
  cases Descent.expr ts with
  | error e => rfl
  | ok p =>
    obtain ⟨v, rest, h⟩ := p
    cases rest with
    | nil => rfl
    | cons t ts => cases t <;> rfl

/-- A text is evaluated as by descent on its tokens. -/
theorem execute_eq_descend (t : Text) :
    execute t = (tokenize t).bind fun ts => (descend ts).map Number.render := by
  simp only [execute, evaluate_eq_descend]

end Console.Calculator
