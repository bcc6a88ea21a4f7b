import Console.Proofs.Calculator.Draft
import Console.Proofs.Except

/-! Evaluation follows the draft. After every token the evaluation holds the values of the finished
    parts of the draft, and it refuses a token exactly when the draft does. So tokens have the value
    of their tree, and tokens without a tree have none. -/

namespace Console.Calculator

namespace Draft

/-! ### The values of a draft -/

/-- The value of an open sum. -/
def sumValue : Option (Expr × SumOp) → Except Fault (Option (Number × SumOp))
  | none => .ok none
  | some (left, op) => left.value.map fun v => some (v, op)

/-- The value of an open product. -/
def productValue : Option (Term × ProductOp) → Except Fault (Option (Number × ProductOp))
  | none => .ok none
  | some (left, op) => left.value.map fun v => some (v, op)

/-- The values that wait at one depth, from the left. -/
def pendingValue (p : Pending) : Except Fault Frame :=
  (sumValue p.sum).bind fun sum =>
    (productValue p.product).map fun product => ⟨sum, product, p.minuses⟩

/-- The values that wait around the innermost open parenthesis, from the left. -/
def outerValue : List Pending → Except Fault (List Frame)
  | [] => .ok []
  | p :: outer => (outerValue outer).bind fun frames => (pendingValue p).map (· :: frames)

/-- Where the reading of a draft's tokens stands, or the first fault of its finished parts. -/
def value : Draft → Except Fault Reading
  | .operand p outer =>
    (outerValue outer).bind fun frames => (pendingValue p).map (.operand · frames)
  | .operator sum term outer =>
    (outerValue outer).bind fun frames =>
      (sumValue sum).bind fun sum => term.value.map (.operator sum · frames)

theorem minusTimes_value (u : Unary) :
    ∀ n : Nat, (u.minusTimes n).value = u.value.map (Frame.negateTimes n)
  | 0 => by
    cases h : u.value <;> rw [Unary.minusTimes, h] <;> rfl
  | n + 1 => by
    rw [Unary.minusTimes, Unary.value, minusTimes_value u n]
    cases u.value <;> rfl

theorem term_value (p : Pending) (u : Unary) (sum : Option (Number × SumOp)) : (p.term u).value =
    (productValue p.product).bind fun product =>
      u.value.bind fun v => Frame.term ⟨sum, product, p.minuses⟩ v := by
  unfold Pending.term
  cases p.product with
  | none =>
    simp only [Term.value, minusTimes_value, productValue, Except.bind, Frame.term]
    cases u.value <;> rfl
  | some waiting =>
    obtain ⟨left, op⟩ := waiting
    simp only [Term.value, minusTimes_value, productValue]
    cases left.value with
    | error e => rfl
    | ok a =>
      simp only [Except.bind, Except.map, Frame.term]
      cases u.value <;> rfl

theorem join_value (sum : Option (Expr × SumOp)) (term : Term) : (Expr.join sum term).value =
    (sumValue sum).bind fun sum => term.value.map (addTerm sum) := by
  cases sum with
  | none =>
    rw [Expr.join, Expr.value]
    cases h : term.value <;> rfl
  | some waiting =>
    obtain ⟨left, op⟩ := waiting
    rw [Expr.join, Expr.value, sumValue]
    cases left.value with
    | error e => rfl
    | ok a => cases term.value <;> rfl

/-- An operand is supplied when everything before it has a value. -/
theorem supply_value (p : Pending) (outer : List Pending) (u : Unary) :
    (supply p outer u).value = (outerValue outer).bind fun frames =>
      (pendingValue p).bind fun frame => u.value.bind (Reading.supply frame frames) := by
  rw [supply, value, pendingValue]
  cases outerValue outer with
  | error e => rfl
  | ok frames =>
    cases hsum : sumValue p.sum with
    | error e => rfl
    | ok sum =>
      change (p.term u).value.map _ = _
      rw [term_value p u sum]
      cases productValue p.product with
      | error e => rfl
      | ok product =>
        cases u.value with
        | error e => rfl
        | ok v => rfl

theorem minus_value (p : Pending) (outer : List Pending) :
    (operand { p with minuses := p.minuses + 1 } outer).value =
      (operand p outer).value.bind (·.step (.sum .minus)) := by
  rw [value, value, pendingValue, pendingValue]
  cases outerValue outer with
  | error e => rfl
  | ok frames =>
    cases sumValue p.sum with
    | error e => rfl
    | ok sum => cases productValue p.product <;> rfl

theorem opening_value (p : Pending) (outer : List Pending) :
    (operand .start (p :: outer)).value = (operand p outer).value.bind (·.step .opening) := by
  rw [value, value, outerValue]
  cases outerValue outer with
  | error e => rfl
  | ok frames => cases pendingValue p <;> rfl

theorem product_value (sum : Option (Expr × SumOp)) (term : Term) (outer : List Pending)
    (op : ProductOp) : (operand ⟨sum, some (term, op), 0⟩ outer).value =
      (operator sum term outer).value.bind (·.step (.product op)) := by
  rw [value, value, pendingValue, productValue]
  cases outerValue outer with
  | error e => rfl
  | ok frames =>
    cases sumValue sum with
    | error e => rfl
    | ok sum => cases term.value <;> rfl

theorem sum_value (sum : Option (Expr × SumOp)) (term : Term) (outer : List Pending)
    (op : SumOp) : (operand ⟨some (.join sum term, op), none, 0⟩ outer).value =
      (operator sum term outer).value.bind (·.step (.sum op)) := by
  rw [value, value, pendingValue, sumValue, join_value]
  cases outerValue outer with
  | error e => rfl
  | ok frames =>
    cases sumValue sum with
    | error e => rfl
    | ok sum => cases term.value <;> rfl

theorem closing_value (sum : Option (Expr × SumOp)) (term : Term) (p : Pending)
    (outer : List Pending) : (supply p outer (.atom (.parentheses (.join sum term)))).value =
      (operator sum term (p :: outer)).value.bind (·.step .closing) := by
  rw [supply_value, value, outerValue, Unary.value, Atom.value, join_value]
  cases outerValue outer with
  | error e => rfl
  | ok frames =>
    cases pendingValue p with
    | error e => rfl
    | ok frame =>
      cases sumValue sum with
      | error e => rfl
      | ok sum => cases term.value <;> rfl

theorem number_value (p : Pending) (outer : List Pending) (n : Number) :
    (supply p outer (.atom (.number n))).value =
      (operand p outer).value.bind (·.step (.number n)) := by
  rw [supply_value, value]
  cases outerValue outer with
  | error e => rfl
  | ok frames => cases pendingValue p <;> rfl

/-- A token that is read takes the values where the evaluation takes them. -/
theorem step_value {d d' : Draft} {t : Token} (h : d.step t = some d') :
    d'.value = d.value.bind (·.step t) := by
  unfold step at h
  split at h
  · obtain rfl := Option.some.inj h
    exact number_value _ _ _
  · obtain rfl := Option.some.inj h
    exact minus_value _ _
  · obtain rfl := Option.some.inj h
    exact opening_value _ _
  · exact nomatch h
  · obtain rfl := Option.some.inj h
    exact product_value _ _ _ _
  · obtain rfl := Option.some.inj h
    exact sum_value _ _ _ _
  · obtain rfl := Option.some.inj h
    exact closing_value _ _ _ _
  · exact nomatch h

/-! ### Tokens that are refused -/

theorem operand_value_ok {p : Pending} {outer : List Pending} {r : Reading}
    (h : (operand p outer).value = .ok r) : ∃ frame frames, r = .operand frame frames := by
  obtain ⟨frames, -, h⟩ := bind_ok h
  obtain ⟨frame, -, rfl⟩ := map_ok h
  exact ⟨frame, frames, rfl⟩

theorem operator_value_ok {sum : Option (Expr × SumOp)} {term : Term} {outer : List Pending}
    {r : Reading} (h : (operator sum term outer).value = .ok r) :
    ∃ sum' v frames, r = .operator sum' v frames ∧ outerValue outer = .ok frames := by
  obtain ⟨frames, houter, h⟩ := bind_ok h
  obtain ⟨sum', -, h⟩ := bind_ok h
  obtain ⟨v, -, rfl⟩ := map_ok h
  exact ⟨sum', v, frames, rfl, houter⟩

/-- An open parenthesis is open in the evaluation too. -/
theorem outerValue_cons {p : Pending} {outer : List Pending} {frames : List Frame}
    (h : outerValue (p :: outer) = .ok frames) : ∃ frame rest, frames = frame :: rest := by
  obtain ⟨rest, -, h⟩ := bind_ok h
  obtain ⟨frame, -, rfl⟩ := map_ok h
  exact ⟨frame, rest, rfl⟩

/-- A token that the draft does not take is refused by the evaluation. -/
theorem step_none {d : Draft} {t : Token} (h : d.step t = none) {r : Reading}
    (hr : d.value = .ok r) : r.step t = .error (.unexpectedToken t.render) := by
  cases d with
  | operand p outer =>
    obtain ⟨frame, frames, rfl⟩ := operand_value_ok hr
    cases t with
    | number n => exact nomatch h
    | sum op =>
      cases op with
      | plus => rfl
      | minus => exact nomatch h
    | product op => rfl
    | opening => exact nomatch h
    | closing => rfl
  | operator sum term outer =>
    obtain ⟨sum', v, frames, rfl, houter⟩ := operator_value_ok hr
    cases t with
    | number n => rfl
    | sum op => exact nomatch h
    | product op => exact nomatch h
    | opening => rfl
    | closing =>
      cases outer with
      | nil =>
        obtain rfl := Except.ok.inj houter
        rfl
      | cons p outer => exact nomatch h

/-! ### Whole texts -/

theorem run_value : ∀ {ts : List Token} {d d' : Draft}, d.run ts = some d' →
    d'.value = d.value.bind (·.run ts)
  | [], d, _, h => by
    obtain rfl := Option.some.inj h
    cases d.value <;> rfl
  | t :: ts, d, _, h => by
    obtain ⟨next, hstep, hrun⟩ := Option.bind_eq_some_iff.1 h
    rw [run_value hrun, step_value hstep]
    cases d.value <;> rfl

theorem run_none : ∀ {ts : List Token} {d : Draft}, d.run ts = none →
    ∃ fault, d.value.bind (·.run ts) = .error fault
  | [], _, h => nomatch h
  | t :: ts, d, h => by
    cases hd : d.value with
    | error fault => exact ⟨fault, rfl⟩
    | ok r =>
      rw [Draft.run] at h
      cases hstep : d.step t with
      -- everything before the token has a value, so the token itself is refused
      | none =>
        refine ⟨.unexpectedToken t.render, ?_⟩
        change (r.step t).bind _ = _
        rw [step_none hstep hd]
        rfl
      | some next =>
        rw [hstep] at h
        obtain ⟨fault, hfault⟩ := run_none h
        rw [step_value hstep, hd] at hfault
        exact ⟨fault, hfault⟩

theorem finish_value {d : Draft} {e : Expr} (h : d.finish = some e) :
    d.value.bind Reading.value = e.value := by
  unfold finish at h
  split at h
  · obtain rfl := Option.some.inj h
    rename_i sum term
    rw [join_value, value]
    cases sumValue sum with
    | error e => rfl
    | ok sum => cases term.value <;> rfl
  · exact nomatch h

/-- A draft that is no expression ends too early. -/
theorem value_of_finish_none {d : Draft} {r : Reading} (h : d.finish = none)
    (hd : d.value = .ok r) : r.value = .error .unexpectedEnd := by
  cases d with
  | operand p outer =>
    obtain ⟨frame, frames, rfl⟩ := operand_value_ok hd
    rfl
  | operator sum term outer =>
    obtain ⟨sum', v, frames, rfl, houter⟩ := operator_value_ok hd
    cases outer with
    | nil => exact nomatch h
    | cons p outer =>
      obtain ⟨frame, rest, rfl⟩ := outerValue_cons houter
      rfl

theorem finish_none {d : Draft} (h : d.finish = none) :
    ∃ fault, d.value.bind Reading.value = .error fault := by
  cases hd : d.value with
  | error fault => exact ⟨fault, rfl⟩
  | ok r => exact ⟨.unexpectedEnd, value_of_finish_none h hd⟩

end Draft

/-- The value of tokens is the value of their tree. -/
theorem evaluate_of_parse? {ts : List Token} {e : Expr} (h : parse? ts = some e) :
    evaluate ts = e.value := by
  obtain ⟨d, hrun, hfinish⟩ := Option.bind_eq_some_iff.1 h
  rw [← Draft.finish_value hfinish, Draft.run_value hrun]
  rfl

/-- Tokens without a tree have no value. -/
theorem evaluate_of_parse?_none {ts : List Token} (h : parse? ts = none) :
    ∃ fault, evaluate ts = .error fault := by
  rw [parse?] at h
  cases hrun : Draft.start.run ts with
  | none =>
    obtain ⟨fault, hfault⟩ := Draft.run_none hrun
    refine ⟨fault, ?_⟩
    rw [evaluate]
    change (Reading.start.run ts) = _ at hfault
    rw [hfault]
    rfl
  | some d =>
    rw [hrun] at h
    obtain ⟨fault, hfault⟩ := Draft.finish_none h
    rw [Draft.run_value hrun] at hfault
    exact ⟨fault, hfault⟩

end Console.Calculator
