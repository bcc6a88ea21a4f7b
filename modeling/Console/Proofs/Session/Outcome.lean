import Console.Proofs.Session.Reply

/-! The outcome of an evaluation. Of which change the observers are told depends on the expression
    alone. Unless the expression is a reset, what becomes of the session depends on the expression
    and on the evaluator's answer, so nothing that the store answers has a part in it. -/

namespace Console

/-- The change of which an evaluation tells. -/
def Change.of (expression : Text) : Change :=
  match Command.parse? expression with
  | some .clear => .cleared
  | some .reset => .reset
  | some (.setBufferSize size) => .bufferSizeChanged size
  | some .help | some .showBufferSize | none => .transcriptChanged

/-- The history after an evaluation that is no reset. -/
def History.evaluated (h : History) (expression : Text) : History :=
  match Command.parse? expression with
  | some (.setBufferSize size) => ((h.push expression).2.setLimit size).2
  | _ => (h.push expression).2

/-- The session after an evaluation that is no reset. -/
def Session.evaluated (s : Session) (expression : Text) (answer : Except Text Text) : Session :=
  { s with
    transcript := s.transcript.after (Reply.of answer s.history.limit expression)
    history := s.history.evaluated expression
    lastOutput := (Reply.output? answer expression).or s.lastOutput }

namespace Running

variable {σ : Type} [Store σ]

theorem evaluate_change (evaluator : Evaluator σ) (r : Running σ) (expression : Text) :
    (r.evaluate evaluator expression).1 = Change.of expression := by
  unfold evaluate Change.of
  cases Command.parse? expression with
  | none => rfl
  | some command =>
    cases command with
    | reset =>
      unfold runSpecial
      dsimp only
      split <;> rfl
    | clear | help | showBufferSize | setBufferSize size => rfl

theorem evaluate_history (evaluator : Evaluator σ) (r : Running σ) {expression : Text}
    (hreset : Command.parse? expression ≠ some .reset) :
    (r.evaluate evaluator expression).2.session.history =
      r.session.history.evaluated expression := by
  unfold evaluate History.evaluated
  cases hparse : Command.parse? expression with
  | none =>
    simp only [runExpression_session, addCommand_session]
    split <;> rfl
  | some command =>
    cases command with
    | reset => exact absurd hparse hreset
    | clear | help | showBufferSize =>
      simp [runSpecial, record, show_, mapTranscript]
    | setBufferSize size =>
      simp [runSpecial, record, show_, mapTranscript]

/-- An evaluation that is no reset leaves what the evaluator's answer makes of the session. -/
theorem evaluate_outcome (evaluator : Evaluator σ) (r : Running σ) {expression : Text}
    (hreset : Command.parse? expression ≠ some .reset) :
    (r.evaluate evaluator expression).2.session = r.session.evaluated expression
      (evaluator expression (r.addCommand expression).store).1 := by
  have hhistory := evaluate_history evaluator r hreset
  obtain ⟨history, hsession⟩ := evaluate_session evaluator r expression
  rw [hsession] at hhistory ⊢
  rw [Session.evaluated, ← hhistory]

end Running

end Console
