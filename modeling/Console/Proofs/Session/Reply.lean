import Console.Session.Basic

/-! What one operation does to a session, whatever its store answers. Saving touches nothing in the
    session; recording a command and changing the buffer size touch the history alone. All that an
    evaluation does to the transcript is a reply: one more block, or the bare prompt, or the
    preamble. Which reply it is depends on the expression, the evaluator's answer and the buffer
    size, and on no failure of the store. -/

namespace Console

/-! ### The parts that an operation touches -/

/-- Loading a history asks for the size, and then for the commands if the size could be loaded. -/
theorem Session.loadHistory_store {σ : Type} [Store σ] (title : Text) (defaultSize : Nat) (s : σ) :
    (loadHistory title defaultSize s).2 = (Store.loadSize s).2 ∨
      (loadHistory title defaultSize s).2 =
        (Store.loadHistory (Store.loadSize s).2 title).2 := by
  unfold loadHistory
  rcases Store.loadSize s with ⟨_ | size, s₁⟩
  · exact .inl rfl
  · right
    dsimp only
    rcases Store.loadHistory s₁ title with ⟨_ | entries, s₂⟩ <;> rfl

namespace Running

variable {σ : Type} [Store σ] (r : Running σ)

@[simp] theorem persist_session : r.persist.session = r.session := by
  unfold persist
  split <;> rfl

@[simp] theorem addCommand_session (command : Text) : (r.addCommand command).session =
    { r.session with history := (r.session.history.push command).2 } := by
  simp only [addCommand, persist_session]
  split <;> rfl

@[simp] theorem setBufferSize_session (size : Nat) : (r.setBufferSize size).session =
    { r.session with history := (r.session.history.setLimit size).2 } := by
  simp only [setBufferSize]
  split <;> split <;> simp [withHistory, record]

/-- A reset brings the preamble back also when the store fails. -/
theorem reset_session : ∃ history, r.reset.2.session =
    { r.session with transcript := r.session.transcript.reset, history := history } := by
  unfold reset
  dsimp only
  split
  · exact ⟨_, rfl⟩
  · split <;> exact ⟨_, rfl⟩

theorem persist_store : r.persist.store =
    (Store.saveHistory r.store r.session.flavor.title r.session.history.entries).2 := by
  unfold persist
  rcases Store.saveHistory r.store _ _ with ⟨_ | _, s⟩ <;> rfl

/-- A command is recorded first and then saved. -/
theorem addCommand_eq (command : Text) : ∃ r' : Running σ,
    r'.session = { r.session with history := (r.session.history.push command).2 } ∧
      r'.store = r.store ∧ r.addCommand command = r'.persist := by
  simp only [addCommand]
  split <;> refine ⟨_, ?_, ?_, rfl⟩ <;> rfl

/-- A buffer size is saved, and after it the history if commands went. -/
theorem setBufferSize_eq (size : Nat) : ∃ r' : Running σ,
    r'.session = { r.session with history := (r.session.history.setLimit size).2 } ∧
      r'.store = (Store.saveSize r.store size).2 ∧ r.setBufferSize size =
        if (r.session.history.setLimit size).1 then r'.persist else r' := by
  simp only [setBufferSize, withHistory]
  rcases Store.saveSize r.store size with ⟨_ | _, s⟩ <;> exact ⟨_, rfl, rfl, rfl⟩

/-- A reset ends with an empty history when it cannot save one, or cannot load the one that it has
    saved; else it ends with the history that it has loaded. -/
theorem reset_cases :
    let saved := Store.saveHistory r.store r.session.flavor.title []
    let loaded := Session.loadHistory r.session.flavor.title r.session.defaultSize saved.2
    let empty := History.empty r.session.history.limit
    (∃ e, saved.1 = .error e ∧ r.reset.1 = .error e ∧ r.reset.2.store = saved.2 ∧
        r.reset.2.session.history = empty) ∨
      saved.1 = .ok () ∧ r.reset.2.store = loaded.2 ∧
        ((∃ e, loaded.1 = .error e ∧ r.reset.1 = .error e ∧ r.reset.2.session.history = empty) ∨
          ∃ history, loaded.1 = .ok history ∧ r.reset.1 = .ok () ∧
            r.reset.2.session.history = history) := by
  unfold reset
  simp only [mapTranscript, withHistory]
  rcases Store.saveHistory r.store _ _ with ⟨e | _, s⟩
  · exact .inl ⟨e, rfl, rfl, rfl, rfl⟩
  · dsimp only
    rcases Session.loadHistory r.session.flavor.title r.session.defaultSize s with ⟨e | history, s'⟩
    · exact .inr ⟨rfl, rfl, .inl ⟨e, rfl, rfl, rfl⟩⟩
    · exact .inr ⟨rfl, rfl, .inr ⟨history, rfl, rfl, rfl⟩⟩

omit [Store σ] in
/-- An evaluation by the evaluator adds a block, and keeps the output if there is one. -/
theorem runExpression_session (evaluator : Evaluator σ) (expression : Text) :
    (r.runExpression evaluator expression).session =
      match (evaluator expression r.store).1 with
      | .ok output => { r.session with
          transcript := r.session.transcript.pushResult output, lastOutput := some output }
      | .error message => { r.session with
          transcript := r.session.transcript.pushError message } := by
  unfold runExpression
  split <;> rename_i h <;> simp only [h] <;> rfl

omit [Store σ] in
theorem runExpression_store (evaluator : Evaluator σ) (expression : Text) :
    (r.runExpression evaluator expression).store = (evaluator expression r.store).2 := by
  unfold runExpression
  split <;> rename_i h <;> rw [h] <;> rfl

end Running

/-! ### Replies -/

/-- What an evaluation does to the transcript. -/
inductive Reply where
  | block (shown : Text)
  | cleared
  | reset
  deriving DecidableEq, Repr

/-- The reply to an expression, given the evaluator's answer to it and the buffer size. -/
def Reply.of (answer : Except Text Text) (limit : Nat) (expression : Text) : Reply :=
  match Command.parse? expression with
  | some .clear => .cleared
  | some .reset => .reset
  | some .help => .block Command.helpText
  | some .showBufferSize => .block ("Buffer size: ".toList ++ Text.ofNat limit)
  | some (.setBufferSize size) => .block ("Buffer size set to ".toList ++ Text.ofNat size)
  | none =>
    match answer with
    | .ok output => .block (Transcript.resultBlock output)
    | .error message => .block (Transcript.errorBlock message)

/-- The output of an evaluation, if the expression is no special command and the evaluator has a
    result. -/
def Reply.output? (answer : Except Text Text) (expression : Text) : Option Text :=
  match Command.parse? expression, answer with
  | none, .ok output => some output
  | _, _ => none

/-- The transcript after a reply. -/
def Transcript.after (t : Transcript) : Reply → Transcript
  | .block shown => t.pushBlock shown
  | .cleared => t.clear
  | .reset => t.reset

namespace Running

variable {σ : Type} [Store σ]

/-- Resetting by a command is resetting, with one more event when the store fails. -/
theorem runSpecial_reset_session (r : Running σ) :
    (r.runSpecial .reset).2.session = (r.record (.special .reset)).reset.2.session := by
  unfold runSpecial
  dsimp only
  split <;> rename_i hreset
  · rw [hreset]
  · rw [hreset]
    rfl

theorem runSpecial_reset_store (r : Running σ) :
    (r.runSpecial .reset).2.store = (r.record (.special .reset)).reset.2.store := by
  unfold runSpecial
  dsimp only
  split <;> rename_i hreset
  · rw [hreset]
  · rw [hreset]
    rfl

/-- An evaluation replies in the transcript, keeps the output of an evaluation that had one, and
    touches nothing else but the history. -/
theorem evaluate_session (evaluator : Evaluator σ) (r : Running σ) (expression : Text) :
    ∃ history, (r.evaluate evaluator expression).2.session =
      let answer := (evaluator expression (r.addCommand expression).store).1
      { r.session with
        transcript := r.session.transcript.after
          (Reply.of answer r.session.history.limit expression)
        lastOutput := (Reply.output? answer expression).or r.session.lastOutput
        history := history } := by
  unfold evaluate Reply.of Reply.output?
  cases Command.parse? expression with
  | none =>
    simp only [runExpression_session, addCommand_session]
    cases (evaluator expression (r.addCommand expression).store).1 with
    | ok output => exact ⟨_, rfl⟩
    | error message => exact ⟨_, rfl⟩
  | some command =>
    cases command with
    | clear | help | showBufferSize =>
      simp [runSpecial, record, show_, mapTranscript, Transcript.after, History.push]
    | setBufferSize size =>
      simp [runSpecial, record, show_, mapTranscript, Transcript.after]
    | reset =>
      obtain ⟨history, hreset⟩ := reset_session ((r.addCommand expression).record (.special .reset))
      refine ⟨history, ?_⟩
      rw [runSpecial_reset_session, hreset]
      simp [record, Transcript.after]

end Running

end Console
