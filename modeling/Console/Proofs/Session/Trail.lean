import Console.Proofs.Session.Seats

/-! The calls of a session. All that a step does to a store is a trail of calls: loads, saves of
    commands under the session's own title, answers of the evaluator, and saves of the size if the
    step is one that sets it. What every such call leaves alone is left alone by the step. -/

namespace Console

/-! ### Setting the size -/

/-- Whether a command sets the buffer size. -/
def Command.resizes : Command → Bool
  | .setBufferSize _ => true
  | .clear | .reset | .help | .showBufferSize => false

/-- Whether an expression is a command that sets the buffer size. -/
def Command.resizedBy (expression : Text) : Bool := (parse? expression).any resizes

/-- Whether a move sets the buffer size. -/
def Move.resizes (t : Transcript) : Move → Bool
  | .setBufferSize _ => true
  | .commit full => Command.resizedBy (t.extract full)
  | .evaluate expression => Command.resizedBy expression
  | .rest | .append _ | .previous | .next | .reset => false

/-- Whether a step sets the buffer size. -/
def Step.resizes {α : Type} (t : Transcript) (k : Step α) : Bool := (k.move t.text).resizes t

/-- Whether a step at a seat sets the buffer size. -/
def Seat.resizes {σ α : Type} (seat : Seat σ α) (k : Step α) : Bool :=
  seat.engine.any fun e => k.resizes e.session.transcript

variable {σ α : Type} [Store σ]

/-! ### Trails -/

/-- A trail of calls from one state of a store to another. The size is saved only if `sized`. -/
inductive Store.Trail (evaluator : Evaluator σ) (title : Text) (sized : Bool) (s : σ) :
    σ → Prop where
  | refl : Trail evaluator title sized s s
  | loadSize {s' : σ} : Trail evaluator title sized s s' →
      Trail evaluator title sized s (Store.loadSize s').2
  | loadHistory {s' : σ} : Trail evaluator title sized s s' →
      Trail evaluator title sized s (Store.loadHistory s' title).2
  | saveHistory {s' : σ} (commands : List Text) : Trail evaluator title sized s s' →
      Trail evaluator title sized s (Store.saveHistory s' title commands).2
  | saveSize {s' : σ} (size : Nat) : sized = true → Trail evaluator title sized s s' →
      Trail evaluator title sized s (Store.saveSize s' size).2
  | answer {s' : σ} (expression : Text) : Trail evaluator title sized s s' →
      Trail evaluator title sized s (evaluator expression s').2

namespace Store.Trail

variable {evaluator : Evaluator σ} {title : Text} {sized : Bool} {s s' s'' : σ}

theorem trans (h : Trail evaluator title sized s s') (h' : Trail evaluator title sized s' s'') :
    Trail evaluator title sized s s'' := by
  induction h' with
  | refl => exact h
  | loadSize _ ih => exact ih.loadSize
  | loadHistory _ ih => exact ih.loadHistory
  | saveHistory commands _ ih => exact ih.saveHistory commands
  | saveSize size hsized _ ih => exact ih.saveSize size hsized
  | answer expression _ ih => exact ih.answer expression

end Store.Trail

/-! ### Operations of one session -/

open Store (Trail)

variable (evaluator : Evaluator σ) {b : Bool}

theorem Session.loadHistory_trail (title : Text) (defaultSize : Nat) (s : σ) :
    Trail evaluator title b s (loadHistory title defaultSize s).2 := by
  obtain hs | hs := loadHistory_store title defaultSize s
  · rw [hs]
    exact .loadSize .refl
  · rw [hs]
    exact .loadHistory (.loadSize .refl)

namespace Running

variable (r : Running σ)

theorem persist_trail : Trail evaluator r.session.flavor.title b r.store r.persist.store := by
  rw [persist_store]
  exact .saveHistory _ .refl

theorem addCommand_trail (command : Text) :
    Trail evaluator r.session.flavor.title b r.store (r.addCommand command).store := by
  obtain ⟨r', hsession, hstore, heq⟩ := addCommand_eq r command
  have hpersist := persist_trail evaluator (b := b) r'
  rw [hsession, hstore] at hpersist
  rw [heq]
  exact hpersist

theorem setBufferSize_trail (size : Nat) :
    Trail evaluator r.session.flavor.title true r.store (r.setBufferSize size).store := by
  obtain ⟨r', hsession, hstore, heq⟩ := setBufferSize_eq r size
  have hsize : Trail evaluator r.session.flavor.title true r.store r'.store := by
    rw [hstore]
    exact .saveSize size rfl .refl
  have hpersist := persist_trail evaluator (b := true) r'
  rw [hsession] at hpersist
  rw [heq]
  split
  · exact hsize.trans hpersist
  · exact hsize

theorem reset_trail : Trail evaluator r.session.flavor.title b r.store r.reset.2.store := by
  have hsave : Trail evaluator r.session.flavor.title b r.store
      (Store.saveHistory r.store r.session.flavor.title []).2 := .saveHistory [] .refl
  obtain ⟨e, -, -, hstore, -⟩ | ⟨-, hstore, -⟩ := reset_cases r
  · rw [hstore]
    exact hsave
  · rw [hstore]
    exact hsave.trans (Session.loadHistory_trail evaluator _ _ _)

theorem runSpecial_trail (command : Command) :
    Trail evaluator r.session.flavor.title command.resizes r.store
      (r.runSpecial command).2.store := by
  cases command with
  | clear | help | showBufferSize => exact .refl
  | setBufferSize size =>
    exact setBufferSize_trail evaluator (r.record (.special (.setBufferSize size))) size
  | reset =>
    rw [runSpecial_reset_store]
    exact reset_trail evaluator (r.record (.special .reset))

theorem runExpression_trail (expression : Text) :
    Trail evaluator r.session.flavor.title b r.store
      (r.runExpression evaluator expression).store := by
  rw [runExpression_store]
  exact .answer expression .refl

theorem evaluate_trail (expression : Text) :
    Trail evaluator r.session.flavor.title (Command.resizedBy expression) r.store
      (r.evaluate evaluator expression).2.store := by
  have hflavor : (r.addCommand expression).session.flavor = r.session.flavor := by
    rw [addCommand_session]
  unfold evaluate Command.resizedBy
  cases Command.parse? expression with
  | none =>
    have hrun := runExpression_trail evaluator (b := false) (r.addCommand expression)
      expression
    rw [hflavor] at hrun
    exact (addCommand_trail evaluator r expression).trans hrun
  | some command =>
    have hrun := runSpecial_trail evaluator (r.addCommand expression) command
    rw [hflavor] at hrun
    exact (addCommand_trail evaluator r expression).trans hrun

/-- A move is a trail of calls under the session's title, with a save of the size only if it sets
    one. -/
theorem move_trail (m : Move) :
    Trail evaluator r.session.flavor.title (m.resizes r.session.transcript) r.store
      (r.move evaluator m).store := by
  cases m with
  | rest | previous | next => exact .refl
  | commit full => exact evaluate_trail evaluator (r.mapTranscript (·.replace full)) _
  | evaluate expression => exact evaluate_trail evaluator r expression
  | append command => exact addCommand_trail evaluator r command
  | setBufferSize size => exact setBufferSize_trail evaluator r size
  | reset => exact reset_trail evaluator r

end Running

/-! ### Seats -/

omit [Store σ] in
/-- The session of a seat, if it is open, goes by the seat's flavor. -/
def Seat.Proper (seat : Seat σ α) : Prop :=
  ∀ e, seat.engine = some e → e.session.flavor = seat.opening.flavor

namespace Desk

theorem openSeat_proper (seat : Seat σ α) (s : σ) : (openSeat seat s).2.1.Proper := by
  intro e he
  rw [openSeat_opening]
  exact (openSeat_engine he).1

/-- No step changes the flavor of a session. -/
theorem stepSeat_proper {seat : Seat σ α} (h : seat.Proper) (s : σ) (k : Step α) :
    (stepSeat seat s k).2.1.Proper := by
  by_cases hk : k = .reopen
  · subst hk
    exact openSeat_proper seat s
  cases hengine : seat.engine with
  | none =>
    rw [stepSeat_closed seat hengine s hk]
    exact h
  | some e =>
    rw [stepSeat_open seat hengine s hk]
    intro e' he'
    obtain rfl := Option.some.inj he'
    obtain ⟨hsession, -⟩ := stepEngine_move seat.opening.evaluator e s k
    obtain ⟨_, _, _, hmove, -⟩ := Running.move_session seat.opening.evaluator ⟨e.session, s, []⟩
      (k.move e.session.transcript.text)
    rw [hsession, hmove]
    exact h e hengine

/-- A step at a seat is a trail of calls under the title of its opening. -/
theorem stepSeat_trail {seat : Seat σ α} (h : seat.Proper) (s : σ) (k : Step α) :
    Trail seat.opening.evaluator seat.opening.flavor.title (seat.resizes k) s
      (stepSeat seat s k).2.2 := by
  by_cases hk : k = .reopen
  · subst hk
    rw [stepSeat_reopen, openSeat_store]
    obtain hs | hs := Session.start_store seat.opening.flavor seat.opening.defaultSize s
    · rw [hs]
      exact .refl
    · rw [hs]
      exact Session.loadHistory_trail _ _ _ _
  cases hengine : seat.engine with
  | none =>
    rw [stepSeat_closed seat hengine s hk]
    exact .refl
  | some e =>
    obtain ⟨-, hstore⟩ := stepEngine_move seat.opening.evaluator e s k
    have hmove := Running.move_trail seat.opening.evaluator ⟨e.session, s, []⟩
      (k.move e.session.transcript.text)
    rw [stepSeat_open seat hengine s hk, hstore, Seat.resizes, hengine, ← h e hengine]
    exact hmove

end Desk

end Console
