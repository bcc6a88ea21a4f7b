import Console.Proofs.Session.Outcome
import Console.Proofs.Session.Seats
import Console.Proofs.Session.Transport

/-! A running session is shielded from its store. After it has been opened, and until it is reset or
    opened again, the session calls the store only to save, and goes on in the same way whether a
    save is made or refused. So two runs that have loaded the same history and make the same steps
    answer and show the same, whatever becomes of their stores. The evaluators may have surroundings
    of their own, as long as the stores have no part in them. -/

namespace Console

/-! ### Restarts -/

/-- Whether a move loads the history again. -/
def Move.restarts (t : Transcript) : Move → Bool
  | .reset => true
  | .commit full => Command.parse? (t.extract full) == some .reset
  | .evaluate expression => Command.parse? expression == some .reset
  | .rest | .append _ | .setBufferSize _ | .previous | .next => false

/-- Whether a step resets or reopens the session. -/
def Step.restarts {α : Type} (t : Transcript) (k : Step α) : Bool :=
  k matches .reopen || (k.move t.text).restarts t

/-! ### What no call of a store touches -/

/-- A part of the surroundings that no call of the store touches. -/
structure Store.Beside {σ μ : Type} [Store σ] (part : σ → μ) : Prop where
  loadHistory (s : σ) (title : Text) : part (Store.loadHistory s title).2 = part s
  saveHistory (s : σ) (title : Text) (commands : List Text) :
    part (Store.saveHistory s title commands).2 = part s
  loadSize (s : σ) : part (Store.loadSize s).2 = part s
  saveSize (s : σ) (size : Nat) : part (Store.saveSize s size).2 = part s

section OneRun

variable {σ μ : Type} [Store σ] {part : σ → μ}

theorem Session.loadHistory_beside (h : Store.Beside part) (title : Text) (defaultSize : Nat)
    (s : σ) : part (loadHistory title defaultSize s).2 = part s := by
  obtain hs | hs := loadHistory_store title defaultSize s
  · rw [hs, h.loadSize]
  · rw [hs, h.loadHistory, h.loadSize]

theorem Session.start_beside (h : Store.Beside part) (flavor : Flavor) (defaultSize : Nat) (s : σ) :
    part (start flavor defaultSize s).2 = part s := by
  obtain hs | hs := start_store flavor defaultSize s
  · rw [hs]
  · rw [hs, loadHistory_beside h]

namespace Running

theorem persist_beside (h : Store.Beside part) (r : Running σ) :
    part r.persist.store = part r.store := by
  rw [persist_store, h.saveHistory]

theorem addCommand_beside (h : Store.Beside part) (r : Running σ) (command : Text) :
    part (r.addCommand command).store = part r.store := by
  obtain ⟨r', -, hstore, heq⟩ := addCommand_eq r command
  rw [heq, persist_beside h, hstore]

theorem setBufferSize_beside (h : Store.Beside part) (r : Running σ) (size : Nat) :
    part (r.setBufferSize size).store = part r.store := by
  obtain ⟨r', -, hstore, heq⟩ := setBufferSize_eq r size
  have hsize : part r'.store = part r.store := by rw [hstore, h.saveSize]
  rw [heq]
  split
  · rw [persist_beside h, hsize]
  · exact hsize

theorem runSpecial_beside (h : Store.Beside part) (r : Running σ) {command : Command}
    (hreset : command ≠ .reset) : part (r.runSpecial command).2.store = part r.store := by
  cases command with
  | reset => exact absurd rfl hreset
  | clear | help | showBufferSize => rfl
  | setBufferSize size => exact setBufferSize_beside h (r.record (.special (.setBufferSize size))) size

variable {evaluator : Evaluator σ} {answer : Evaluator μ}

omit [Store σ] in
theorem runExpression_beside (he : Evaluator.Along part evaluator answer) (r : Running σ)
    (expression : Text) : part (r.runExpression evaluator expression).store =
      (answer expression (part r.store)).2 := by
  rw [he expression r.store]
  unfold runExpression
  split <;> rename_i heq <;> rw [heq] <;> rfl

/-- An evaluation moves the rest of the surroundings as its evaluator does, or not at all. -/
theorem evaluate_beside (h : Store.Beside part) (he : Evaluator.Along part evaluator answer)
    (r : Running σ) {expression : Text} (hreset : Command.parse? expression ≠ some .reset) :
    part (r.evaluate evaluator expression).2.store =
      if (Command.parse? expression).isSome then part r.store
      else (answer expression (part r.store)).2 := by
  have hadd := addCommand_beside h r expression
  unfold evaluate
  cases hparse : Command.parse? expression with
  | none =>
    rw [← hadd]
    exact runExpression_beside he (r.addCommand expression) expression
  | some command =>
    exact (runSpecial_beside h _ fun heq => hreset (hparse.trans (congrArg some heq))).trans hadd

end Running

end OneRun

/-! ### Two runs -/

section TwoRuns

variable {σ τ μ α : Type} [Store σ] [Store τ] {part : σ → μ} {part' : τ → μ}

/-- Two outcomes that differ at most in the stores and in the log. -/
structure Running.Alike {β : Type} (part : σ → μ) (part' : τ → μ) (a : β × Running σ)
    (a' : β × Running τ) : Prop where
  answer : a.1 = a'.1
  session : a.2.session = a'.2.session
  part : part a.2.store = part' a'.2.store

/-- Two turns that differ at most in the stores and in the log. -/
structure Turn.Alike {β : Type} (part : σ → μ) (part' : τ → μ) (t : Turn σ α β) (t' : Turn τ α β) :
    Prop where
  answer : t.answer = t'.answer
  engine : t.engine = t'.engine
  notices : t.notices = t'.notices
  part : part t.store = part' t'.store

omit [Store σ] [Store τ] in
theorem Engine.quietly_alike {β : Type} (e : Engine α) {s : σ} {t : τ}
    {g : Running σ → β × Running σ} {g' : Running τ → β × Running τ}
    (h : Running.Alike part part' (g ⟨e.session, s, []⟩) (g' ⟨e.session, t, []⟩)) :
    Turn.Alike part part' (e.quietly s g) (e.quietly t g') := by
  refine ⟨h.answer, ?_, rfl, h.part⟩
  simp only [quietly, h.session]

omit [Store σ] [Store τ] in
theorem Engine.loudly_alike {β : Type} (e : Engine α) {s : σ} {t : τ}
    {g : Running σ → (Change × β) × Running σ} {g' : Running τ → (Change × β) × Running τ}
    (h : Running.Alike part part' (g ⟨e.session, s, []⟩) (g' ⟨e.session, t, []⟩)) :
    Turn.Alike part part' (e.loudly s g) (e.loudly t g') := by
  obtain ⟨hanswer, hengine, -, hpart⟩ := e.quietly_alike h
  refine ⟨congrArg Prod.snd hanswer, hengine, ?_, hpart⟩
  simp only [loudly, hanswer, hengine]

variable {e : Evaluator σ} {e' : Evaluator τ} {answer : Evaluator μ}

theorem Running.addCommand_alike (h : Store.Beside part) (h' : Store.Beside part')
    {r : Running σ} {r' : Running τ} (hsession : r.session = r'.session)
    (hpart : part r.store = part' r'.store) (command : Text) :
    Alike part part' ((), r.addCommand command) ((), r'.addCommand command) := by
  refine ⟨rfl, ?_, ?_⟩
  · simp only [addCommand_session, hsession]
  · simp only [addCommand_beside h, addCommand_beside h', hpart]

theorem Running.setBufferSize_alike (h : Store.Beside part) (h' : Store.Beside part')
    {r : Running σ} {r' : Running τ} (hsession : r.session = r'.session)
    (hpart : part r.store = part' r'.store) (size : Nat) :
    Alike part part' ((), r.setBufferSize size) ((), r'.setBufferSize size) := by
  refine ⟨rfl, ?_, ?_⟩
  · simp only [setBufferSize_session, hsession]
  · simp only [setBufferSize_beside h, setBufferSize_beside h', hpart]

/-- An evaluation that is no reset goes alike on any two stores. -/
theorem Running.evaluate_alike (h : Store.Beside part) (h' : Store.Beside part')
    (he : Evaluator.Along part e answer) (he' : Evaluator.Along part' e' answer)
    (r : Running σ) (r' : Running τ) (hsession : r.session = r'.session)
    (hpart : part r.store = part' r'.store) {expression : Text}
    (hreset : Command.parse? expression ≠ some .reset) :
    Alike part part' (r.evaluate e expression) (r'.evaluate e' expression) := by
  have hanswer : (e expression (r.addCommand expression).store).1 =
      (e' expression (r'.addCommand expression).store).1 := by
    have hleft := he expression (r.addCommand expression).store
    have hright := he' expression (r'.addCommand expression).store
    rw [addCommand_beside h, hpart] at hleft
    rw [addCommand_beside h'] at hright
    exact congrArg Prod.fst (hleft.symm.trans hright)
  refine ⟨?_, ?_, ?_⟩
  · rw [evaluate_change, evaluate_change]
  · rw [evaluate_outcome e r hreset, evaluate_outcome e' r' hreset, hsession, hanswer]
  · rw [evaluate_beside h he r hreset, evaluate_beside h' he' r' hreset, hpart]

theorem Engine.commit_alike (h : Store.Beside part) (h' : Store.Beside part')
    (he : Evaluator.Along part e answer) (he' : Evaluator.Along part' e' answer) {s : σ} {t : τ}
    (hpart : part s = part' t) (engine : Engine α) {full : Text}
    (hreset : Command.parse? (engine.session.transcript.extract full) ≠ some .reset) :
    Turn.Alike part part' (engine.commit e s full) (engine.commit e' t full) := by
  refine engine.loudly_alike ?_
  obtain ⟨hanswer, hsession, hpart⟩ := Running.evaluate_alike h h' he he'
    (Running.mapTranscript ⟨engine.session, s, []⟩ (·.replace full))
    (Running.mapTranscript ⟨engine.session, t, []⟩ (·.replace full)) rfl hpart hreset
  exact ⟨congrArg (·, ()) hanswer, hsession, hpart⟩

theorem Engine.evaluate_alike (h : Store.Beside part) (h' : Store.Beside part')
    (he : Evaluator.Along part e answer) (he' : Evaluator.Along part' e' answer) {s : σ} {t : τ}
    (hpart : part s = part' t) (engine : Engine α) {expression : Text}
    (hreset : Command.parse? expression ≠ some .reset) :
    Turn.Alike part part' (engine.evaluate e s expression) (engine.evaluate e' t expression) := by
  refine engine.loudly_alike ?_
  obtain ⟨hanswer, hsession, hpart⟩ := Running.evaluate_alike h h' he he'
    ⟨engine.session, s, []⟩ ⟨engine.session, t, []⟩ rfl hpart hreset
  exact ⟨congrArg (·, ()) hanswer, hsession, hpart⟩

/-! ### Steps -/

/-- What two runs show of a step: the answers, what the observers are told, and the sessions. -/
structure Desk.Alike (part : σ → μ) (part' : τ → μ) (x : Report α × Engine α × σ)
    (x' : Report α × Engine α × τ) : Prop where
  answer : x.1.answer = x'.1.answer
  notices : x.1.notices = x'.1.notices
  engine : x.2.1 = x'.2.1
  part : part x.2.2 = part' x'.2.2

omit [Store σ] [Store τ] in
theorem Turn.Alike.report {β : Type} {t : Turn σ α β} {t' : Turn τ α β}
    (h : Turn.Alike part part' t t') (answer : β → Answer) :
    Desk.Alike part part' (⟨answer t.answer, t.notices, t.events⟩, t.engine, t.store)
      (⟨answer t'.answer, t'.notices, t'.events⟩, t'.engine, t'.store) :=
  ⟨congrArg answer h.answer, h.notices, h.engine, h.part⟩

/-- A step that neither resets nor reopens the session goes alike on any two stores. -/
theorem Desk.stepEngine_alike (h : Store.Beside part) (h' : Store.Beside part')
    (he : Evaluator.Along part e answer) (he' : Evaluator.Along part' e' answer) {s : σ} {t : τ}
    (hpart : part s = part' t) (engine : Engine α) {k : Step α}
    (hk : k.restarts engine.session.transcript = false) :
    Alike part part' (stepEngine e engine s k) (stepEngine e' engine t k) := by
  have hcommit (full : Text)
      (hfull : (Move.commit full).restarts engine.session.transcript = false) :
      Turn.Alike part part' (engine.commit e s full) (engine.commit e' t full) :=
    engine.commit_alike h h' he he' hpart (beq_eq_false_iff_ne.1 hfull)
  have hsubmit (line : Text)
      (hline : (Move.commit (engine.session.transcript.text ++ line)).restarts
        engine.session.transcript = false) :
      Turn.Alike part part' (Screen.submit e engine s line) (Screen.submit e' engine t line) := by
    obtain ⟨-, hengine, hnotices, hstore⟩ := hcommit _ hline
    exact ⟨by simp only [Screen.submit, hengine], hengine, hnotices, hstore⟩
  cases k with
  | reopen => exact Bool.noConfusion (hk : true = false)
  | reset => exact Bool.noConfusion (hk : true = false)
  | commit full => exact (hcommit full hk).report fun _ => .done
  | evaluate expression =>
    have hreset : Command.parse? expression ≠ some .reset := beq_eq_false_iff_ne.1 hk
    exact (engine.evaluate_alike h h' he he' hpart hreset).report fun _ => .done
  | submit line => exact (hsubmit line hk).report .text
  | executeOnce expression =>
    obtain ⟨hanswer, hengine, hnotices, hstore⟩ := hsubmit expression hk
    have hexecute : Turn.Alike part part' (Screen.executeOnce e engine s expression)
        (Screen.executeOnce e' engine t expression) :=
      ⟨by simp only [Screen.executeOnce, hanswer, hengine], hengine, hnotices, hstore⟩
    exact hexecute.report .text
  | append command =>
    exact (engine.quietly_alike (Running.addCommand_alike h h' rfl hpart command)).report
      fun _ => .done
  | setBufferSize size =>
    exact (engine.quietly_alike (Running.setBufferSize_alike h h' rfl hpart size)).report
      fun _ => .done
  | press arrow => cases arrow <;> exact ⟨rfl, rfl, rfl, hpart⟩
  | _ => exact ⟨rfl, rfl, rfl, hpart⟩

end TwoRuns

/-! ### Runs -/

section Runs

variable {σ τ μ α : Type} [Store σ] [Store τ]

/-- The steps of one session, each with its answer, what the observers are told, and the session
    after it. Before each step others may change the store. -/
def Engine.trace (evaluator : Evaluator σ) (others : Nat → σ → σ) (e : Engine α) (s : σ) :
    List (Step α) → List (Answer × List (Notice α) × Session)
  | [] => []
  | k :: steps =>
    let (report, e, s) := Desk.stepEngine evaluator e (others 0 s) k
    (report.answer, report.notices, e.session) ::
      e.trace evaluator (fun n => others (n + 1)) s steps

/-- Whether one of the steps resets or reopens the session. -/
def Engine.restarts (evaluator : Evaluator σ) (others : Nat → σ → σ) (e : Engine α) (s : σ) :
    List (Step α) → Bool
  | [] => false
  | k :: steps =>
    let (_, e', s) := Desk.stepEngine evaluator e (others 0 s) k
    k.restarts e.session.transcript || e'.restarts evaluator (fun n => others (n + 1)) s steps

variable {part : σ → μ} {part' : τ → μ} {e : Evaluator σ} {e' : Evaluator τ} {answer : Evaluator μ}

theorem Engine.trace_alike (h : Store.Beside part) (h' : Store.Beside part')
    (he : Evaluator.Along part e answer) (he' : Evaluator.Along part' e' answer) :
    ∀ (steps : List (Step α)) {others : Nat → σ → σ} {others' : Nat → τ → τ},
      (∀ n s, part (others n s) = part s) → (∀ n t, part' (others' n t) = part' t) →
      ∀ {engine : Engine α} {s : σ} {t : τ}, part s = part' t →
      engine.restarts e others s steps = false →
      engine.trace e others s steps = engine.trace e' others' t steps
  | [], _, _, _, _, _, _, _, _, _ => rfl
  | k :: steps, others, others', hothers, hothers', engine, s, t, hpart, hsteps => by
    rw [restarts, Bool.or_eq_false_iff] at hsteps
    obtain ⟨hk, hrest⟩ := hsteps
    have hfound : part (others 0 s) = part' (others' 0 t) := by rw [hothers, hothers', hpart]
    obtain ⟨hanswer, hnotices, hengine, hleft⟩ :=
      Desk.stepEngine_alike h h' he he' hfound engine hk
    have hnext := trace_alike h h' he he' steps (fun n => hothers (n + 1))
      (fun n => hothers' (n + 1)) hleft hrest
    rw [trace, trace]
    dsimp only
    rw [hnext, hanswer, hnotices, hengine]

/-- Two runs of a session that have loaded the same history with the same size and make the same
    steps, none of which resets or reopens the session. Whichever saves are refused in each of them,
    and whatever others make of the two stores, the runs begin in the same state, every step answers
    and notifies the same in both, and both go through the same states. The evaluators answer by
    surroundings that the stores have no part in. -/
theorem Session.trace_eq_of_loaded (h : Store.Beside part) (h' : Store.Beside part')
    (he : Evaluator.Along part e answer) (he' : Evaluator.Along part' e' answer) {flavor : Flavor}
    {defaultSize : Nat} {s₀ s : σ} {t₀ t : τ} {session session' : Session}
    (hopened : start flavor defaultSize s₀ = (.ok session, s))
    (hopened' : start flavor defaultSize t₀ = (.ok session', t))
    (hloaded : session.history = session'.history) (hpart : part s₀ = part' t₀)
    (others : Nat → σ → σ) (others' : Nat → τ → τ) (hothers : ∀ n s, part (others n s) = part s)
    (hothers' : ∀ n t, part' (others' n t) = part' t) (steps : List (Step α))
    (hsteps : (Engine.ofSession session).restarts e others s steps = false) :
    session = session' ∧ (Engine.ofSession session).trace e others s steps =
      (Engine.ofSession session').trace e' others' t steps := by
  have hleft := start_beside h flavor defaultSize s₀
  have hleft' := start_beside h' flavor defaultSize t₀
  rw [hopened] at hleft
  rw [hopened'] at hleft'
  have hsession : session = session' := by
    obtain ⟨-, history, -, rfl⟩ := start_ok hopened
    obtain ⟨-, history', -, rfl⟩ := start_ok hopened'
    obtain rfl : history = history' := hloaded
    rfl
  subst hsession
  exact ⟨rfl, Engine.trace_alike h h' he he' steps hothers hothers'
    ((hleft.trans hpart).trans hleft'.symm) hsteps⟩

end Runs

/-- The one run has its saves refused by turns, the other has them made while others empty its
    store, and commands are evicted in both. -/
theorem Session.trace_eq_of_loaded_under_refusals :
    ∃ (flavor : Flavor) (session : Session) (s₀ s : Scheduled Stored) (t₀ : Stored)
      (others' : Nat → Stored → Stored) (steps : List (Step Unit)),
      start flavor 2 s₀ = (.ok session, s) ∧ start flavor 2 t₀ = (.ok session, t₀) ∧
      s.refusals = [true, false, true, true] ∧ (∀ n t, others' n t = .empty) ∧
      (let trace := (Engine.ofSession session).trace (.pure .ok) (fun _ => id) s steps
      trace = (Engine.ofSession session).trace (.pure .ok) others' t₀ steps ∧
      trace.map (·.2.2.history) =
        [⟨[['x'], ['1']], 2, 2⟩, ⟨["buffer 1".toList], 1, 1⟩, ⟨["buffer 1".toList], 1, 0⟩,
          ⟨["clear".toList], 1, 1⟩] ∧
      trace.map (·.2.2.lastOutput) = [some ['1'], some ['1'], some ['1'], some ['1']]) := by
  let flavor : Flavor := ⟨['T'], ['>'], []⟩
  let stored : Stored := ⟨Buckets.empty.insert ['T'] [['x']], none⟩
  have hopened : start flavor 2
    (⟨stored, [false, false, true, false, true, true]⟩ : Scheduled Stored) = (.ok _, _) := rfl
  have hopened' : start flavor 2 stored = (.ok _, stored) := rfl
  have hbeside : Store.Beside fun _ : Scheduled Stored => () :=
    ⟨fun _ _ => rfl, fun _ _ _ => rfl, fun _ => rfl, fun _ _ => rfl⟩
  have hbeside' : Store.Beside fun _ : Stored => () :=
    ⟨fun _ _ => rfl, fun _ _ _ => rfl, fun _ => rfl, fun _ _ => rfl⟩
  obtain ⟨-, htrace⟩ := trace_eq_of_loaded (α := Unit) hbeside hbeside'
    (Evaluator.along_pure .ok _) (Evaluator.along_pure .ok _) hopened hopened' rfl rfl
    (fun _ => id) (fun _ _ => .empty) (fun _ _ => rfl) (fun _ _ => rfl)
    [.submit ['1'], .evaluate "buffer 1".toList, .previous, .submit "clear".toList]
    (by decide +kernel +zetaReduce)
  refine ⟨flavor, _, _, _, stored, _, _, hopened, hopened', rfl, fun _ _ => rfl, htrace, ?_, ?_⟩
  · decide +kernel +zetaReduce
  · decide +kernel +zetaReduce

end Console
