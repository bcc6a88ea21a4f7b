import Console.Proofs.Command
import Console.Proofs.Session.Reply
import Console.Proofs.Store.Calls
import Console.Session.Desk

/-! Sessions on stores that answer alike go alike. A session calls its store about no title but its
    own. So a relation between stores that every call about this title preserves is preserved by
    every operation of the session, with the same answers, the same notices and the same events. In
    particular a session on a store that does not fail is a session in memory. -/

namespace Console

open Store (Agree)

variable {σ τ α : Type} {R : σ → τ → Prop}

theorem Store.Agree.exists_eq {β : Type} {c : β × σ} {c' : β × τ} (h : Agree R c c') :
    ∃ answer s t, c = (answer, s) ∧ c' = (answer, t) ∧ R s t :=
  ⟨c.1, c.2, c'.2, rfl, by rw [← h.answer], h.store⟩

/-- Two evaluators that a map between stores takes to each other. -/
def Evaluator.Along (f : σ → τ) (e : Evaluator σ) (e' : Evaluator τ) : Prop :=
  ∀ expression s, e' expression (f s) = (e expression s).map id f

/-- Two evaluators that answer the same on related stores, and leave related stores. -/
def Evaluator.Agrees (R : σ → τ → Prop) (e : Evaluator σ) (e' : Evaluator τ) : Prop :=
  ∀ (expression : Text) {s : σ} {t : τ}, R s t → Agree R (e expression s) (e' expression t)

theorem Evaluator.Along.agrees {f : σ → τ} {e : Evaluator σ} {e' : Evaluator τ}
    (h : Along f e e') : Agrees (fun s t => f s = t) e e' := by
  rintro expression s t rfl
  rw [h expression s]
  exact ⟨rfl, rfl⟩

/-- An evaluator that knows nothing but the expression is the same on every store. -/
theorem Evaluator.along_pure (answer : Text → Except Text Text) (f : σ → τ) :
    Evaluator.Along f (.pure answer) (.pure answer) :=
  fun _ _ => rfl

theorem Evaluator.agrees_pure (answer : Text → Except Text Text) (R : σ → τ → Prop) :
    Evaluator.Agrees R (.pure answer) (.pure answer) :=
  fun _ _ _ h => ⟨rfl, h⟩

variable [Store σ] [Store τ] {fits : Nat → Prop}

/-! ### Opening -/

namespace Session

theorem loadHistory_sim {title : Text} (hR : Store.SimAt title fits R) (defaultSize : Nat)
    {s : σ} {t : τ} (h : R s t) :
    Agree R (loadHistory title defaultSize s) (loadHistory title defaultSize t) := by
  obtain ⟨size, s₁, t₁, hs, ht, h₁⟩ := (hR.loadSize h).exists_eq
  unfold loadHistory
  rw [hs, ht]
  cases size with
  | error e => exact ⟨rfl, h₁⟩
  | ok size =>
    obtain ⟨entries, s₂, t₂, hs, ht, h₂⟩ := (hR.loadHistory h₁).exists_eq
    dsimp only
    rw [hs, ht]
    cases entries <;> exact ⟨rfl, h₂⟩

theorem start_sim {flavor : Flavor} (hR : Store.SimAt flavor.title fits R) (defaultSize : Nat)
    {s : σ} {t : τ} (h : R s t) :
    Agree R (start flavor defaultSize s) (start flavor defaultSize t) := by
  obtain ⟨history, s₁, t₁, hs, ht, h₁⟩ := (loadHistory_sim hR defaultSize h).exists_eq
  unfold start
  rw [hs, ht]
  split
  · exact ⟨rfl, h⟩
  · cases history <;> exact ⟨rfl, h₁⟩

end Session

/-! ### Running -/

namespace Running

/-- The same session and events on related stores. -/
structure Sim (R : σ → τ → Prop) (r : Running σ) (r' : Running τ) : Prop where
  session : r'.session = r.session
  store : R r.store r'.store
  events : r'.events = r.events

variable {r : Running σ} {r' : Running τ}

omit [Store σ] [Store τ] in
theorem Sim.mk_eq {session : Session} {events : List Event} {s : σ} {t : τ} (h : R s t) :
    Sim R ⟨session, s, events⟩ ⟨session, t, events⟩ :=
  ⟨rfl, h, rfl⟩

omit [Store σ] [Store τ] in
theorem Sim.exists_eq (h : Sim R r r') : ∃ session s t events,
    r = ⟨session, s, events⟩ ∧ r' = ⟨session, t, events⟩ ∧ R s t := by
  obtain ⟨session, s, events⟩ := r
  obtain ⟨_, t, _⟩ := r'
  obtain ⟨rfl, hstore, rfl⟩ := h
  exact ⟨_, s, t, _, rfl, rfl, hstore⟩

omit [Store σ] [Store τ] in
theorem Sim.record (h : Sim R r r') (event : Event) : Sim R (r.record event) (r'.record event) :=
  ⟨h.session, h.store, congrArg (· ++ [event]) h.events⟩

omit [Store σ] [Store τ] in
theorem Sim.mapTranscript (h : Sim R r r') (f : Transcript → Transcript) :
    Sim R (r.mapTranscript f) (r'.mapTranscript f) :=
  ⟨congrArg (fun s => { s with transcript := f s.transcript }) h.session, h.store, h.events⟩

theorem persist_sim (hR : Store.SimAt r.session.flavor.title fits R) (h : Sim R r r') :
    Sim R r.persist r'.persist := by
  obtain ⟨session, s, t, events, rfl, rfl, hst⟩ := h.exists_eq
  obtain ⟨outcome, s₁, t₁, hs, ht, h₁⟩ :=
    (hR.saveHistory session.history.entries hst).exists_eq
  unfold persist
  dsimp only at hs ht ⊢
  rw [hs, ht]
  cases outcome <;> exact .mk_eq h₁

theorem addCommand_sim (hR : Store.SimAt r.session.flavor.title fits R) (h : Sim R r r')
    (command : Text) : Sim R (r.addCommand command) (r'.addCommand command) := by
  obtain ⟨session, s, t, events, rfl, rfl, hst⟩ := h.exists_eq
  unfold addCommand
  dsimp only
  split
  · exact persist_sim hR (.mk_eq hst)
  · exact persist_sim hR (.mk_eq hst)

theorem setBufferSize_sim (hR : Store.SimAt r.session.flavor.title fits R) (h : Sim R r r')
    {size : Nat} (hsize : fits size) : Sim R (r.setBufferSize size) (r'.setBufferSize size) := by
  obtain ⟨session, s, t, events, rfl, rfl, hst⟩ := h.exists_eq
  obtain ⟨outcome, s₁, t₁, hs, ht, h₁⟩ := (hR.saveSize hsize hst).exists_eq
  unfold setBufferSize
  dsimp only [withHistory]
  rw [hs, ht]
  cases outcome with
  | error e =>
    split
    · exact persist_sim hR (.mk_eq h₁)
    · exact .mk_eq h₁
  | ok =>
    split
    · exact persist_sim hR (.mk_eq h₁)
    · exact .mk_eq h₁

theorem reset_sim (hR : Store.SimAt r.session.flavor.title fits R) (h : Sim R r r') :
    Agree (Sim R) r.reset r'.reset := by
  obtain ⟨session, s, t, events, rfl, rfl, hst⟩ := h.exists_eq
  obtain ⟨outcome, s₁, t₁, hs, ht, h₁⟩ := (hR.saveHistory [] hst).exists_eq
  unfold reset
  dsimp only [mapTranscript, withHistory] at hs ht ⊢
  rw [hs, ht]
  cases outcome with
  | error e => exact ⟨rfl, .mk_eq h₁⟩
  | ok =>
    obtain ⟨history, s₂, t₂, hs, ht, h₂⟩ :=
      (Session.loadHistory_sim hR session.defaultSize h₁).exists_eq
    dsimp only at hs ht ⊢
    rw [hs, ht]
    cases history <;> exact ⟨rfl, .mk_eq h₂⟩

theorem runSpecial_sim (hR : Store.SimAt r.session.flavor.title fits R) (h : Sim R r r')
    {command : Command} (hsize : ∀ size, command = .setBufferSize size → fits size) :
    Agree (Sim R) (r.runSpecial command) (r'.runSpecial command) := by
  obtain ⟨session, s, t, events, rfl, rfl, hst⟩ := h.exists_eq
  unfold runSpecial
  cases command with
  | clear | help | showBufferSize => exact ⟨rfl, .mk_eq hst⟩
  | reset =>
    obtain ⟨outcome, r₁, r₁', hr, hr', h₁⟩ :=
      (reset_sim (r := record ⟨session, s, events⟩ (.special .reset)) hR (h.record _)).exists_eq
    dsimp only
    rw [hr, hr']
    cases outcome with
    | error e => exact ⟨rfl, h₁.record _⟩
    | ok => exact ⟨rfl, h₁⟩
  | setBufferSize size =>
    have hset := setBufferSize_sim
      (r := record ⟨session, s, events⟩ (.special (.setBufferSize size))) hR (h.record _)
      (hsize size rfl)
    exact ⟨rfl, hset.mapTranscript
      (·.pushBlock ("Buffer size set to ".toList ++ Text.ofNat size))⟩

variable {e : Evaluator σ} {e' : Evaluator τ}

omit [Store σ] [Store τ] in
theorem runExpression_sim (he : Evaluator.Agrees R e e') (h : Sim R r r') (expression : Text) :
    Sim R (r.runExpression e expression) (r'.runExpression e' expression) := by
  obtain ⟨session, s, t, events, rfl, rfl, hst⟩ := h.exists_eq
  obtain ⟨answer, s₁, t₁, hs, ht, h₁⟩ := (he expression hst).exists_eq
  unfold runExpression
  dsimp only
  rw [hs, ht]
  cases answer <;> exact .mk_eq h₁

theorem evaluate_sim (hR : Store.SimAt r.session.flavor.title fits R)
    (he : Evaluator.Agrees R e e') (h : Sim R r r') (expression : Text) :
    Agree (Sim R) (r.evaluate e expression) (r'.evaluate e' expression) := by
  have hadded := addCommand_sim hR h expression
  have hR' : Store.SimAt (r.addCommand expression).session.flavor.title fits R := by
    rw [addCommand_session]
    exact hR
  unfold evaluate
  cases hparse : Command.parse? expression with
  | none => exact ⟨rfl, runExpression_sim he hadded expression⟩
  | some command =>
    refine runSpecial_sim hR' hadded fun size hsize => hR.fits_of_lt ?_
    exact Command.size_lt_of_parse? (hparse.trans (congrArg some hsize))

theorem commit_sim (hR : Store.SimAt r.session.flavor.title fits R)
    (he : Evaluator.Agrees R e e') (h : Sim R r r') (full : Text) :
    Agree (Sim R) (r.commit e full) (r'.commit e' full) := by
  unfold commit
  rw [h.session]
  exact evaluate_sim (r := r.mapTranscript (·.replace full)) hR he (h.mapTranscript _) _

end Running

/-! ### Steps -/

/-- The same turn on related stores. -/
structure Turn.Sim {β : Type} (R : σ → τ → Prop) (t : Turn σ α β) (t' : Turn τ α β) : Prop where
  answer : t'.answer = t.answer
  engine : t'.engine = t.engine
  store : R t.store t'.store
  notices : t'.notices = t.notices
  events : t'.events = t.events

namespace Engine

variable {e : Evaluator σ} {e' : Evaluator τ} {engine : Engine α} {s : σ} {t : τ}

omit [Store σ] [Store τ] in
theorem quietly_sim {β : Type} {g : Running σ → β × Running σ} {g' : Running τ → β × Running τ}
    (hg : Agree (Running.Sim R) (g ⟨engine.session, s, []⟩) (g' ⟨engine.session, t, []⟩)) :
    Turn.Sim R (engine.quietly s g) (engine.quietly t g') := by
  obtain ⟨hanswer, hsession, hstore, hevents⟩ := hg
  exact ⟨hanswer, congrArg (Engine.mk · engine.observers) hsession, hstore, rfl, hevents⟩

omit [Store σ] [Store τ] in
theorem loudly_sim {β : Type} {g : Running σ → (Change × β) × Running σ}
    {g' : Running τ → (Change × β) × Running τ}
    (hg : Agree (Running.Sim R) (g ⟨engine.session, s, []⟩) (g' ⟨engine.session, t, []⟩)) :
    Turn.Sim R (engine.loudly s g) (engine.loudly t g') := by
  obtain ⟨hanswer, hengine, hstore, -, hevents⟩ := quietly_sim hg
  refine ⟨congrArg Prod.snd hanswer, hengine, hstore, ?_, hevents⟩
  simp only [loudly, hanswer, hengine]

variable (hR : Store.SimAt engine.session.flavor.title fits R)
include hR

theorem commit_sim (he : Evaluator.Agrees R e e') (h : R s t) (full : Text) :
    Turn.Sim R (engine.commit e s full) (engine.commit e' t full) := by
  obtain ⟨hanswer, hstore⟩ :=
    Running.commit_sim (r := ⟨engine.session, s, []⟩) hR he (.mk_eq h) full
  exact loudly_sim ⟨congrArg (·, ()) hanswer, hstore⟩

theorem evaluate_sim (he : Evaluator.Agrees R e e') (h : R s t) (expression : Text) :
    Turn.Sim R (engine.evaluate e s expression) (engine.evaluate e' t expression) := by
  obtain ⟨hanswer, hstore⟩ :=
    Running.evaluate_sim (r := ⟨engine.session, s, []⟩) hR he (.mk_eq h) expression
  exact loudly_sim ⟨congrArg (·, ()) hanswer, hstore⟩

theorem append_sim (h : R s t) (command : Text) :
    Turn.Sim R (engine.append s command) (engine.append t command) :=
  quietly_sim ⟨rfl, Running.addCommand_sim (r := ⟨engine.session, s, []⟩) hR (.mk_eq h) command⟩

theorem setBufferSize_sim (h : R s t) {size : Nat} (hsize : fits size) :
    Turn.Sim R (engine.setBufferSize s size) (engine.setBufferSize t size) :=
  quietly_sim
    ⟨rfl, Running.setBufferSize_sim (r := ⟨engine.session, s, []⟩) hR (.mk_eq h) hsize⟩

theorem reset_sim (h : R s t) : Turn.Sim R (engine.reset s) (engine.reset t) := by
  obtain ⟨hanswer, hstore⟩ := Running.reset_sim (r := ⟨engine.session, s, []⟩) hR (.mk_eq h)
  exact loudly_sim ⟨congrArg (Change.reset, ·) hanswer, hstore⟩

end Engine

namespace Screen

variable {e : Evaluator σ} {e' : Evaluator τ} {engine : Engine α} {s : σ} {t : τ}

theorem submit_sim (hR : Store.SimAt engine.session.flavor.title fits R)
    (he : Evaluator.Agrees R e e') (h : R s t) (line : Text) :
    Turn.Sim R (submit e engine s line) (submit e' engine t line) := by
  obtain ⟨-, hengine, hstore, hnotices, hevents⟩ :=
    Engine.commit_sim hR he h (engine.session.transcript.text ++ line)
  exact ⟨by simp only [submit, hengine], hengine, hstore, hnotices, hevents⟩

theorem executeOnce_sim (hR : Store.SimAt engine.session.flavor.title fits R)
    (he : Evaluator.Agrees R e e') (h : R s t) (expression : Text) :
    Turn.Sim R (executeOnce e engine s expression) (executeOnce e' engine t expression) := by
  obtain ⟨hanswer, hengine, hstore, hnotices, hevents⟩ := submit_sim hR he h expression
  exact ⟨by simp only [executeOnce, hanswer, hengine], hengine, hstore, hnotices, hevents⟩

end Screen

/-- Whether a step sets no size but one that fits. -/
def Step.Fits (fits : Nat → Prop) : Step α → Prop
  | .setBufferSize size => fits size
  | _ => True

namespace Desk

/-- What a step shows and leaves, the same on related stores. -/
structure StepSim (R : σ → τ → Prop) (x : Report α × Engine α × σ) (x' : Report α × Engine α × τ) :
    Prop where
  report : x'.1 = x.1
  engine : x'.2.1 = x.2.1
  store : R x.2.2 x'.2.2

variable {e : Evaluator σ} {e' : Evaluator τ} {engine : Engine α}

omit [Store σ] [Store τ] in
theorem StepSim.of_turn {β : Type} {t : Turn σ α β} {t' : Turn τ α β} (h : Turn.Sim R t t')
    (answer : β → Answer) :
    StepSim R (⟨answer t.answer, t.notices, t.events⟩, t.engine, t.store)
      (⟨answer t'.answer, t'.notices, t'.events⟩, t'.engine, t'.store) := by
  obtain ⟨hanswer, hengine, hstore, hnotices, hevents⟩ := h
  exact ⟨by rw [hanswer, hnotices, hevents], hengine, hstore⟩

/-- A step at a desk goes alike on stores that answer alike. -/
theorem stepEngine_sim (hR : Store.SimAt engine.session.flavor.title fits R)
    (he : Evaluator.Agrees R e e') {s : σ} {t : τ} (h : R s t) {k : Step α} (hk : k.Fits fits) :
    StepSim R (stepEngine e engine s k) (stepEngine e' engine t k) := by
  cases k with
  | commit full => exact .of_turn (Engine.commit_sim hR he h full) fun _ => .done
  | evaluate expression => exact .of_turn (Engine.evaluate_sim hR he h expression) fun _ => .done
  | append command => exact .of_turn (Engine.append_sim hR h command) fun _ => .done
  | setBufferSize size => exact .of_turn (Engine.setBufferSize_sim hR h hk) fun _ => .done
  | submit line => exact .of_turn (Screen.submit_sim hR he h line) .text
  | executeOnce expression => exact .of_turn (Screen.executeOnce_sim hR he h expression) .text
  | reset =>
    obtain ⟨hanswer, hengine, hstore, hnotices, hevents⟩ := Engine.reset_sim hR h
    exact ⟨by simp only [stepEngine, hanswer, hnotices, hevents], hengine, hstore⟩
  | press arrow => cases arrow <;> exact ⟨rfl, rfl, h⟩
  | _ => exact ⟨rfl, rfl, h⟩

end Desk

end Console
