import Console.Proofs.Session.Outcome
import Console.Session.Desk
import Console.Word

/-! Who is told of what. The listeners of an engine are those that subscribed and whose number has
    not been unsubscribed since, in the order of their subscription, and no number is given twice.
    A commit, an evaluation and a reset tell each of them once, of one change, when the session is
    already in its new state. No other step tells anybody anything. -/

namespace Console

variable {σ α : Type} [Store σ]

/-! ### One step -/

/-- Whether a step unsubscribes a number. -/
def Step.unsubscribes (id : Nat) : Step α → Bool
  | .unsubscribe other => other == id
  | _ => false

/-- Whether a step subscribes a listener. -/
def Step.subscribes : Step α → Bool
  | .subscribe _ => true
  | _ => false

/-- The change of which a step tells the listeners, if it tells them anything. -/
def Step.change? (t : Transcript) : Step α → Option Change
  | .commit full => some (.of (t.extract full))
  | .evaluate expression => some (.of expression)
  | .submit line | .executeOnce line => some (.of (t.extract (t.text ++ line)))
  | .reset => some .reset
  | _ => none

namespace Observers

theorem unsubscribe_found (o : Observers α) (id : Nat) :
    (o.unsubscribe id).1 = decide (id ∈ o.listeners.map Prod.fst) := by
  refine decide_eq_decide.2 ?_
  rw [List.length_filter_lt_length_iff_exists, List.mem_map]
  simp only [bne_iff_ne, ne_eq, Decidable.not_not]

end Observers

omit [Store σ] in
theorem Engine.notices_eq (e : Engine α) (change : Change) :
    e.notices change = e.observers.listeners.map fun l =>
      ⟨l.2, change, e.session.transcript.offset⟩ :=
  List.map_map

namespace Desk

variable (evaluator : Evaluator σ) (e : Engine α) (s : σ)

/-- A step changes the listeners only if it subscribes or unsubscribes. -/
theorem stepEngine_observers (k : Step α) : (stepEngine evaluator e s k).2.1.observers =
    match k with
    | .subscribe observer => (e.observers.subscribe observer).2
    | .unsubscribe id => (e.observers.unsubscribe id).2
    | _ => e.observers := by
  cases k with
  | press arrow => cases arrow <;> rfl
  | _ => rfl

/-- A step tells the listeners of its change when it has been made, or it tells them nothing. -/
theorem stepEngine_notices (k : Step α) : (stepEngine evaluator e s k).1.notices =
    match k.change? e.session.transcript with
    | none => []
    | some change => e.observers.listeners.map fun l =>
      ⟨l.2, change, (stepEngine evaluator e s k).2.1.session.transcript.offset⟩ := by
  have hcommit (full : Text) : (e.commit evaluator s full).notices =
      (e.commit evaluator s full).engine.notices (.of (e.session.transcript.extract full)) :=
    congrArg (e.commit evaluator s full).engine.notices (Running.evaluate_change evaluator
      (Running.mapTranscript ⟨e.session, s, []⟩ (·.replace full)) _)
  have hevaluate (expression : Text) : (e.evaluate evaluator s expression).notices =
      (e.evaluate evaluator s expression).engine.notices (.of expression) :=
    congrArg (e.evaluate evaluator s expression).engine.notices
      (Running.evaluate_change evaluator ⟨e.session, s, []⟩ expression)
  cases k with
  | commit full => exact (hcommit full).trans (Engine.notices_eq _ _)
  | submit line => exact (hcommit (e.session.transcript.text ++ line)).trans (Engine.notices_eq _ _)
  | executeOnce line =>
    exact (hcommit (e.session.transcript.text ++ line)).trans (Engine.notices_eq _ _)
  | evaluate expression => exact (hevaluate expression).trans (Engine.notices_eq _ _)
  | reset => exact Engine.notices_eq (e.reset s).engine .reset
  | press arrow => cases arrow <;> rfl
  | _ => rfl

end Desk

/-! ### Histories -/

/-- The listener that a step adds, with the number that it is given. -/
def Step.added? : Step α × Answer → Option (Nat × α)
  | (.subscribe observer, .id n) => some (n, observer)
  | _ => none

theorem Step.added?_eq_some {step : Step α × Answer} {id : Nat} {observer : α} :
    added? step = some (id, observer) ↔ step = (.subscribe observer, .id id) := by
  constructor
  · intro h
    unfold added? at h
    split at h
    · obtain ⟨rfl, rfl⟩ := Prod.mk.inj (Option.some.inj h)
      rfl
    · exact nomatch h
  · rintro rfl
    rfl

namespace Observers

/-- The numbers that subscriptions were given, in order. -/
def issued (history : List (Step α × Answer)) : List Nat :=
  (history.filterMap Step.added?).map Prod.fst

/-- The listeners that a history leaves, with their numbers: those that subscribed and whose number
    has not been unsubscribed since. -/
def live : List (Step α × Answer) → List (Nat × α)
  | [] => []
  | step :: later =>
    match Step.added? step with
    | none => live later
    | some l => if later.any (·.1.unsubscribes l.1) then live later else l :: live later

theorem mem_live_cons {l : Nat × α} {step : Step α × Answer} {later : List (Step α × Answer)} :
    l ∈ live (step :: later) ↔
      Step.added? step = some l ∧ later.any (·.1.unsubscribes l.1) = false ∨ l ∈ live later := by
  rw [live]
  cases Step.added? step with
  | none => simp
  | some added =>
    dsimp only
    cases hany : later.any (·.1.unsubscribes added.1) with
    | true =>
      rw [if_pos rfl]
      refine ⟨.inr, fun h => h.resolve_left ?_⟩
      rintro ⟨hadded, hkept⟩
      rw [Option.some.inj hadded, hkept] at hany
      exact nomatch hany
    | false =>
      rw [if_neg Bool.false_ne_true, List.mem_cons]
      refine or_congr_left ⟨?_, fun h => (Option.some.inj h.1).symm⟩
      rintro rfl
      exact ⟨rfl, hany⟩

/-- A listener is live if it has subscribed and its number has not been unsubscribed since. -/
theorem mem_live {id : Nat} {observer : α} : ∀ {history : List (Step α × Answer)},
    (id, observer) ∈ live history ↔
      ∃ before later, history = before ++ (.subscribe observer, .id id) :: later ∧
        later.any (·.1.unsubscribes id) = false
  | [] => by simp [live]
  | step :: later => by
    have hlater : (id, observer) ∈ live later ↔ _ := mem_live
    rw [mem_live_cons, hlater, Step.added?_eq_some]
    constructor
    · rintro (⟨rfl, hkept⟩ | ⟨before, later, rfl, hkept⟩)
      · exact ⟨[], later, rfl, hkept⟩
      · exact ⟨step :: before, later, rfl, hkept⟩
    · rintro ⟨_ | ⟨_, before⟩, later, heq, hkept⟩
      · obtain ⟨rfl, rfl⟩ := List.cons.inj heq
        exact .inl ⟨rfl, hkept⟩
      · obtain ⟨rfl, rfl⟩ := List.cons.inj heq
        exact .inr ⟨before, later, rfl, hkept⟩

/-- An unsubscription is told whether the number is live, and the other listeners stay. -/
theorem unsubscribe_of_live {o : Observers α} {history : List (Step α × Answer)}
    (h : o.listeners = live history) (id : Nat) :
    ((o.unsubscribe id).1 = true ↔ ∃ observer before later,
      history = before ++ (.subscribe observer, .id id) :: later ∧
        later.any (·.1.unsubscribes id) = false) ∧
      (o.unsubscribe id).2.listeners = (live history).filter fun l => l.1 != id := by
  refine ⟨?_, by rw [← h]; rfl⟩
  rw [unsubscribe_found, h, decide_eq_true_iff, List.mem_map]
  constructor
  · rintro ⟨⟨_, observer⟩, hmem, rfl⟩
    exact ⟨observer, mem_live.1 hmem⟩
  · rintro ⟨observer, hsplit⟩
    exact ⟨(id, observer), mem_live.2 hsplit, rfl⟩

/-- The live listeners have their numbers in the order in which these were given. -/
theorem live_sublist : ∀ history : List (Step α × Answer),
    ((live history).map Prod.fst).Sublist (issued history)
  | [] => .slnil
  | step :: later => by
    have hlater := live_sublist later
    unfold live
    rw [issued, List.filterMap_cons]
    cases Step.added? step with
    | none => exact hlater
    | some l =>
      dsimp only
      split
      · exact hlater.cons l.1
      · exact hlater.cons_cons l.1

/-- The listeners after a history: those before it that it does not unsubscribe, and those that it
    leaves itself. -/
def remaining (listeners : List (Nat × α)) (history : List (Step α × Answer)) : List (Nat × α) :=
  listeners.filter (fun l => !history.any (·.1.unsubscribes l.1)) ++ live history

theorem remaining_nil (listeners : List (Nat × α)) : remaining listeners [] = listeners := by
  simp [remaining, live]

theorem remaining_subscribe (listeners : List (Nat × α)) (n : Nat) (observer : α)
    (later : List (Step α × Answer)) :
    remaining (listeners ++ [(n, observer)]) later =
      remaining listeners ((.subscribe observer, .id n) :: later) := by
  have hhead (id : Nat) : (Step.subscribe observer).unsubscribes id = false := rfl
  simp only [remaining, live, List.filter_append, List.append_assoc, List.any_cons, hhead,
    Bool.false_or]
  cases hany : later.any (·.1.unsubscribes n) with
  | true => simp [hany, Step.added?]
  | false => simp [hany, Step.added?]

theorem remaining_unsubscribe (listeners : List (Nat × α)) (id : Nat) (answer : Answer)
    (later : List (Step α × Answer)) :
    remaining (listeners.filter fun l => l.1 != id) later =
      remaining listeners ((.unsubscribe id, answer) :: later) := by
  have hhead (n : Nat) : (n != id) = !(Step.unsubscribe id : Step α).unsubscribes n :=
    congrArg not BEq.comm
  simp only [remaining, List.filter_filter, List.any_cons, Bool.not_or, hhead, Bool.and_comm]
  rfl

end Observers

/-! ### Runs -/

open Observers (issued live remaining)

namespace Engine

/-- Makes steps one after the other, and keeps each with its answer. -/
def run (evaluator : Evaluator σ) (e : Engine α) (s : σ) :
    List (Step α) → List (Step α × Answer) × Engine α × σ
  | [] => ([], e, s)
  | k :: steps =>
    let (report, e, s) := Desk.stepEngine evaluator e s k
    let (later, last) := e.run evaluator s steps
    ((k, report.answer) :: later, last)

variable (evaluator : Evaluator σ)

/-- The numbers given in a run go on from the next number, one by one. -/
theorem run_issued : ∀ (steps : List (Step α)) (e : Engine α) (s : σ),
    issued (e.run evaluator s steps).1 =
        List.range' e.observers.nextId (steps.countP Step.subscribes) ∧
      (e.run evaluator s steps).2.1.observers.nextId =
        e.observers.nextId + steps.countP Step.subscribes
  | [], _, _ => ⟨rfl, rfl⟩
  | k :: steps, e, s => by
    obtain ⟨hissued, hnext⟩ := run_issued steps (Desk.stepEngine evaluator e s k).2.1
      (Desk.stepEngine evaluator e s k).2.2
    rw [Desk.stepEngine_observers] at hissued hnext
    rw [List.countP_cons]
    cases k with
    | subscribe observer =>
      rw [Step.subscribes, if_pos rfl, List.range'_succ]
      refine ⟨congrArg (e.observers.nextId :: ·) hissued, hnext.trans ?_⟩
      exact Nat.succ_add_eq_add_succ e.observers.nextId _
    | _ => exact ⟨hissued, hnext⟩

/-- The listeners after a run are those that its history leaves. -/
theorem run_listeners : ∀ (steps : List (Step α)) (e : Engine α) (s : σ),
    (e.run evaluator s steps).2.1.observers.listeners =
      remaining e.observers.listeners (e.run evaluator s steps).1
  | [], e, _ => (Observers.remaining_nil e.observers.listeners).symm
  | k :: steps, e, s => by
    have hlater := run_listeners steps (Desk.stepEngine evaluator e s k).2.1
      (Desk.stepEngine evaluator e s k).2.2
    rw [Desk.stepEngine_observers] at hlater
    cases k with
    | subscribe observer => exact hlater.trans (Observers.remaining_subscribe _ _ observer _)
    | unsubscribe id => exact hlater.trans (Observers.remaining_unsubscribe _ id _ _)
    | _ => exact hlater

/-- The next step of an engine after any steps. If it subscribes, it is given a number that was
    never given before, and that 64 bits hold if there are fewer than 2^64 subscriptions. If it
    unsubscribes a number, it is told whether the number was given and has not been unsubscribed
    since, and the other live listeners stay. If it is a commit, an evaluation or a reset, each
    live listener is told once, in the order of their subscription, of the change that the
    expression makes, and reads back the offset that the session has then. Else nobody is told
    anything. -/
theorem listeners_told_once (session : Session) (store : σ) (past : List (Step α)) (k : Step α) :
    let played := (ofSession session).run evaluator store past
    let history := played.1
    let next := Desk.stepEngine evaluator played.2.1 played.2.2 k
    (issued history).Pairwise (· < ·) ∧ ((live history).map Prod.fst).Sublist (issued history) ∧
    (∀ observer, k = .subscribe observer → ∃ id, next.1.answer = .id id ∧ id ∉ issued history ∧
      ((past ++ [k]).countP Step.subscribes < Word.limit → id < Word.limit)) ∧
    (∀ id, k = .unsubscribe id → ∃ found, next.1.answer = .flag found ∧
      (found = true ↔ ∃ observer before later,
        history = before ++ (.subscribe observer, .id id) :: later ∧
          later.any (·.1.unsubscribes id) = false) ∧
      next.2.1.observers.listeners = (live history).filter fun l => l.1 != id) ∧
    next.1.notices =
      match k.change? played.2.1.session.transcript with
      | none => []
      | some change => (live history).map fun l =>
        ⟨l.2, change, next.2.1.session.transcript.offset⟩ := by
  intro played history next
  obtain ⟨hissued, hnextId⟩ := run_issued evaluator past (ofSession session) store
  have hlisteners : played.2.1.observers.listeners = live history :=
    run_listeners evaluator past (ofSession session) store
  refine ⟨?_, Observers.live_sublist history, ?_, ?_, ?_⟩
  · rw [hissued]
    exact List.pairwise_lt_range'
  · rintro observer rfl
    refine ⟨played.2.1.observers.nextId, rfl, ?_, fun hfew => ?_⟩
    · rw [hissued, hnextId, List.mem_range'_1]
      exact fun h => Nat.lt_irrefl _ h.2
    · rw [List.countP_append, Nat.add_comm] at hfew
      rw [hnextId]
      exact hfew
  · rintro id rfl
    exact ⟨_, rfl, Observers.unsubscribe_of_live hlisteners id⟩
  · rw [← hlisteners]
    exact Desk.stepEngine_notices evaluator played.2.1 played.2.2 k

/-- Listeners come and go, and a number is unsubscribed twice, on a store that refuses every save.
    Then a reset fails, and the two that are left are told of it. -/
theorem listeners_told_once_of_failed_reset :
    ∃ (session : Session) (store : Switched Stored) (past : List (Step Char)),
      store.savesFail = true ∧
      past = [.subscribe 'a', .subscribe 'b', .unsubscribe 1, .evaluate ['x'], .subscribe 'c',
        .append ['y'], .unsubscribe 1] ∧
      (let played := (ofSession session).run (.pure .ok) store past
      let next := Desk.stepEngine (.pure .ok) played.2.1 played.2.2
      (∃ id, (next (.subscribe 'd')).1.answer = .id id ∧ id ∉ [1, 2, 3] ∧ id < Word.limit) ∧
      (∃ found, (next (.unsubscribe 2)).1.answer = .flag found ∧ found = true) ∧
      (∃ e, (next .reset).1.answer = .failed e) ∧
      (next .reset).1.notices = [⟨'b', .reset, 40⟩, ⟨'c', .reset, 40⟩] ∧
      (next .previous).1.notices = []) := by
  let session : Session :=
    ⟨⟨['T'], ['>'], []⟩, .reset ⟨[], ['T'], ['>'], 0⟩, .empty 2, none, 2⟩
  let past : List (Step Char) := [.subscribe 'a', .subscribe 'b', .unsubscribe 1, .evaluate ['x'],
    .subscribe 'c', .append ['y'], .unsubscribe 1]
  let store : Switched Stored := ⟨.empty, false, true⟩
  have htold := listeners_told_once (.pure .ok) session store past
  obtain ⟨-, -, hsubscribe, -⟩ := htold (.subscribe 'd')
  obtain ⟨-, -, -, hunsubscribe, -⟩ := htold (.unsubscribe 2)
  obtain ⟨-, -, -, -, hreset⟩ := htold .reset
  obtain ⟨-, -, -, -, hprevious⟩ := htold .previous
  refine ⟨session, store, past, rfl, rfl, ?_, ?_, ⟨_, rfl⟩, hreset, hprevious⟩
  · obtain ⟨id, hanswer, hnew, hfits⟩ := hsubscribe 'd' rfl
    exact ⟨id, hanswer, hnew, hfits (by decide)⟩
  · obtain ⟨found, hanswer, hfound, -⟩ := hunsubscribe 2 rfl
    exact ⟨found, hanswer, hfound.2 ⟨'b', [(.subscribe 'a', .id 1)], _, rfl, rfl⟩⟩

end Engine

end Console
