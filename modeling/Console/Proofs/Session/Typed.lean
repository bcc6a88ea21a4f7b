import Console.Proofs.Session.Line
import Console.Proofs.Transcript.Typed

/-! What is typed is what is run. No operation of a session reads the transcript, so evaluating an
    expression does the same to all but the transcript whatever the transcript shows. A line that is
    submitted behind a sealed prompt is its own expression, so submitting it is evaluating it. -/

namespace Console

variable {σ α : Type} [Store σ]

/-! ### The transcript is not read -/

namespace Running

/-- The same session with another transcript. -/
def withTranscript (r : Running σ) (t : Transcript) : Running σ := r.mapTranscript fun _ => t

theorem persist_withTranscript (r : Running σ) (t : Transcript) :
    (r.withTranscript t).persist = r.persist.withTranscript t := by
  unfold persist
  simp only [withTranscript, mapTranscript]
  split <;> rfl

theorem addCommand_withTranscript (r : Running σ) (t : Transcript) (command : Text) :
    (r.withTranscript t).addCommand command = (r.addCommand command).withTranscript t := by
  have hhistory : (r.withTranscript t).session.history = r.session.history := rfl
  unfold addCommand
  simp only [hhistory]
  split
  all_goals
    rw [← persist_withTranscript]
    rfl

theorem setBufferSize_withTranscript (r : Running σ) (t : Transcript) (size : Nat) :
    (r.withTranscript t).setBufferSize size = (r.setBufferSize size).withTranscript t := by
  have hhistory : (r.withTranscript t).session.history = r.session.history := rfl
  have hstore : ((r.withTranscript t).withHistory (r.session.history.setLimit size).2).store =
      r.store := rfl
  unfold setBufferSize
  simp only [hhistory, hstore]
  simp only [withHistory]
  rcases Store.saveSize r.store size with ⟨_ | _, s⟩
  all_goals
    split
    · rw [← persist_withTranscript]
      rfl
    · rfl

/-- A reset goes back to a preamble, but nothing else of it depends on the transcript. -/
theorem reset_withTranscript (r : Running σ) (t : Transcript) :
    (r.withTranscript t).reset = r.reset.map id (withTranscript · t.reset) := by
  unfold reset
  simp only [withTranscript, mapTranscript, withHistory]
  rcases Store.saveHistory r.store _ _ with ⟨_ | _, s⟩
  · rfl
  · dsimp only
    rcases Session.loadHistory _ _ s with ⟨_ | history, s'⟩ <;> rfl

theorem runSpecial_withTranscript (r : Running σ) (t : Transcript) (command : Command) :
    ∃ t', (r.withTranscript t).runSpecial command =
      (r.runSpecial command).map id (withTranscript · t') := by
  have hrecord (event : Event) :
      (r.withTranscript t).record event = (r.record event).withTranscript t := rfl
  unfold runSpecial
  simp only [hrecord]
  cases command with
  | clear => exact ⟨t.clear, rfl⟩
  | help => exact ⟨_, rfl⟩
  | showBufferSize => exact ⟨_, rfl⟩
  | setBufferSize size =>
    simp only [setBufferSize_withTranscript]
    exact ⟨_, rfl⟩
  | reset =>
    refine ⟨t.reset, ?_⟩
    simp only [reset_withTranscript]
    rcases (r.record (.special .reset)).reset with ⟨_ | _, r'⟩ <;> rfl

omit [Store σ] in
theorem runExpression_withTranscript (evaluator : Evaluator σ) (r : Running σ) (t : Transcript)
    (expression : Text) : ∃ t', (r.withTranscript t).runExpression evaluator expression =
      (r.runExpression evaluator expression).withTranscript t' := by
  unfold runExpression
  have hstore : (r.withTranscript t).store = r.store := rfl
  rw [hstore]
  rcases evaluator expression r.store with ⟨message | output, s⟩
  · exact ⟨t.pushError message, rfl⟩
  · exact ⟨t.pushResult output, rfl⟩

/-- An evaluation does the same with another transcript, but for the transcript. -/
theorem evaluate_withTranscript (evaluator : Evaluator σ) (r : Running σ) (t : Transcript)
    (expression : Text) : ∃ t', (r.withTranscript t).evaluate evaluator expression =
      (r.evaluate evaluator expression).map id (withTranscript · t') := by
  unfold evaluate
  simp only [addCommand_withTranscript]
  cases Command.parse? expression with
  | some command => exact runSpecial_withTranscript _ t command
  | none =>
    obtain ⟨t', ht'⟩ := runExpression_withTranscript evaluator (r.addCommand expression) t expression
    exact ⟨t', by rw [ht']; rfl⟩

end Running

/-! ### Submitting a line -/

namespace Engine

/-- A text that is committed does to all but the transcript what its newest expression does. -/
theorem commit_eq_evaluate (evaluator : Evaluator σ) (e : Engine α) (store : σ) (full : Text) :
    let committed := e.commit evaluator store full
    let evaluated := e.evaluate evaluator store (e.session.transcript.extract full)
    committed.engine.session.history = evaluated.engine.session.history ∧
      committed.engine.session.lastOutput = evaluated.engine.session.lastOutput ∧
      committed.store = evaluated.store ∧ committed.events = evaluated.events ∧
      committed.notices.map (fun n => (n.observer, n.change)) =
        evaluated.notices.map fun n => (n.observer, n.change) := by
  obtain ⟨t', ht'⟩ := Running.evaluate_withTranscript evaluator ⟨e.session, store, []⟩
    (e.session.transcript.replace full) (e.session.transcript.extract full)
  have hcommit : Running.commit evaluator ⟨e.session, store, []⟩ full =
      (Running.evaluate evaluator ⟨e.session, store, []⟩ (e.session.transcript.extract full)).map
        id (Running.withTranscript · t') := ht'
  simp only [commit, evaluate, loudly, quietly, hcommit, notices, List.map_map]
  exact ⟨rfl, rfl, rfl, rfl, rfl⟩

end Engine

namespace Screen

/-- A prompt without spaces is sealed. Behind a sealed prompt a submitted line is recorded and run
    as it was typed, without the blanks around it, in every state that the session can be in: the
    history with its cursor and limit, the latest output, the store, the log and the changes of
    which the observers are told are those of evaluating the trimmed line. -/
theorem submit_eq_evaluate_trim (opening : Opening σ) :
    (' ' ∉ opening.flavor.prompt → Transcript.Sealed opening.flavor.prompt) ∧
    (Transcript.Sealed opening.flavor.prompt →
      ∀ e : Engine α, Session.Reachable opening e.session →
      ∀ line : Text, ¬ opening.flavor.prompt <:+: line → ∀ store : σ,
        let submitted := submit opening.evaluator e store line
        let evaluated := e.evaluate opening.evaluator store line.trim
        e.session.transcript.extract (e.session.transcript.text ++ line) = line.trim ∧
        submitted.engine.session.history = evaluated.engine.session.history ∧
        submitted.engine.session.lastOutput = evaluated.engine.session.lastOutput ∧
        submitted.store = evaluated.store ∧ submitted.events = evaluated.events ∧
        submitted.notices.map (fun n => (n.observer, n.change)) =
          evaluated.notices.map fun n => (n.observer, n.change)) := by
  refine ⟨Transcript.sealed_of_notMem, fun hsealed e hreach line hline store => ?_⟩
  obtain ⟨-, -, hprompt, hrest⟩ := hreach.waiting
  obtain ⟨⟨before, htext⟩, -⟩ := Transcript.atRest_iff.1 hrest
  have htyped : e.session.transcript.extract (e.session.transcript.text ++ line) = line.trim := by
    rw [← htext, List.append_assoc]
    rw [← hprompt] at hsealed hline
    exact hsealed.extract (hprompt ▸ hreach.prompt_ne_nil) hline before
  have hcommit := Engine.commit_eq_evaluate opening.evaluator e store
    (e.session.transcript.text ++ line)
  rw [htyped] at hcommit
  exact ⟨htyped, hcommit⟩

/-- The latest output ends with a prompt and an expression behind it, and the prompt has a space
    inside. -/
theorem submit_eq_evaluate_trim_behind_prompts :
    ∃ (opening : Opening Stored) (e : Engine Unit) (line : Text) (store : Stored),
      Session.Reachable opening e.session ∧ opening.flavor.prompt = "a $".toList ∧
      e.session.lastOutput = some "1\na $ reset".toList ∧ line = " \t$ \n2\u3000".toList ∧
      Transcript.Sealed opening.flavor.prompt ∧ ¬ opening.flavor.prompt <:+: line ∧
      (e.session.transcript.extract (e.session.transcript.text ++ line) = "$ \n2".toList) ∧
      (submit opening.evaluator e store line).engine.session.history.entries =
        [['1'], "$ \n2".toList] ∧
      (submit opening.evaluator e store line).store.buckets.find? opening.flavor.title =
        some [['1'], "$ \n2".toList] := by
  let opening : Opening Stored :=
    ⟨⟨['T'], "a $".toList, []⟩, 9, .pure fun x => .ok (x ++ "\na $ reset".toList)⟩
  have hstart : Session.start opening.flavor opening.defaultSize Stored.empty = (.ok _, _) := rfl
  have hreach := (Session.Reachable.opened hstart).move Stored.empty (.evaluate ['1'])
  have hsealed : Transcript.Sealed opening.flavor.prompt := by decide
  have hline : ¬ opening.flavor.prompt <:+: " \t$ \n2\u3000".toList := by decide
  obtain ⟨htyped, hhistory, -, hstore, -⟩ := (submit_eq_evaluate_trim (α := Unit) opening).2 hsealed
    (Engine.ofSession _) hreach " \t$ \n2\u3000".toList hline Stored.empty
  refine ⟨opening, Engine.ofSession _, _, Stored.empty, hreach, rfl, rfl, rfl, hsealed, hline,
    htyped.trans (by decide), ?_, ?_⟩
  · rw [hhistory]
    rfl
  · rw [hstore]
    rfl

end Screen

end Console
