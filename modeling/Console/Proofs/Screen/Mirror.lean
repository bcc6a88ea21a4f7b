import Console.Proofs.Command
import Console.Proofs.Session.Typed

/-! The screen mirrors the transcript. An editor draws the prompt, the line and a newline, and what
    a line prints goes behind them, or on an empty screen when it is drawn anew. Text that is added
    to the transcript begins with the newline that the editor has drawn. So the screen with the
    prompt behind it is the transcript after every line, whatever the evaluator and the store
    answer, and the screen is drawn anew for the two commands that replace the transcript and for
    nothing else. -/

namespace Console

/-! ### The screen -/

namespace Screen

theorem stripPrompt_append {printed prompt : Text} (h : prompt <:+ printed) :
    stripPrompt printed prompt ++ prompt = printed := by
  obtain ⟨front, rfl⟩ := h
  have hfound : prompt.isSuffixOf? (front ++ prompt) = some front :=
    List.isSuffixOf?_eq_some_iff_append_eq.2 rfl
  rw [stripPrompt, Text.dropEnding, hfound]
  rfl

/-- What stands on the screen after an update. Above what is added stands the line that the editor
    has drawn behind the prompt, and nothing stands above a transcript that is drawn anew. The
    prompt at the end is left to the editor. -/
def Update.onScreen (screen prompt line : Text) : Update → Text
  | .append added => screen ++ (prompt ++ line ++ ['\n']) ++ stripPrompt added prompt
  | .redraw all => stripPrompt all prompt

variable {σ α : Type} [Store σ]

/-- How the screen is updated for a line. -/
def updateFor (evaluator : Evaluator σ) (e : Engine α) (store : σ) (line : Text) : Update :=
  update (e.session.transcript.text ++ line)
    (submit evaluator e store line).engine.session.transcript.text

/-- The session and the screen after lines. Every line finds a store of its own: the one that the
    line before it left, or what others have made of it. -/
def follow (evaluator : Evaluator σ) (e : Engine α) (screen : Text) :
    List (σ × Text) → Engine α × Text
  | [] => (e, screen)
  | (store, line) :: lines =>
    follow evaluator (submit evaluator e store line).engine
      ((updateFor evaluator e store line).onScreen screen (promptText e) line) lines

end Screen

/-- Only the two commands that replace the transcript have the screen drawn anew. -/
theorem Reply.update_eq_redraw_iff {flavor : Flavor} {answer : Except Text Text} {limit : Nat}
    {expression : Text} :
    (∃ all, (Reply.of answer limit expression).update flavor = .redraw all) ↔
      expression = "clear".toList ∨ expression = "reset".toList := by
  rw [← Command.parse?_eq_clear_iff, ← Command.parse?_eq_reset_iff]
  unfold Reply.of
  cases Command.parse? expression with
  | none => cases answer <;> simp [Reply.update]
  | some command => cases command <;> simp [Reply.update]

/-! ### One line -/

/-- The screen of a session that waits for a line shows its transcript up to the prompt. -/
structure Mirrors (flavor : Flavor) (s : Session) (screen : Text) : Prop where
  waiting : Session.Waiting flavor s
  begins : flavor.preamble <+: s.transcript.text ∨ flavor.promptText <+: s.transcript.text
  shows : screen ++ flavor.promptText = s.transcript.text

section OneLine

variable {σ α : Type} [Store σ] {flavor : Flavor} {s : Session} {screen line : Text}

/-- A block is added on the line after the one that was typed. -/
theorem Mirrors.block_text (h : Mirrors flavor s screen) (hline : '\n' ∉ line) (shown : Text) :
    ((s.showing line).transcript.after (.block shown)).text =
      s.transcript.text ++ line ++ '\n' :: (shown ++ '\n' :: flavor.promptText) := by
  have hlast : (s.transcript.text ++ line).getLast? ≠ some '\n' := by
    rw [← h.shows, Flavor.promptText, Transcript.promptText, List.getLast?_append]
    cases hlast : line.getLast? with
    | none => simp
    | some c =>
      rintro hc
      obtain rfl : c = '\n' := by simpa using hc
      exact hline (List.mem_of_getLast? hlast)
  have hne : s.transcript.text ++ line ≠ [] := by
    rw [← h.shows, Flavor.promptText, Transcript.promptText]
    simp
  have htext : (s.showing line).transcript.text = s.transcript.text ++ line := rfl
  simp only [Transcript.after, Transcript.pushBlock, Transcript.withText, htext,
    h.waiting.showing_prompt line]
  rw [if_neg (by simp only [hne, hlast, or_self, not_false_eq_true])]
  simp [Flavor.promptText]

/-- What a line does to the transcript: its reply to the evaluator's answer, which is what the
    evaluator answers when the expression has been recorded. -/
theorem Mirrors.submit_session {e : Engine α} (h : Mirrors flavor e.session screen)
    (evaluator : Evaluator σ) (store : σ) (line : Text) :
    let x := flavor.typed line
    let answer := (evaluator x (Running.addCommand ⟨e.session, store, []⟩ x).store).1
    ∃ history lastOutput, (Screen.submit evaluator e store line).engine.session =
      { e.session with
        transcript := (e.session.showing line).transcript.after
          (Reply.of answer e.session.history.limit x)
        history := history
        lastOutput := lastOutput } := by
  intro x answer
  obtain ⟨history, hsession⟩ := Running.evaluate_session evaluator
    ⟨e.session.showing line, store, []⟩ x
  have hadd := congrArg Running.store <| Running.addCommand_withTranscript
    ⟨e.session, store, []⟩ (e.session.showing line).transcript x
  have hstore : (Running.addCommand ⟨e.session.showing line, store, []⟩ x).store =
      (Running.addCommand ⟨e.session, store, []⟩ x).store := hadd
  rw [hstore, ← h.waiting.commit_eq evaluator store line] at hsession
  exact ⟨history, _, hsession⟩

/-- After a line the screen shows the transcript again, and how it was updated is a matter of the
    reply. -/
theorem Mirrors.submit {e : Engine α} (h : Mirrors flavor e.session screen)
    (hpreamble : ¬ flavor.promptText <+: flavor.preamble) (evaluator : Evaluator σ) (store : σ)
    (hline : '\n' ∉ line) :
    let x := flavor.typed line
    let answer := (evaluator x (Running.addCommand ⟨e.session, store, []⟩ x).store).1
    let update := Screen.updateFor evaluator e store line
    update = (Reply.of answer e.session.history.limit x).update flavor ∧
      Mirrors flavor (Screen.submit evaluator e store line).engine.session
        (update.onScreen screen flavor.promptText line) := by
  intro x answer update
  obtain ⟨history, lastOutput, hsession⟩ := h.submit_session evaluator store line
  have hupdate : update = (Reply.of answer e.session.history.limit x).update flavor := by
    rw [← h.waiting.update_line h.begins hpreamble]
    exact congrArg (fun s : Session => Screen.update _ s.transcript.text) hsession
  refine ⟨hupdate, ?_⟩
  rw [hsession, hupdate]
  generalize Reply.of answer e.session.history.limit x = reply
  refine ⟨⟨h.waiting.flavor_eq, ?_, ?_, ?_⟩, h.waiting.begins_after h.begins line reply, ?_⟩
  · exact (Transcript.after_title _ reply).trans h.waiting.title_eq
  · exact (Transcript.after_prompt _ reply).trans h.waiting.prompt_eq
  · exact Transcript.after_atRest _ reply
  · cases reply with
    | block shown =>
      have hends : flavor.promptText <:+ shown ++ '\n' :: flavor.promptText :=
        ⟨shown ++ ['\n'], by simp⟩
      rw [h.block_text hline, ← h.shows]
      simp only [Reply.update, Screen.Update.onScreen, List.append_assoc,
        Screen.stripPrompt_append hends, List.cons_append, List.nil_append]
    | cleared =>
      rw [h.waiting.after_cleared_text line]
      exact Screen.stripPrompt_append List.suffix_rfl
    | reset =>
      rw [h.waiting.after_reset_text line]
      exact Screen.stripPrompt_append ⟨_, List.append_assoc _ ['\n'] _⟩

end OneLine

/-! ### Lines -/

section Lines

variable {σ α : Type} [Store σ] {flavor : Flavor}

/-- A session that has just been opened shows its preamble. -/
theorem Mirrors.start {defaultSize : Nat} {store store' : σ} {s : Session}
    (hstart : Session.start flavor defaultSize store = (.ok s, store')) :
    Mirrors flavor s (Screen.stripPrompt s.transcript.text flavor.promptText) := by
  obtain ⟨-, history, -, rfl⟩ := Session.start_ok hstart
  refine ⟨⟨rfl, rfl, rfl, ?_⟩, .inl List.prefix_rfl, ?_⟩
  · exact Transcript.after_atRest ⟨[], flavor.title, flavor.prompt, 0⟩ .reset
  · exact Screen.stripPrompt_append ⟨_, List.append_assoc _ ['\n'] _⟩

theorem Mirrors.promptText {e : Engine α} {screen : Text} (h : Mirrors flavor e.session screen) :
    Screen.promptText e = flavor.promptText :=
  congrArg Flavor.promptText h.waiting.flavor_eq

/-- The screen goes on mirroring the transcript line by line. -/
theorem Mirrors.follow (hpreamble : ¬ flavor.promptText <+: flavor.preamble)
    (evaluator : Evaluator σ) : ∀ (lines : List (σ × Text)), (∀ l ∈ lines, '\n' ∉ l.2) →
    ∀ {e : Engine α} {screen : Text}, Mirrors flavor e.session screen →
      Mirrors flavor (Screen.follow evaluator e screen lines).1.session
        (Screen.follow evaluator e screen lines).2
  | [], _, _, _, h => h
  | (store, line) :: lines, hlines, e, screen, h => by
    obtain ⟨hline, hlines⟩ := List.forall_mem_cons.1 hlines
    obtain ⟨-, hnext⟩ := h.submit hpreamble evaluator store hline
    rw [← h.promptText] at hnext
    exact Mirrors.follow hpreamble evaluator lines hlines hnext

end Lines

namespace Screen

variable {σ α : Type} [Store σ]

/-- Lines without newlines, submitted to a session that has just been opened. After all of them the
    screen with the prompt is the transcript. One more line draws the screen anew exactly if its
    expression is `clear` or `reset`. Else it prints the block of its reply, a newline and the
    prompt, which is what the transcript gains behind the newline of the editor. -/
theorem follow_shows_transcript (opening : Opening σ)
    (hpreamble : ¬ opening.flavor.promptText <+: opening.flavor.preamble) {s : Session}
    {store₀ store₁ : σ}
    (hstart : Session.start opening.flavor opening.defaultSize store₀ = (.ok s, store₁))
    (lines : List (σ × Text)) (hlines : ∀ l ∈ lines, '\n' ∉ l.2) :
    let prompt := opening.flavor.promptText
    let start : Engine α := .ofSession s
    let after := follow opening.evaluator start (stripPrompt s.transcript.text prompt) lines
    let e := after.1
    after.2 ++ promptText e = e.session.transcript.text ∧
    ∀ (store : σ) (line : Text), '\n' ∉ line →
      let full := e.session.transcript.text ++ line
      let x := e.session.transcript.extract full
      let answer := (opening.evaluator x (Running.addCommand ⟨e.session, store, []⟩ x).store).1
      let t := submit opening.evaluator e store line
      let update := updateFor opening.evaluator e store line
      t.answer = update.printed ∧
      ((∃ all, update = .redraw all) ↔ x = "clear".toList ∨ x = "reset".toList) ∧
      ∀ added, update = .append added → ∃ shown,
        Reply.of answer e.session.history.limit x = .block shown ∧
        t.engine.session.transcript.text = full ++ '\n' :: added ∧
        added = shown ++ '\n' :: prompt := by
  intro prompt start after e
  have hmirrors : Mirrors opening.flavor e.session after.2 :=
    (Mirrors.start hstart).follow hpreamble opening.evaluator lines hlines
  refine ⟨hmirrors.promptText ▸ hmirrors.shows, ?_⟩
  intro store line hline full x answer t update
  have hx : x = opening.flavor.typed line := hmirrors.waiting.extract line
  obtain ⟨hupdate, -⟩ := hmirrors.submit hpreamble opening.evaluator store hline
  obtain ⟨history, lastOutput, hsession⟩ := hmirrors.submit_session opening.evaluator store line
  rw [← hx] at hupdate hsession
  refine ⟨rfl, ?_, fun added hadded => ?_⟩
  · change (∃ all, updateFor opening.evaluator e store line = .redraw all) ↔ _
    rw [hupdate]
    exact Reply.update_eq_redraw_iff
  · have happend := hupdate.symm.trans hadded
    change Reply.update _ (Reply.of answer _ x) = _ at happend
    have htext : t.engine.session.transcript.text = ((e.session.showing line).transcript.after
        (Reply.of answer e.session.history.limit x)).text :=
      congrArg (·.transcript.text) hsession
    rw [htext]
    cases hreply : Reply.of answer e.session.history.limit x with
    | block shown =>
      rw [hreply] at happend
      obtain rfl := Update.append.inj happend
      exact ⟨shown, rfl, hmirrors.block_text hline shown, rfl⟩
    | cleared | reset =>
      rw [hreply] at happend
      exact nomatch happend

/-- A title that begins with the prompt, an output that ends with the prompt, a store that refuses
    to save, and a screen that has been cleared before the last line. -/
theorem follow_shows_transcript_of_cleared :
    ∃ (opening : Opening (Switched Stored)) (s : Session) (store : Switched Stored)
      (lines : List (Switched Stored × Text)) (line : Text),
      Session.start opening.flavor opening.defaultSize store = (.ok s, store) ∧
      lines.map Prod.snd = ["clear".toList, ['1'], []] ∧ line = " reset".toList ∧
      (let after := follow opening.evaluator (.ofSession s : Engine Unit)
        (stripPrompt s.transcript.text opening.flavor.promptText) lines
      after.2 = "> 1\n=> 1\n> \n> \n=> \n> \n".toList ∧
      after.2 ++ promptText after.1 = after.1.session.transcript.text ∧
      ∃ all, updateFor opening.evaluator after.1 store line = .redraw all) := by
  let opening : Opening (Switched Stored) :=
    ⟨⟨">T".toList, ['>'], []⟩, 2, .pure fun x => .ok (x ++ "\n> ".toList)⟩
  let refusing : Switched Stored := ⟨.empty, false, true⟩
  have hstart : Session.start opening.flavor opening.defaultSize refusing = (.ok _, refusing) := rfl
  have hpreamble : ¬ opening.flavor.promptText <+: opening.flavor.preamble := by decide
  obtain ⟨hshows, hline⟩ := follow_shows_transcript (α := Unit) opening hpreamble hstart
    [(refusing, "clear".toList), (refusing, ['1']), (refusing, [])] (by decide)
  obtain ⟨-, hanew, -⟩ := hline refusing " reset".toList (by decide)
  refine ⟨opening, _, refusing, _, " reset".toList, hstart, rfl, rfl, ?_, hshows, hanew.2 (.inr ?_)⟩
  · decide +kernel +zetaReduce
  · decide +kernel +zetaReduce

end Screen

end Console
