import Console.Proofs.Session.Line
import Console.Proofs.Session.Outcome
import Console.Proofs.Store.Calls
import Mathlib.Data.List.Chain
import Mathlib.Data.List.DropRight

/-! The transcript is a faithful log. A session that only evaluates goes through exchanges: an
    expression, the answer to it, and the buffer size at that moment. Its transcript is made of the
    exchanges since it was last cleared or reset, each one once and in order, and its latest output
    is that of the last exchange that had one. No failure of the store shows in either. -/

namespace Console

/-! ### Exchanges -/

/-- An expression with the evaluator's answer to it, of which a special command takes no notice, and
    the buffer size in force when it is evaluated. -/
structure Exchange where
  expression : Text
  answer : Except Text Text
  size : Nat

namespace Exchange

/-- The list of the commands, as `help` shows it. -/
def commandList : Text := (
  "Special commands:\n" ++
  "  clear       Clear the console\n" ++
  "  reset       Reset the console and erase its command history\n" ++
  "  help        Show this list of commands\n" ++
  "  buffer      Show the command history buffer size\n" ++
  "  buffer <n>  Set the command history buffer size to n").toList

/-- The block of an exchange. There is none if it clears or resets the transcript. -/
def block (e : Exchange) : Text :=
  match Command.parse? e.expression with
  | none =>
    match e.answer with
    | .ok output => '=' :: '>' :: ' ' :: output
    | .error message => 'x' :: '>' :: ' ' :: message
  | some .help => commandList
  | some .showBufferSize => "Buffer size: ".toList ++ Text.ofNat e.size
  | some (.setBufferSize size) => "Buffer size set to ".toList ++ Text.ofNat size
  | some .clear | some .reset => []

/-- The output of an exchange that is a successful ordinary evaluation. -/
def output? (e : Exchange) : Option Text := Reply.output? e.answer e.expression

/-- All that a transcript is after an exchange that clears or resets it. -/
def anew? (flavor : Flavor) (e : Exchange) : Option Text :=
  match Command.parse? e.expression with
  | some .clear => some flavor.promptText
  | some .reset => some flavor.preamble
  | _ => none

/-- The buffer size that an exchange leaves in force, if it is no reset. -/
def sizeAfter (e : Exchange) : Nat :=
  match Command.parse? e.expression with
  | some (.setBufferSize size) => size
  | _ => e.size

/-- What an exchange makes of the text of a transcript. -/
def onto (flavor : Flavor) (text : Text) (e : Exchange) : Text :=
  (e.anew? flavor).getD (text ++ '\n' :: e.block ++ '\n' :: flavor.promptText)

/-- The list of the commands is the help text, which is laid out from the table of the commands. -/
theorem commandList_eq : commandList = Command.helpText := by decide +kernel

end Exchange

/-- The exchanges since the transcript was last cleared or reset. -/
def Flavor.page (flavor : Flavor) (log : List Exchange) : List Exchange :=
  log.rtakeWhile fun e => (e.anew? flavor).isNone

/-- What the transcript began with when it was last cleared or reset, or opened. -/
def Flavor.base (flavor : Flavor) (log : List Exchange) : Text :=
  (log.filterMap (·.anew? flavor)).getLast?.getD flavor.preamble

/-- Exchanges one after the other leave the last base and behind it what came since. -/
theorem Exchange.foldl_onto (flavor : Flavor) (log : List Exchange) :
    log.foldl (onto flavor) flavor.preamble = flavor.base log ++
      (flavor.page log).flatMap fun e => '\n' :: e.block ++ '\n' :: flavor.promptText := by
  -- a page ends where the log ends, so the induction takes the latest exchange away
  induction log using List.reverseRecOn with
  | nil => exact (List.append_nil _).symm
  | append_singleton log e ih =>
    rw [List.foldl_concat, ih, onto, Flavor.base, Flavor.base, Flavor.page, Flavor.page,
      List.filterMap_append, List.rtakeWhile_concat]
    cases hanew : e.anew? flavor with
    | some text => simp [hanew]
    | none => simp [hanew]

namespace Session.Waiting

variable {flavor : Flavor} {s : Session}

/-- A transcript that waits for input ends in the prompt, so a block goes on a line of its own. -/
theorem pushBlock_text (h : Waiting flavor s) (shown : Text) :
    (s.transcript.pushBlock shown).text =
      s.transcript.text ++ '\n' :: shown ++ '\n' :: flavor.promptText := by
  obtain ⟨⟨before, htext⟩, -⟩ := Transcript.atRest_iff.1 h.atRest
  have hlast : s.transcript.text.getLast? = some ' ' := by
    rw [← htext, Transcript.promptText, ← List.append_assoc, List.getLast?_concat]
  have hne : s.transcript.text ≠ [] := by
    intro hnil
    rw [hnil] at hlast
    cases hlast
  rw [Transcript.pushBlock, if_neg (by simp [hne, hlast])]
  simp [Transcript.withText, h.prompt_eq, Flavor.promptText]

/-- The reply to an expression does to the text what the exchange says. -/
theorem after_text (h : Waiting flavor s) (e : Exchange) :
    (s.transcript.after (.of e.answer e.size e.expression)).text =
      e.onto flavor s.transcript.text := by
  unfold Exchange.onto Exchange.anew? Exchange.block Reply.of
  cases Command.parse? e.expression with
  | none =>
    cases e.answer with
    | ok output => exact h.pushBlock_text (Transcript.resultBlock output)
    | error message => exact h.pushBlock_text (Transcript.errorBlock message)
  | some command =>
    cases command with
    | clear => exact h.after_cleared_text []
    | reset => exact h.after_reset_text []
    | help => rw [Exchange.commandList_eq]; exact h.pushBlock_text Command.helpText
    | showBufferSize | setBufferSize size => exact h.pushBlock_text _

end Session.Waiting

/-! ### Evaluations one after the other -/

namespace Running

variable {σ : Type} [Store σ] {flavor : Flavor}

/-- The exchange that the evaluation of an expression is. -/
def exchange (evaluator : Evaluator σ) (r : Running σ) (expression : Text) : Exchange :=
  ⟨expression, (evaluator expression (r.addCommand expression).store).1, r.session.history.limit⟩

/-- Evaluates expressions one after the other, and logs the exchanges. -/
def evaluateAll (evaluator : Evaluator σ) (r : Running σ) : List Text → List Exchange × Running σ
  | [] => ([], r)
  | expression :: expressions =>
    let (log, last) := (r.evaluate evaluator expression).2.evaluateAll evaluator expressions
    (r.exchange evaluator expression :: log, last)

/-- An evaluation does to the transcript and to the latest output what its exchange says, whatever
    the store answers. -/
theorem evaluate_exchange {r : Running σ} (h : r.session.Waiting flavor) (evaluator : Evaluator σ)
    (expression : Text) :
    let e := r.exchange evaluator expression
    let after := (r.evaluate evaluator expression).2.session
    after.Waiting flavor ∧ after.transcript.text = e.onto flavor r.session.transcript.text ∧
      after.lastOutput = e.output?.or r.session.lastOutput := by
  intro e after
  obtain ⟨history, hsession⟩ := evaluate_session evaluator r expression
  have htext := h.after_text e
  obtain ⟨hflavor, htitle, hprompt, -⟩ := h
  rw [show after = _ from hsession]
  exact ⟨⟨hflavor, (Transcript.after_title _ _).trans htitle,
    (Transcript.after_prompt _ _).trans hprompt, Transcript.after_atRest _ _⟩, htext, rfl⟩

/-- An evaluation that is no reset leaves the buffer size in force that its exchange says. -/
theorem evaluate_limit (evaluator : Evaluator σ) (r : Running σ) {expression : Text}
    (hreset : Command.parse? expression ≠ some .reset) :
    (r.evaluate evaluator expression).2.session.history.limit =
      (r.exchange evaluator expression).sizeAfter := by
  rw [evaluate_history evaluator r hreset]
  unfold History.evaluated Exchange.sizeAfter exchange
  dsimp only
  cases Command.parse? expression with
  | none => rfl
  | some command => cases command <;> rfl

theorem evaluateAll_expressions (evaluator : Evaluator σ) :
    ∀ (expressions : List Text) (r : Running σ),
      (r.evaluateAll evaluator expressions).1.map (·.expression) = expressions
  | [], _ => rfl
  | expression :: expressions, _ =>
    congrArg (expression :: ·) (evaluateAll_expressions evaluator expressions _)

theorem evaluateAll_session (evaluator : Evaluator σ) :
    ∀ (expressions : List Text) {r : Running σ}, r.session.Waiting flavor →
      let log := (r.evaluateAll evaluator expressions).1
      let last := (r.evaluateAll evaluator expressions).2.session
      last.transcript.text = log.foldl (Exchange.onto flavor) r.session.transcript.text ∧
        last.lastOutput = (log.filterMap Exchange.output?).getLast?.or r.session.lastOutput
  | [], _, _ => ⟨rfl, rfl⟩
  | expression :: expressions, r, h => by
    obtain ⟨hwaiting, htext, houtput⟩ := evaluate_exchange h evaluator expression
    obtain ⟨hlast, hlastOutput⟩ := evaluateAll_session evaluator expressions hwaiting
    refine ⟨?_, ?_⟩
    · rw [htext] at hlast
      exact hlast
    · refine hlastOutput.trans ?_
      rw [houtput, evaluateAll, List.filterMap_cons]
      cases (r.exchange evaluator expression).output? with
      | none => rfl
      | some output =>
        dsimp only
        rw [List.getLast?_cons, Option.some_or, Option.some_or, Option.or_some]

/-- The buffer size in force goes on from each exchange to the next, unless that is a reset. -/
theorem evaluateAll_sizes (evaluator : Evaluator σ) :
    ∀ (expressions : List Text) (r : Running σ),
      let log := (r.evaluateAll evaluator expressions).1
      (∀ e ∈ log.head?, e.size = r.session.history.limit) ∧
        log.IsChain fun e e' => Command.parse? e.expression ≠ some .reset → e'.size = e.sizeAfter
  | [], _ => ⟨fun _ he => (nomatch he), List.IsChain.nil⟩
  | expression :: expressions, r => by
    obtain ⟨hfirst, hchain⟩ :=
      evaluateAll_sizes evaluator expressions (r.evaluate evaluator expression).2
    refine ⟨fun e he => Option.some.inj he ▸ rfl, ?_⟩
    refine List.isChain_cons.2 ⟨fun e he hreset => ?_, hchain⟩
    exact (hfirst e he).trans (evaluate_limit evaluator r hreset)

end Running

namespace Session

variable {σ : Type} [Store σ]

/-- A session that has been opened and then only evaluates. Its transcript is the base, which is the
    preamble, or the prompt if the session was cleared last, and behind it the block of every
    exchange since, in order and each with a fresh prompt. Its latest output is the last one of the
    whole run. The exchanges are of the expressions in their order, and the buffer size goes on from
    each to the next, unless that is a reset. The store may answer anything at any call. -/
theorem transcript_eq_log {flavor : Flavor} {defaultSize : Nat} {store store' : σ} {s : Session}
    (hstart : start flavor defaultSize store = (.ok s, store')) (evaluator : Evaluator σ)
    (expressions : List Text) :
    let run := Running.evaluateAll evaluator ⟨s, store', []⟩ expressions
    let log := run.1
    let last := run.2.session
    log.map (·.expression) = expressions ∧
      last.transcript.text = flavor.base log ++
        (flavor.page log).flatMap (fun e => '\n' :: e.block ++ '\n' :: flavor.promptText) ∧
      last.lastOutput = (log.filterMap Exchange.output?).getLast? ∧
      (∀ e ∈ log.head?, e.size = s.history.limit) ∧
      log.IsChain fun e e' =>
        Command.parse? e.expression ≠ some .reset → e'.size = e.sizeAfter := by
  intro run log last
  have hreachable : Reachable ⟨flavor, defaultSize, evaluator⟩ s := .opened hstart
  obtain ⟨htext, houtput⟩ := Running.evaluateAll_session evaluator expressions
    (r := ⟨s, store', []⟩) hreachable.waiting
  obtain ⟨-, history, -, rfl⟩ := start_ok hstart
  refine ⟨Running.evaluateAll_expressions evaluator expressions _, ?_, ?_,
    Running.evaluateAll_sizes evaluator expressions _⟩
  · exact htext.trans (Exchange.foldl_onto flavor log)
  · exact houtput.trans Option.or_none

/-- A session that is cleared, while its store refuses the save of the size and that of an empty
    history for the reset before. -/
theorem transcript_eq_log_under_refusals :
    ∃ (flavor : Flavor) (s : Session) (store store' : Scheduled Stored) (expressions : List Text),
      start flavor 5 store = (.ok s, store') ∧
      store'.refusals = [false, false, true, false, false, true] ∧
      expressions = [['1'], "reset".toList, "clear".toList, "buffer 2".toList, ['2'], ['?'],
        "buffer".toList] ∧
      (let last := (Running.evaluateAll (.pure fun x => if x = ['?'] then .error ['!'] else .ok x)
        ⟨s, store', []⟩ expressions).2.session
      last.transcript.text =
        "> \nBuffer size set to 2\n> \n=> 2\n> \nx> !\n> \nBuffer size: 2\n> ".toList ∧
      last.lastOutput = some ['2']) := by
  let flavor : Flavor := ⟨['T'], ['>'], []⟩
  let expressions := [['1'], "reset".toList, "clear".toList, "buffer 2".toList, ['2'], ['?'],
    "buffer".toList]
  have hstart : start flavor 5 (⟨.empty, [false, false, false, false, true, false, false, true]⟩ :
    Scheduled Stored) = (.ok _, _) := rfl
  obtain ⟨-, htext, houtput, -⟩ := transcript_eq_log hstart
    (.pure fun x => if x = ['?'] then .error ['!'] else .ok x) expressions
  exact ⟨flavor, _, _, _, expressions, hstart, rfl, rfl,
    htext.trans (by decide +kernel +zetaReduce), houtput.trans (by decide +kernel +zetaReduce)⟩

end Session

end Console
