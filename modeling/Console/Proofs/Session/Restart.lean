import Console.Proofs.Session.Line
import Console.Proofs.Session.Settled
import Console.Proofs.Session.Transport
import Console.Proofs.Store.Healthy

/-! Restarting. Expressions that are executed in one session print and store the same as when each
    is executed in a session of its own, on a store that does not fail and with an evaluator that
    knows nothing but the expression. The long session differs from the fresh ones in its
    transcript, its cursor and its latest output. What an expression prints and stores depends on
    none of them, as long as the preamble does not begin with the prompt: a screen that is drawn
    anew after a reset could else pass for one that goes on. -/

namespace Console

/-! ### Runs -/

section Runs

variable {σ τ α : Type} [Store σ] [Store τ]

/-- Executes expressions in one session, and answers what each of them prints. -/
def Screen.executeAll (evaluator : Evaluator σ) (e : Engine α) (store : σ) :
    List Text → List Text × σ
  | [] => ([], store)
  | line :: lines =>
    let t := executeOnce evaluator e store line
    let (printed, store) := executeAll evaluator t.engine t.store lines
    (t.answer :: printed, store)

/-- Opens a session that executes all expressions. -/
def Opening.executeAll (o : Opening σ) (store : σ) (lines : List Text) : Call σ (List Text) :=
  match Session.start o.flavor o.defaultSize store with
  | (.error e, store) => (.error e, store)
  | (.ok s, store) =>
    let (printed, store) :=
      Screen.executeAll o.evaluator (Engine.ofSession s : Engine Empty) store lines
    (.ok printed, store)

/-- Opens a session for every expression, one after the other. -/
def Opening.executeEach (o : Opening σ) (store : σ) : List Text → Call σ (List Text)
  | [] => (.ok [], store)
  | line :: lines =>
    match o.executeAll store [line] with
    | (.error e, store) => (.error e, store)
    | (.ok printed, store) =>
      let (more, store) := o.executeEach store lines
      (more.map (printed ++ ·), store)

variable {R : σ → τ → Prop} {fits : Nat → Prop} {e : Evaluator σ} {e' : Evaluator τ}

theorem Screen.executeAll_sim (hR : Store.Sim fits R) (he : e.Agrees R e') :
    ∀ (lines : List Text) (engine : Engine α) {s : σ} {t : τ}, R s t →
      Store.Agree R (executeAll e engine s lines) (executeAll e' engine t lines)
  | [], _, _, _, h => ⟨rfl, h⟩
  | line :: lines, engine, s, t, h => by
    have honce : Turn.Sim R (executeOnce e engine s line) (executeOnce e' engine t line) :=
      executeOnce_sim (hR _) he h line
    obtain ⟨hanswers, hlast⟩ :=
      executeAll_sim hR he lines (executeOnce e engine s line).engine honce.store
    simp only [executeAll, honce.answer, honce.engine]
    exact ⟨congrArg _ hanswers, hlast⟩

variable (flavor : Flavor) (defaultSize : Nat)

theorem Opening.executeAll_sim (hR : Store.Sim fits R) (he : e.Agrees R e') {s : σ} {t : τ}
    (h : R s t) (lines : List Text) :
    Store.Agree R (Opening.executeAll ⟨flavor, defaultSize, e⟩ s lines)
      (Opening.executeAll ⟨flavor, defaultSize, e'⟩ t lines) := by
  obtain ⟨session, s₁, t₁, hs, ht, h₁⟩ :=
    (Session.start_sim (hR flavor.title) defaultSize h).exists_eq
  unfold executeAll
  rw [hs, ht]
  cases session with
  | error e => exact ⟨rfl, h₁⟩
  | ok session =>
    obtain ⟨hanswers, hlast⟩ := Screen.executeAll_sim hR he lines (.ofSession session) h₁
    exact ⟨congrArg Except.ok hanswers, hlast⟩

theorem Opening.executeEach_sim (hR : Store.Sim fits R) (he : e.Agrees R e') :
    ∀ (lines : List Text) {s : σ} {t : τ}, R s t →
      Store.Agree R (Opening.executeEach ⟨flavor, defaultSize, e⟩ s lines)
        (Opening.executeEach ⟨flavor, defaultSize, e'⟩ t lines)
  | [], _, _, h => ⟨rfl, h⟩
  | line :: lines, s, t, h => by
    obtain ⟨printed, s₁, t₁, hs, ht, h₁⟩ :=
      (executeAll_sim flavor defaultSize hR he h [line]).exists_eq
    unfold executeEach
    rw [hs, ht]
    cases printed with
    | error e => exact ⟨rfl, h₁⟩
    | ok printed =>
      obtain ⟨hanswers, hlast⟩ := executeEach_sim hR he lines h₁
      exact ⟨congrArg (Except.map (printed ++ ·)) hanswers, hlast⟩

end Runs

/-! ### One expression -/

/-- A session in memory that waits for a line. Its transcript begins with the preamble, or with the
    prompt if it has been cleared. -/
structure Ready (flavor : Flavor) (defaultSize : Nat) (s : Session) (stored : Stored) : Prop where
  waiting : Session.Waiting flavor s
  defaultSize_eq : s.defaultSize = defaultSize
  settled : Running.Settled ⟨s, stored, []⟩
  begins : flavor.preamble <+: s.transcript.text ∨ flavor.promptText <+: s.transcript.text

section OneExpression

variable {α : Type} {flavor : Flavor} {defaultSize : Nat} {s : Session} {stored : Stored}

/-- After a reply a session is ready again, if the store knows what it holds. -/
theorem Ready.reply (h : Ready flavor defaultSize s stored) (line : Text) (reply : Reply)
    {s' : Session} {stored' : Stored} {history : History} {lastOutput : Option Text}
    (hs' : s' = { s with
      transcript := (s.showing line).transcript.after reply
      lastOutput := lastOutput
      history := history })
    (hsettled : Running.Settled ⟨s', stored', []⟩) : Ready flavor defaultSize s' stored' := by
  have hbegins := h.waiting.begins_after h.begins line reply
  obtain ⟨hentries, hlimit⟩ := hsettled
  subst hs'
  refine ⟨⟨h.waiting.flavor_eq, ?_, ?_, ?_⟩, h.defaultSize_eq, ⟨hentries, hlimit⟩, hbegins⟩
  · exact (Transcript.after_title _ reply).trans h.waiting.title_eq
  · exact (Transcript.after_prompt _ reply).trans h.waiting.prompt_eq
  · exact Transcript.after_atRest _ reply

/-- What a line prints and stores depends on the line and on what was stored before, and the session
    is ready again. -/
theorem Ready.commit (h : Ready flavor defaultSize s stored)
    (hpreamble : ¬ flavor.promptText <+: flavor.preamble) (answer : Text → Except Text Text)
    (line : Text) :
    let x := flavor.typed line
    let reply := Reply.of (answer x) (stored.size.getD defaultSize) x
    let r := (Running.commit (.pure answer) ⟨s, stored, []⟩ (s.transcript.text ++ line)).2
    (Screen.update (s.transcript.text ++ line) r.session.transcript.text).printed =
        reply.printed flavor ∧
      r.store = stored.after flavor.title defaultSize x ∧
      Ready flavor defaultSize r.session r.store := by
  intro x reply r
  have hr : r = (Running.evaluate (.pure answer) ⟨s.showing line, stored, []⟩ x).2 :=
    congrArg Prod.snd (h.waiting.commit_eq (.pure answer) stored line)
  have hshowing : Running.Settled ⟨s.showing line, stored, []⟩ :=
    ⟨h.settled.entries, h.settled.limit⟩
  have hlimit : (s.showing line).history.limit = stored.size.getD defaultSize :=
    h.settled.limit.trans (congrArg stored.size.getD h.defaultSize_eq)
  obtain ⟨hstore, hsettled⟩ := hshowing.evaluate answer x
  obtain ⟨history, hsession⟩ := Running.evaluate_session (.pure answer)
    ⟨s.showing line, stored, []⟩ x
  rw [← hr] at hstore hsettled hsession
  simp only [hlimit, Evaluator.pure] at hsession
  refine ⟨?_, ?_, h.reply line reply hsession ⟨hsettled.entries, hsettled.limit⟩⟩
  · rw [hsession, ← Reply.update_printed]
    exact congrArg Screen.Update.printed <| h.waiting.update_line h.begins hpreamble (answer x)
      (stored.size.getD defaultSize) line
  · rw [hstore]
    change stored.after s.flavor.title s.defaultSize x = _
    rw [h.waiting.flavor_eq, h.defaultSize_eq]

/-- What an expression prints and stores depends on the expression and on what was stored before. -/
theorem Ready.executeOnce {e : Engine α} (h : Ready flavor defaultSize e.session stored)
    (hpreamble : ¬ flavor.promptText <+: flavor.preamble) (answer : Text → Except Text Text)
    (line : Text) :
    let x := flavor.typed line
    let reply := Reply.of (answer x) (stored.size.getD defaultSize) x
    let t := Screen.executeOnce (.pure answer) e stored line
    t.answer = (Screen.stripPrompt (reply.printed flavor) flavor.promptText).trimEnd ∧
      t.store = stored.after flavor.title defaultSize x ∧
      Ready flavor defaultSize t.engine.session t.store := by
  intro x reply t
  obtain ⟨hprinted, hstore, hready⟩ := h.commit hpreamble answer line
  refine ⟨?_, hstore, hready⟩
  have hprompt : Screen.promptText t.engine = flavor.promptText :=
    congrArg Flavor.promptText hready.waiting.flavor_eq
  change (Screen.stripPrompt (Screen.update _ _).printed (Screen.promptText t.engine)).trimEnd = _
  rw [hprompt]
  exact congrArg (fun printed => (Screen.stripPrompt printed flavor.promptText).trimEnd) hprinted

/-- In memory every opening succeeds, and the session is ready. -/
theorem start_ready (hprompt : Text.allBlank flavor.prompt = false) (defaultSize : Nat)
    (stored : Stored) : ∃ s, Session.start flavor defaultSize stored = (.ok s, stored) ∧
      Ready flavor defaultSize s stored := by
  have hnew : Transcript.new? flavor.title flavor.prompt =
      .ok (.reset ⟨[], flavor.title, flavor.prompt, 0⟩) := by
    rw [Transcript.new?, hprompt]
    rfl
  have hstart : Session.start flavor defaultSize stored = (.ok ⟨flavor,
      .reset ⟨[], flavor.title, flavor.prompt, 0⟩,
      .ofEntries (stored.commands flavor.title) (stored.size.getD defaultSize),
      none, defaultSize⟩, stored) := by
    rw [Session.start, hnew]
    rfl
  refine ⟨_, hstart, ⟨rfl, rfl, rfl, ?_⟩, rfl, ⟨rfl, rfl⟩, .inl List.prefix_rfl⟩
  exact Transcript.after_atRest ⟨[], flavor.title, flavor.prompt, 0⟩ .reset

end OneExpression

/-! ### Runs in memory -/

theorem Ready.executeEach {α : Type} {flavor : Flavor} {defaultSize : Nat}
    (hprompt : Text.allBlank flavor.prompt = false)
    (hpreamble : ¬ flavor.promptText <+: flavor.preamble) (answer : Text → Except Text Text) :
    ∀ (lines : List Text) {e : Engine α} {stored : Stored},
      Ready flavor defaultSize e.session stored →
      Opening.executeEach ⟨flavor, defaultSize, .pure answer⟩ stored lines =
        (.ok (Screen.executeAll (.pure answer) e stored lines).1,
          (Screen.executeAll (.pure answer) e stored lines).2)
  | [], _, _, _ => rfl
  | line :: lines, e, stored, h => by
    obtain ⟨s, hstart, hfresh⟩ := start_ready hprompt defaultSize stored
    obtain ⟨hanswer, hstore, hready⟩ := h.executeOnce hpreamble answer line
    have hs : Ready flavor defaultSize (Engine.ofSession s : Engine Empty).session stored := hfresh
    obtain ⟨hanswer', hstore', -⟩ := hs.executeOnce hpreamble answer line
    have hone : Opening.executeAll ⟨flavor, defaultSize, .pure answer⟩ stored [line] =
        (.ok [(Screen.executeOnce (.pure answer) e stored line).answer],
          (Screen.executeOnce (.pure answer) e stored line).store) := by
      unfold Opening.executeAll
      rw [hstart, hanswer, hstore, ← hanswer', ← hstore']
      rfl
    have hrest := Ready.executeEach hprompt hpreamble answer lines hready
    unfold Opening.executeEach
    rw [hone]
    dsimp only
    rw [hrest]
    rfl

theorem Screen.length_executeAll {σ α : Type} [Store σ] (evaluator : Evaluator σ) :
    ∀ (lines : List Text) (e : Engine α) (store : σ),
      (executeAll evaluator e store lines).1.length = lines.length
  | [], _, _ => rfl
  | line :: lines, e, store => by
    rw [executeAll, List.length_cons, List.length_cons, length_executeAll evaluator lines]

/-- In memory one session goes as a session for each expression does. -/
theorem executeAll_memory {flavor : Flavor} (hprompt : Text.allBlank flavor.prompt = false)
    (hpreamble : ¬ flavor.promptText <+: flavor.preamble) (answer : Text → Except Text Text)
    (defaultSize : Nat) (stored : Stored) (lines : List Text) :
    ∃ printed after, printed.length = lines.length ∧
      Opening.executeAll ⟨flavor, defaultSize, .pure answer⟩ stored lines = (.ok printed, after) ∧
      Opening.executeEach ⟨flavor, defaultSize, .pure answer⟩ stored lines =
        (.ok printed, after) := by
  obtain ⟨s, hstart, hready⟩ := start_ready hprompt defaultSize stored
  have hs : Ready flavor defaultSize (Engine.ofSession s : Engine Empty).session stored := hready
  refine ⟨_, _, Screen.length_executeAll _ lines _ _, ?_,
    hs.executeEach hprompt hpreamble answer lines⟩
  unfold Opening.executeAll
  rw [hstart]

/-! ### Runs on a store that does not fail -/

/-- One session that executes all expressions, and a session for each of them, on a store that is
    healthy at the start: both print the same texts, one for each expression, and both leave the
    same stored. -/
theorem Opening.executeAll_eq_executeEach {σ : Type} [Store σ] {content : σ → Stored}
    {healthy : σ → Prop} {fits : Nat → Prop} (hstore : Store.Reliable content healthy fits)
    (flavor : Flavor) (hprompt : Text.allBlank flavor.prompt = false)
    (hpreamble : ¬ flavor.promptText <+: flavor.preamble) (answer : Text → Except Text Text)
    (defaultSize : Nat) (store : σ) (hhealthy : healthy store) (lines : List Text) :
    let opening : Opening σ := ⟨flavor, defaultSize, .pure answer⟩
    ∃ printed, printed.length = lines.length ∧ (opening.executeAll store lines).1 = .ok printed ∧
      (opening.executeEach store lines).1 = .ok printed ∧
      content (opening.executeAll store lines).2 = content (opening.executeEach store lines).2 := by
  obtain ⟨printed, after, hlength, hall, heach⟩ :=
    executeAll_memory hprompt hpreamble answer defaultSize (content store) lines
  have hagrees := Evaluator.agrees_pure answer fun s stored => healthy s ∧ content s = stored
  obtain ⟨hallPrinted, -, hallAfter⟩ :=
    Opening.executeAll_sim flavor defaultSize hstore hagrees ⟨hhealthy, rfl⟩ lines
  obtain ⟨heachPrinted, -, heachAfter⟩ :=
    Opening.executeEach_sim flavor defaultSize hstore hagrees lines ⟨hhealthy, rfl⟩
  rw [hall] at hallPrinted hallAfter
  rw [heach] at heachPrinted heachAfter
  exact ⟨printed, hlength, hallPrinted.symm, heachPrinted.symm, hallAfter.trans heachAfter.symm⟩

/-- A file with commands that are more than a new buffer size, and a reset after them. -/
theorem Opening.executeAll_eq_executeEach_of_commands :
    ∃ (o : Opening Place) (place : Place) (lines printed : List Text),
      place.backing = .file ['h'] ∧
      place.held.commands o.flavor.title = [['a'], ['b'], ['c']] ∧
      lines = ["clear".toList, "buffer 2".toList, "x > y".toList, "reset".toList,
        "buffer".toList] ∧
      printed = [Screen.wipe, "Buffer size set to 2".toList, "=> y".toList,
        Screen.wipe ++ "T\nType 'help' for a list of commands.".toList,
        "Buffer size: 2".toList] ∧
      (o.executeAll place lines).1 = .ok printed ∧ (o.executeEach place lines).1 = .ok printed ∧
      (o.executeAll place lines).2.held = (o.executeEach place lines).2.held := by
  let flavor : Flavor := ⟨['T'], ['>'], []⟩
  let text : Text := "\x7b\"command_history\":\x7b\"T\":[\"a\",\"b\",\"c\"]\x7d\x7d".toList
  let place : Place := .ofText text
  let stored : Stored := ⟨Buckets.empty.insert ['T'] [['a'], ['b'], ['c']], none⟩
  let lines : List Text := ["clear".toList, "buffer 2".toList, "x > y".toList, "reset".toList,
    "buffer".toList]
  obtain ⟨hhealthy, hheld⟩ : place.Healthy ∧ place.held = stored :=
    Place.healthy_of_read (by decide +kernel) (by decide +kernel) (by decide +kernel)
  obtain ⟨printed, -, hall, heach, hafter⟩ :=
    executeAll_eq_executeEach Place.reliable flavor (by decide) (by decide) .ok 2 place hhealthy
      lines
  -- on a healthy file the same is printed as in memory, where it is evaluated
  obtain ⟨hmemory, -⟩ := Opening.executeAll_sim flavor 2 Place.reliable
    (Evaluator.agrees_pure .ok _) ⟨hhealthy, hheld⟩ lines
  have hprinted : (Opening.executeAll ⟨flavor, 2, .pure .ok⟩ stored lines).1 =
      .ok [Screen.wipe, "Buffer size set to 2".toList, "=> y".toList,
        Screen.wipe ++ "T\nType 'help' for a list of commands.".toList,
        "Buffer size: 2".toList] := by
    decide +kernel
  refine ⟨⟨flavor, 2, .pure .ok⟩, place, lines, printed, rfl, ?_, rfl, ?_, hall, heach, hafter⟩
  · rw [hheld]
    rfl
  · exact Except.ok.inj (hall.symm.trans (hmemory.symm.trans hprinted))

end Console
