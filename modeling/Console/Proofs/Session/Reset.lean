import Console.Proofs.Screen
import Console.Proofs.Session.Saving
import Console.Proofs.Session.Shielded
import Console.Proofs.Session.Trail

/-! Resets, on a store of which any call may fail. Whatever the store answers, a reset leaves the
    preamble and an empty history. If a call fails the limit stays as it was, and else it is the
    stored size, or the default while none is stored. Every other operation keeps the limit tied to
    the stored size, as long as the latest save of the size was not refused. So in a run a reset
    does not change the buffer size. -/

namespace Console

variable {σ : Type} [Store σ] {content : σ → Console.Stored}

/-! ### Outcomes -/

namespace Running

/-- A reset is refused when it saves, or when it loads what it has saved, or it succeeds. -/
theorem reset_outcome (h : Store.Fallible content) (r : Running σ) :
    let title := r.session.flavor.title
    let saved := Store.saveHistory r.store title []
    let kept := History.empty r.session.history.limit
    (∃ e, saved.1 = .error e ∧ r.reset.1 = .error e ∧ r.reset.2.session.history = kept ∧
        content r.reset.2.store = content r.store) ∨
      saved.1 = .ok () ∧ content r.reset.2.store =
        { content r.store with buckets := (content r.store).buckets.insert title [] } ∧
        ((∃ e, r.reset.1 = .error e ∧ r.reset.2.session.history = kept) ∨
          r.reset.1 = .ok () ∧ r.reset.2.session.history =
            .empty ((content r.store).size.getD r.session.defaultSize)) := by
  intro title saved kept
  have hsave := h.saveHistory_cases r.store title []
  obtain ⟨e, herror, hreset, hstore, hhistory⟩ | ⟨hok, hstore, hloaded⟩ := reset_cases r
  · obtain ⟨hsaved, -⟩ | ⟨-, hsame⟩ := hsave
    · cases herror.symm.trans hsaved
    · exact .inl ⟨e, herror, hreset, hhistory, (congrArg content hstore).trans hsame⟩
  obtain ⟨-, hcontent⟩ | ⟨⟨e, hrefused⟩, -⟩ := hsave
  · obtain ⟨hsame, hload⟩ := h.load_content title r.session.defaultSize
      (Store.saveHistory r.store title []).2
    have hafter := (congrArg content hstore).trans (hsame.trans hcontent)
    refine .inr ⟨hok, hafter, ?_⟩
    obtain ⟨e, -, hreset, hhistory⟩ | ⟨history, hread, hreset, hhistory⟩ := hloaded
    · exact .inl ⟨e, hreset, hhistory⟩
    -- the commands that are loaded are the empty list that has just been saved
    · refine .inr ⟨hreset, hhistory.trans ((hload history hread).trans ?_)⟩
      rw [hcontent, Console.Stored.commands, Buckets.find?_insert_self]
      rfl
  · cases hok.symm.trans hrefused

/-- A reset that fails keeps the limit. -/
theorem reset_of_error (h : Store.Fallible content) {r : Running σ} {e : Fault}
    (he : r.reset.1 = .error e) :
    r.reset.2.session.history = .empty r.session.history.limit := by
  obtain ⟨_, -, -, hhistory, -⟩ | ⟨-, -, ⟨_, -, hhistory⟩ | ⟨hreset, -⟩⟩ := reset_outcome h r
  · exact hhistory
  · exact hhistory
  · exact nomatch he.symm.trans hreset

/-- A reset that cannot save leaves the content of the store as it is. -/
theorem reset_of_refused (h : Store.Fallible content) {r : Running σ} {e : Fault}
    (he : (Store.saveHistory r.store r.session.flavor.title []).1 = .error e) :
    r.reset.1 = .error e ∧ content r.reset.2.store = content r.store := by
  obtain ⟨e', hrefused, hreset, -, hsame⟩ | ⟨hok, -⟩ := reset_outcome h r
  · obtain rfl := Except.error.inj (hrefused.symm.trans he)
    exact ⟨hreset, hsame⟩
  · exact nomatch he.symm.trans hok

/-- A reset that succeeds has saved that there are no commands, and has loaded the stored size. -/
theorem reset_of_ok (h : Store.Fallible content) {r : Running σ} (hok : r.reset.1 = .ok ()) :
    content r.reset.2.store = { content r.store with
        buckets := (content r.store).buckets.insert r.session.flavor.title [] } ∧
      r.reset.2.session.history =
        .empty ((content r.store).size.getD r.session.defaultSize) := by
  obtain ⟨e, -, hreset, -⟩ | ⟨-, hafter, ⟨e, hreset, -⟩ | ⟨-, hhistory⟩⟩ := reset_outcome h r
  · exact nomatch hok.symm.trans hreset
  · exact nomatch hok.symm.trans hreset
  · exact ⟨hafter, hhistory⟩

/-- A reset empties the history, and keeps the limit or takes the stored size. -/
theorem reset_history (h : Store.Fallible content) (r : Running σ) :
    r.reset.2.session.history = .empty r.session.history.limit ∨
      r.reset.2.session.history =
        .empty ((content r.store).size.getD r.session.defaultSize) := by
  cases hreset : r.reset.1 with
  | error e => exact .inl (reset_of_error h hreset)
  | ok => exact .inr (reset_of_ok h hreset).2

theorem reset_limit (h : Store.Fallible content) (r : Running σ) :
    r.reset.2.session.history.limit = r.session.history.limit ∨
      r.reset.2.session.history.limit = (content r.store).size.getD r.session.defaultSize := by
  obtain hhistory | hhistory := reset_history h r
  · exact .inl (by rw [hhistory, History.empty])
  · exact .inr (by rw [hhistory, History.empty])

end Running

/-- The default size of a session never changes. -/
theorem Session.Reachable.defaultSize_eq {opening : Opening σ} {s : Session}
    (h : Reachable opening s) : s.defaultSize = opening.defaultSize := by
  induction h with
  | opened hstart =>
    obtain ⟨-, history, -, rfl⟩ := start_ok hstart
    rfl
  | @move s store m _ ih =>
    obtain ⟨_, _, _, hs, -⟩ := Running.move_session opening.evaluator ⟨s, store, []⟩ m
    rw [hs]
    exact ih

/-! ### Saves of the size -/

/-- A store that knows how the latest save of the size went. -/
structure Ledger (σ : Type) where
  store : σ
  sizeSave : Option (Except Fault Unit)

namespace Ledger

/-- Makes a call that is no save of the size. -/
def call {σ β : Type} (l : Ledger σ) (c : β × σ) : β × Ledger σ := (c.1, { l with store := c.2 })

instance : Store (Ledger σ) where
  loadHistory l title := l.call (Store.loadHistory l.store title)
  saveHistory l title commands := l.call (Store.saveHistory l.store title commands)
  loadSize l := l.call (Store.loadSize l.store)
  saveSize l size :=
    let c := Store.saveSize l.store size
    (c.1, ⟨c.2, some c.1⟩)

/-- The ledger has no part in the answers. -/
theorem store_hom : Store.Hom (Ledger.store (σ := σ)) :=
  .of_calls (fun _ _ => rfl) (fun _ _ _ => rfl) (fun _ => rfl) fun _ _ => rfl

theorem fallible (h : Store.Fallible content) :
    Store.Fallible fun l : Ledger σ => content l.store :=
  ⟨fun l title => h.loadHistory l.store title, fun l title cs => h.saveHistory l.store title cs,
    fun l => h.loadSize l.store, fun l size => h.saveSize l.store size⟩

end Ledger

/-- An evaluator beside a ledger, of which it does not know. -/
def Evaluator.ledgered {σ : Type} (e : Evaluator σ) : Evaluator (Ledger σ) :=
  fun expression l => l.call (e expression l.store)

namespace Ledger

/-- Without a save of the size neither the stored size nor the ledger changes. -/
theorem same_of_trail (h : Store.Fallible content) {e : Evaluator σ} (hkeeps : e.Keeps content)
    {title : Text} {l l' : Ledger σ} (htrail : Store.Trail e.ledgered title false l l') :
    (content l'.store).size = (content l.store).size ∧ l'.sizeSave = l.sizeSave := by
  induction htrail with
  | refl => exact ⟨rfl, rfl⟩
  | @loadSize l₁ _ ih =>
    exact ⟨(congrArg Stored.size (h.loadSize_content l₁.store)).trans ih.1, ih.2⟩
  | @loadHistory l₁ _ ih =>
    exact ⟨(congrArg Stored.size (h.loadHistory_content l₁.store title)).trans ih.1, ih.2⟩
  | @saveHistory l₁ commands _ ih =>
    have hsize : (content (Store.saveHistory l₁.store title commands).2).size =
        (content l₁.store).size := by
      obtain ⟨-, hsaved⟩ | ⟨-, hsame⟩ := h.saveHistory_cases l₁.store title commands
      · rw [hsaved]
      · rw [hsame]
    exact ⟨hsize.trans ih.1, ih.2⟩
  | saveSize _ hsized _ _ => exact nomatch hsized
  | @answer l₁ expression _ ih =>
    exact ⟨(congrArg Stored.size (hkeeps expression l₁.store)).trans ih.1, ih.2⟩

end Ledger

/-! ### The limit of a running session -/

namespace Running

/-- The limit is the stored size, or the default while none is stored, unless the latest save of the
    size was refused. -/
def Tied (content : σ → Console.Stored) (r : Running (Ledger σ)) : Prop :=
  (∀ e, r.store.sizeSave ≠ some (.error e)) →
    r.session.history.limit = (content r.store.store).size.getD r.session.defaultSize

variable {r r' : Running (Ledger σ)} {e : Evaluator σ}

/-- An operation that neither saves a size nor changes the limit. -/
theorem Tied.of_trail (h : Store.Fallible content) (hkeeps : e.Keeps content)
    (htrail : Store.Trail e.ledgered r.session.flavor.title false r.store r'.store)
    (hlimit : r'.session.history.limit = r.session.history.limit)
    (hdefault : r'.session.defaultSize = r.session.defaultSize) (hr : r.Tied content) :
    r'.Tied content := by
  obtain ⟨hsize, hsave⟩ := Ledger.same_of_trail h hkeeps htrail
  unfold Tied
  rw [hsize, hsave, hlimit, hdefault]
  exact hr

/-- A size that is saved is the limit then. -/
theorem setBufferSize_tied (h : Store.Fallible content) (r : Running (Ledger σ)) (size : Nat) :
    (r.setBufferSize size).Tied content := by
  obtain ⟨r', hsession, hstore, heq⟩ := setBufferSize_eq r size
  have htied : r'.Tied content := by
    intro hsaved
    rw [hstore] at hsaved ⊢
    rw [hsession]
    obtain hmade | ⟨⟨e, hrefused⟩, -⟩ := h.saveSize r.store.store size
    · have hcontent := congrArg Prod.snd hmade
      exact (congrArg (fun c => (Console.Stored.size c).getD _) hcontent).symm
    · exact absurd (congrArg some hrefused) (hsaved e)
  rw [heq]
  split
  · exact htied.of_trail h (e := .pure .ok) (fun _ _ => rfl) (persist_trail _ r')
      (by rw [persist_session]) (by rw [persist_session])
  · exact htied

theorem addCommand_tied (h : Store.Fallible content) (hkeeps : e.Keeps content)
    (hr : r.Tied content) (command : Text) : (r.addCommand command).Tied content := by
  have hsession := addCommand_session r command
  exact hr.of_trail h hkeeps (addCommand_trail e.ledgered r command) (by rw [hsession]; rfl)
    (by rw [hsession])

theorem reset_tied (h : Store.Fallible content) (hkeeps : e.Keeps content) (hr : r.Tied content) :
    r.reset.2.Tied content := by
  have htrail := reset_trail e.ledgered (b := false) r
  obtain ⟨_, hsession⟩ := reset_session r
  have hdefault : r.reset.2.session.defaultSize = r.session.defaultSize := by rw [hsession]
  obtain hlimit | hlimit := reset_limit (Ledger.fallible h) r
  · exact hr.of_trail h hkeeps htrail hlimit hdefault
  · intro _
    rw [hlimit, (Ledger.same_of_trail h hkeeps htrail).1, hdefault]

theorem runSpecial_tied (h : Store.Fallible content) (hkeeps : e.Keeps content)
    (hr : r.Tied content) (command : Command) : (r.runSpecial command).2.Tied content := by
  cases command with
  | clear | help | showBufferSize => exact hr
  | setBufferSize size =>
    exact setBufferSize_tied h (r.record (.special (.setBufferSize size))) size
  | reset =>
    have hrecord : (r.record (.special .reset)).Tied content := hr
    unfold Tied
    rw [runSpecial_reset_session, runSpecial_reset_store]
    exact reset_tied h hkeeps hrecord

theorem runExpression_tied (h : Store.Fallible content) (hkeeps : e.Keeps content)
    (hr : r.Tied content) (expression : Text) :
    (r.runExpression e.ledgered expression).Tied content := by
  have hsession := runExpression_session r e.ledgered expression
  refine hr.of_trail h hkeeps (runExpression_trail e.ledgered r expression) ?_ ?_
  · rw [hsession]
    split <;> rfl
  · rw [hsession]
    split <;> rfl

theorem evaluate_tied (h : Store.Fallible content) (hkeeps : e.Keeps content)
    (hr : r.Tied content) (expression : Text) :
    (r.evaluate e.ledgered expression).2.Tied content := by
  have hadded := addCommand_tied h hkeeps hr expression
  unfold evaluate
  cases Command.parse? expression with
  | some command => exact runSpecial_tied h hkeeps hadded command
  | none => exact runExpression_tied h hkeeps hadded expression

/-- Every move keeps the limit tied to the stored size. -/
theorem Tied.move (h : Store.Fallible content) (hkeeps : e.Keeps content) (hr : r.Tied content)
    (m : Move) : (r.move e.ledgered m).Tied content := by
  cases m with
  | rest => exact hr
  | previous =>
    exact hr.of_trail (r := r) h hkeeps .refl (History.previous_limit r.session.history) rfl
  | next => exact hr.of_trail (r := r) h hkeeps .refl (History.next_limit r.session.history) rfl
  | commit full =>
    have hreplace : (r.mapTranscript (·.replace full)).Tied content := hr
    exact evaluate_tied h hkeeps hreplace (r.session.transcript.extract full)
  | evaluate expression => exact evaluate_tied h hkeeps hr expression
  | append command => exact addCommand_tied h hkeeps hr command
  | setBufferSize size => exact setBufferSize_tied h r size
  | reset => exact reset_tied h hkeeps hr

/-- A move that resets the session keeps the limit or takes the stored size. -/
theorem move_limit_of_restarts (h : Store.Fallible content) (hkeeps : e.Keeps content) {m : Move}
    (hm : m.restarts r.session.transcript = true) :
    (r.move e.ledgered m).session.history.limit = r.session.history.limit ∨
      (r.move e.ledgered m).session.history.limit =
        (content r.store.store).size.getD r.session.defaultSize := by
  have hevaluate (expression : Text) (hparse : Command.parse? expression = some .reset)
      (r : Running (Ledger σ)) :
      let after := (r.evaluate e.ledgered expression).2.session.history.limit
      after = r.session.history.limit ∨
        after = (content r.store.store).size.getD r.session.defaultSize := by
    have hreset := reset_limit (Ledger.fallible h)
      ((r.addCommand expression).record (.special .reset))
    have hsession : ((r.addCommand expression).record (.special .reset)).session = _ :=
      addCommand_session r expression
    obtain ⟨hsize, -⟩ := Ledger.same_of_trail h hkeeps (addCommand_trail e.ledgered r expression)
    unfold evaluate
    rw [hparse]
    dsimp only
    rw [runSpecial_reset_session]
    rw [hsession] at hreset
    exact hsize ▸ hreset
  cases m with
  | rest | append _ | setBufferSize _ | previous | next => exact nomatch hm
  | commit full => exact hevaluate _ (eq_of_beq hm) (r.mapTranscript (·.replace full))
  | evaluate expression => exact hevaluate _ (eq_of_beq hm) r
  | reset => exact reset_limit (Ledger.fallible h) r

end Running

/-! ### Runs -/

namespace Running

section Runs

/-- Makes moves, one after the other. -/
def run (evaluator : Evaluator σ) (r : Running σ) (moves : List Move) : Running σ :=
  moves.foldl (move evaluator) r

variable {e : Evaluator σ} {r : Running (Ledger σ)} {r' : Running σ}

/-- A move goes alike with the ledger and without. -/
theorem move_ledgered (h : Sim (fun l s => l.store = s) r r') (m : Move) :
    Sim (fun l s => l.store = s) (r.move e.ledgered m) (r'.move e m) := by
  have hR := Ledger.store_hom (σ := σ) r.session.flavor.title
  have he : e.ledgered.Agrees (fun l s => l.store = s) e := by
    rintro expression l _ rfl
    exact ⟨rfl, rfl⟩
  cases m with
  | rest => exact h
  | commit full => exact (commit_sim hR he h full).store
  | evaluate expression => exact (evaluate_sim hR he h expression).store
  | append command => exact addCommand_sim hR h command
  | setBufferSize size => exact setBufferSize_sim hR h trivial
  | reset => exact (reset_sim hR h).store
  | previous | next =>
    obtain ⟨session, l, s, events, rfl, rfl, hls⟩ := h.exists_eq
    exact .mk_eq hls

theorem run_ledgered : ∀ (moves : List Move) {r : Running (Ledger σ)} {r' : Running σ},
    Sim (fun l s => l.store = s) r r' →
      Sim (fun l s => l.store = s) (r.run e.ledgered moves) (r'.run e moves)
  | [], _, _, h => h
  | m :: moves, _, _, h => run_ledgered moves (move_ledgered h m)

end Runs

/-- How the latest save of the size went in a run, if there was one. -/
def sizeSave (evaluator : Evaluator σ) (r : Running σ) (moves : List Move) :
    Option (Except Fault Unit) :=
  (run evaluator.ledgered ⟨r.session, ⟨r.store, none⟩, r.events⟩ moves).store.sizeSave

theorem Tied.run {e : Evaluator σ} (h : Store.Fallible content) (hkeeps : e.Keeps content) :
    ∀ (moves : List Move) {r : Running (Ledger σ)}, r.Tied content →
      (r.run e.ledgered moves).Tied content
  | [], _, hr => hr
  | m :: moves, _, hr => Tied.run h hkeeps moves (hr.move h hkeeps m)

/-- A session that has just been opened has the limit that is stored. -/
theorem Tied.start (h : Store.Fallible content) {flavor : Flavor} {defaultSize : Nat}
    {store store' : σ} {s : Session}
    (hstart : Session.start flavor defaultSize store = (.ok s, store')) :
    Tied content ⟨s, ⟨store', none⟩, []⟩ := by
  obtain ⟨-, history, hload, rfl⟩ := Session.start_ok hstart
  obtain ⟨hcontent, hloaded⟩ := h.load_content flavor.title defaultSize store
  rw [hload] at hcontent hloaded
  intro _
  dsimp only at hcontent ⊢
  rw [hloaded history rfl, hcontent]
  rfl

/-- In a run that begins with the limit that is stored, a reset keeps the limit unless the latest
    save of the size was refused. -/
theorem run_limit_of_restarts (h : Store.Fallible content) {e : Evaluator σ}
    (hkeeps : e.Keeps content) {r : Running σ}
    (hr : Tied content ⟨r.session, ⟨r.store, none⟩, r.events⟩) (moves : List Move)
    (hsaved : ∀ fault, r.sizeSave e moves ≠ some (.error fault)) {m : Move}
    (hm : m.restarts (r.run e moves).session.transcript = true) :
    ((r.run e moves).move e m).session.history.limit = (r.run e moves).session.history.limit := by
  let beside := run e.ledgered ⟨r.session, ⟨r.store, none⟩, r.events⟩ moves
  have hrun : Sim (fun l s => l.store = s) beside (r.run e moves) :=
    run_ledgered moves ⟨rfl, rfl, rfl⟩
  have htied : beside.Tied content := Tied.run h hkeeps moves hr
  rw [hrun.session] at hm ⊢
  rw [(move_ledgered hrun m).session]
  obtain hsame | hstored := move_limit_of_restarts h hkeeps hm
  · exact hsame
  · exact hstored.trans (htied hsaved).symm

end Running

/-! ### Resets in every outcome -/

namespace Session

/-- A reset in a reachable state, whichever calls the store refuses. It leaves the preamble and an
    empty history, and changes nothing else in the session but perhaps the limit. A reset that fails
    keeps the limit, and if it could not save, then all that is stored is as before. A reset that
    succeeds has emptied the bucket of its title and nothing else, and has brought back the stored
    size. So in a run of a session that uses its store alone, no reset changes the limit unless the
    latest save of the size was refused. -/
theorem reset_outcomes (h : Store.Fallible content) (opening : Opening σ) :
    (∀ r : Running σ, Reachable opening r.session →
      let title := opening.flavor.title
      let preamble := opening.flavor.preamble
      let saved := Store.saveHistory r.store title []
      let limit := r.reset.2.session.history.limit
      let before := content r.store
      let after := content r.reset.2.store
      r.reset.2.session = { r.session with
        transcript := ⟨preamble, title, opening.flavor.prompt, preamble.length⟩
        history := ⟨[], limit, 0⟩ } ∧
      (∀ e, r.reset.1 = .error e → limit = r.session.history.limit) ∧
      (∀ e, saved.1 = .error e → r.reset.1 = .error e ∧ after = before) ∧
      (r.reset.1 = .ok () → after.buckets.find? title = some [] ∧
        (∀ other, other ≠ title → after.buckets.find? other = before.buckets.find? other) ∧
        after.size = before.size ∧ limit = before.size.getD opening.defaultSize)) ∧
    (opening.evaluator.Keeps content → ∀ {s : Session} {store store' : σ},
      start opening.flavor opening.defaultSize store = (.ok s, store') → ∀ moves : List Move,
      let r := Running.run opening.evaluator ⟨s, store', []⟩ moves
      (∀ e, Running.sizeSave opening.evaluator ⟨s, store', []⟩ moves ≠ some (.error e)) →
      ∀ m : Move, m.restarts r.session.transcript = true →
        (r.move opening.evaluator m).session.history.limit = r.session.history.limit) := by
  refine ⟨fun r hr => ?_, ?_⟩
  · intro title preamble saved limit before after
    obtain ⟨hflavor, htitle, hprompt, -⟩ := hr.waiting
    have htitle' : r.session.flavor.title = title := congrArg Flavor.title hflavor
    refine ⟨?_, fun e he => ?_, fun e he => ?_, fun hok => ?_⟩
    · obtain ⟨history, hsession⟩ := Running.reset_session r
      have hhistory : history = ⟨[], limit, 0⟩ := by
        obtain hempty | hempty := Running.reset_history h r
        all_goals
          dsimp only [limit]
          rw [hsession] at hempty ⊢
          rw [show history = _ from hempty]
          rfl
      rw [hsession, hhistory, Transcript.reset, Transcript.withText, Transcript.preamble, htitle,
        hprompt]
      rfl
    · have hhistory := Running.reset_of_error h he
      exact (congrArg History.limit hhistory :)
    · exact Running.reset_of_refused h (htitle' ▸ he)
    · obtain ⟨hafter, hhistory⟩ := Running.reset_of_ok h hok
      rw [htitle'] at hafter
      rw [hr.defaultSize_eq] at hhistory
      rw [show after = _ from hafter]
      exact ⟨Buckets.find?_insert_self _ title [],
        fun other hne => Buckets.find?_insert_of_ne _ hne [], rfl, congrArg History.limit hhistory⟩
  · intro hkeeps s store store' hstart moves
    dsimp only
    intro hsaved m hm
    exact Running.run_limit_of_restarts h hkeeps (.start h hstart) moves hsaved hm

/-- A reset that cannot load what it has saved. And a run in which a first save of the size is
    refused and a second one is made, and then a reset. -/
theorem reset_outcomes_under_refusals :
    ∃ (opening : Opening (Scheduled Stored)) (s : Session) (store store' : Scheduled Stored),
      start opening.flavor opening.defaultSize store = (.ok s, store') ∧
      s.history = ⟨[['x']], 3, 1⟩ ∧ store'.refusals = [false, true] ∧
      (let r : Running (Scheduled Stored) := ⟨s, store', []⟩
      r.reset.1 = .error (.refused "load_buffer_size".toList) ∧
      r.reset.2.session.history = ⟨[], 3, 0⟩ ∧
      r.reset.2.store.store = ⟨Buckets.empty.insert ['T'] [], some 3⟩ ∧
      let moves := [.evaluate "buffer 9".toList, .setBufferSize 4]
      let last := r.run opening.evaluator moves
      r.sizeSave opening.evaluator moves = some (.ok ()) ∧ last.store.store.size = some 4 ∧
      (last.move opening.evaluator (.evaluate "reset".toList)).session.history.limit =
        last.session.history.limit) := by
  let opening : Opening (Scheduled Stored) := ⟨⟨['T'], ['>'], []⟩, 2, .pure .ok⟩
  let stored : Stored := ⟨Buckets.empty.insert ['T'] [['x']], some 3⟩
  let s : Session := ⟨opening.flavor, .reset ⟨[], ['T'], ['>'], 0⟩, ⟨[['x']], 3, 1⟩, none, 2⟩
  have hstart : start opening.flavor opening.defaultSize
    (⟨stored, [false, false, false, true]⟩ : Scheduled Stored) =
      (.ok s, ⟨stored, [false, true]⟩) := rfl
  have hkeeps : opening.evaluator.Keeps Scheduled.store := fun _ _ => rfl
  obtain ⟨houtcomes, hruns⟩ := reset_outcomes Scheduled.fallible opening
  obtain ⟨hsession, hlimit, -⟩ := houtcomes ⟨s, ⟨stored, [false, true]⟩, []⟩ (.opened hstart)
  have hsaved : Running.sizeSave opening.evaluator ⟨s, ⟨stored, [false, true]⟩, []⟩
      [.evaluate "buffer 9".toList, .setBufferSize 4] = some (.ok ()) := by
    decide +kernel +zetaReduce
  refine ⟨opening, s, _, _, hstart, rfl, rfl, rfl, ?_, rfl, hsaved, ?_, ?_⟩
  · have hkept := hlimit _ rfl
    rw [hsession, hkept]
  · decide +kernel +zetaReduce
  · refine hruns hkeeps hstart _ (fun e he => ?_) _ (by decide +kernel +zetaReduce)
    exact nomatch hsaved.symm.trans he

end Session

end Console
