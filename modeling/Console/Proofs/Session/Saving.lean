import Console.Proofs.History
import Console.Proofs.Session.Reachable
import Console.Proofs.Store.Journal

/-! What the operations of a session do to a store of which any call may fail. Each operation
    reaches the bucket of the session's own title and no other. It ends with the commands of the
    session stored, as long as the latest save of them was not refused. -/

namespace Console

variable {σ : Type} [Store σ]

/-! ### Loading -/

/-- Loading a history changes nothing, and gives the commands of the title with the stored size. -/
theorem Store.Fallible.load_content {content : σ → Stored} (h : Fallible content) (title : Text)
    (defaultSize : Nat) (s : σ) :
    content (Session.loadHistory title defaultSize s).2 = content s ∧
      ∀ history, (Session.loadHistory title defaultSize s).1 = .ok history →
        history = .ofEntries ((content s).commands title) ((content s).size.getD defaultSize) := by
  have hsize := h.loadSize_content s
  unfold Session.loadHistory
  split
  · rename_i e s₁ heq
    rw [heq] at hsize
    exact ⟨hsize, fun history hh => nomatch hh⟩
  · rename_i size s₁ heq
    have hstored := h.loadSize_size heq
    rw [heq] at hsize
    have hentries := h.loadHistory_content s₁ title
    split
    · rename_i e s₂ heq₂
      rw [heq₂] at hentries
      exact ⟨hentries.trans hsize, fun history hh => nomatch hh⟩
    · rename_i entries s₂ heq₂
      have hfound := h.loadHistory_entries heq₂
      rw [heq₂] at hentries
      refine ⟨hentries.trans hsize, fun history hh => ?_⟩
      obtain rfl := Except.ok.inj hh
      have hsame : content s₁ = content s := hsize
      rw [Stored.commands, ← hstored, ← hsame, ← hfound]

/-- Loading a history behind a journal leaves the stored commands and the marks alone. -/
theorem Journal.load_same {content : σ → Stored} (h : Store.Fallible content) (title : Text)
    (defaultSize : Nat) (j : Journal σ) :
    Journal.Same content j (Session.loadHistory title defaultSize j).2 := by
  refine ⟨congrArg Stored.buckets ((fallible h).load_content title defaultSize j).1, ?_⟩
  obtain hs | hs := Session.loadHistory_store title defaultSize j <;> rw [hs] <;> rfl

/-- The commands that have been loaded are those that are stored. -/
theorem Journal.load_holds {content : σ → Stored} (h : Store.Fallible content) {title : Text}
    {defaultSize : Nat} {j : Journal σ} {history : History}
    (hload : (Session.loadHistory title defaultSize j).1 = .ok history) :
    Journal.Holds content (Session.loadHistory title defaultSize j).2 title history.entries := by
  obtain ⟨hcontent, hentries⟩ := (fallible h).load_content title defaultSize j
  intro _
  rw [hcontent, hentries history hload]
  rfl

/-! ### Operations of one session -/

/-- An evaluator beside a journal, of which it does not know. -/
def Evaluator.journaled (e : Evaluator σ) : Evaluator (Journal σ) :=
  fun expression j => j.call (e expression j.store)

/-- An evaluator is handed an expression, not the store: it may change its own surroundings, but
    nothing that is stored. -/
def Evaluator.Keeps (content : σ → Stored) (e : Evaluator σ) : Prop :=
  ∀ expression s, content (e expression s).2 = content s

namespace Running

/-- The stored commands of the session's title are those of the session, unless the latest save of
    them was refused. -/
def Stored (content : σ → Console.Stored) (r : Running (Journal σ)) : Prop :=
  r.store.Holds content r.session.flavor.title r.session.history.entries

/-- What an operation may do: it reaches no other title, and it ends with the commands of the
    session stored if it began so. -/
structure Tends (content : σ → Console.Stored) (r r' : Running (Journal σ)) : Prop where
  flavor : r'.session.flavor = r.session.flavor
  within : Journal.Within content r.session.flavor.title r.store r'.store
  stored : r.Stored content → r'.Stored content

variable {content : σ → Console.Stored} {r r' r'' : Running (Journal σ)}

omit [Store σ] in
theorem Tends.trans (h : Tends content r r') (h' : Tends content r' r'') : Tends content r r'' :=
  ⟨h'.flavor.trans h.flavor, h.within.trans (h.flavor ▸ h'.within), h'.stored ∘ h.stored⟩

omit [Store σ] in
/-- An operation that saves nothing leaves the commands of the session as they are. -/
theorem Tends.of_same (hflavor : r'.session.flavor = r.session.flavor)
    (hentries : r'.session.history.entries = r.session.history.entries)
    (hs : Journal.Same content r.store r'.store) : Tends content r r' := by
  refine ⟨hflavor, hs.within, fun h => ?_⟩
  unfold Stored
  rw [hflavor, hentries]
  exact h.same hs

omit [Store σ] in
theorem Tends.of_store_eq (hflavor : r'.session.flavor = r.session.flavor)
    (hentries : r'.session.history.entries = r.session.history.entries)
    (hstore : r'.store = r.store) : Tends content r r' :=
  .of_same hflavor hentries (hstore ▸ ⟨rfl, rfl⟩)

/-- An operation that saves last may change the commands of the session before. -/
theorem Tends.of_persist (h : Store.Fallible content)
    (hflavor : r'.session.flavor = r.session.flavor) (hs : Journal.Same content r.store r'.store) :
    Tends content r r'.persist := by
  have hsave := Journal.save h r'.store r'.session.flavor.title r'.session.history.entries
  refine ⟨by rw [persist_session, hflavor], ?_, fun _ => ?_⟩
  · rw [persist_store, ← hflavor]
    exact hs.within.trans hsave.1
  · unfold Stored
    rw [persist_store, persist_session]
    exact hsave.2

theorem addCommand_tends (h : Store.Fallible content) (r : Running (Journal σ)) (command : Text) :
    Tends content r (r.addCommand command) := by
  obtain ⟨r', hsession, hstore, heq⟩ := addCommand_eq r command
  rw [heq]
  exact .of_persist h (by rw [hsession]) (hstore ▸ ⟨rfl, rfl⟩)

theorem setBufferSize_tends (h : Store.Fallible content) (r : Running (Journal σ)) (size : Nat) :
    Tends content r (r.setBufferSize size) := by
  obtain ⟨r', hsession, hstore, heq⟩ := setBufferSize_eq r size
  have hflavor : r'.session.flavor = r.session.flavor := by rw [hsession]
  have hsame : Journal.Same content r.store r'.store := by
    rw [hstore]
    exact ⟨(Journal.fallible h).saveSize_buckets r.store size, rfl⟩
  rw [heq]
  cases hcut : (r.session.history.setLimit size).1 with
  | true => exact .of_persist h hflavor hsame
  | false => exact .of_same hflavor ((congrArg (·.history.entries) hsession).trans
      (History.setLimit_entries hcut)) hsame

/-- A reset saves that there are no commands, and then holds none whether or not it can load them.
    -/
theorem reset_tends (h : Store.Fallible content) (r : Running (Journal σ)) :
    Tends content r r.reset.2 := by
  obtain ⟨history, hsession⟩ := reset_session r
  have hflavor : r.reset.2.session.flavor = r.session.flavor := by rw [hsession]
  obtain ⟨hwithin, hsaved⟩ := Journal.save h r.store r.session.flavor.title []
  obtain ⟨e, -, -, hstore, hempty⟩ | ⟨hok, hstore, hloaded⟩ := reset_cases r
  · refine ⟨hflavor, hstore ▸ hwithin, fun _ => ?_⟩
    unfold Stored
    rw [hstore, hflavor, hempty]
    exact hsaved
  · have hsame := Journal.load_same h r.session.flavor.title r.session.defaultSize
      (Store.saveHistory r.store r.session.flavor.title []).2
    refine ⟨hflavor, hstore ▸ hwithin.trans hsame.within, fun _ => ?_⟩
    unfold Stored
    rw [hstore, hflavor]
    obtain ⟨e, -, -, hempty⟩ | ⟨history, hload, -, heq⟩ := hloaded
    · rw [hempty]
      exact hsaved.same hsame
    -- the history that has been loaded is stored by any means, also if it is not the one just saved
    · rw [heq]
      exact Journal.load_holds h hload

theorem runSpecial_tends (h : Store.Fallible content) (r : Running (Journal σ))
    (command : Command) : Tends content r (r.runSpecial command).2 := by
  cases command with
  | clear | help | showBufferSize => exact .of_store_eq rfl rfl rfl
  | setBufferSize size =>
    have hrecord : Tends content r (r.record (.special (.setBufferSize size))) :=
      .of_store_eq rfl rfl rfl
    exact (hrecord.trans (setBufferSize_tends h _ size)).trans (.of_store_eq rfl rfl rfl)
  | reset =>
    have hrecord : Tends content r (r.record (.special .reset)) := .of_store_eq rfl rfl rfl
    have hreset := hrecord.trans (reset_tends h (r.record (.special .reset)))
    unfold runSpecial
    dsimp only
    split <;> rename_i heq <;> rw [heq] at hreset
    · exact hreset
    · exact hreset.trans (.of_store_eq rfl rfl rfl)

omit [Store σ] in
theorem runExpression_tends {evaluator : Evaluator σ} (hkeeps : evaluator.Keeps content)
    (r : Running (Journal σ)) (expression : Text) :
    Tends content r (r.runExpression evaluator.journaled expression) := by
  have hkept := hkeeps expression r.store.store
  unfold runExpression Evaluator.journaled
  generalize evaluator expression r.store.store = c at hkept ⊢
  rcases c with ⟨_ | _, s⟩
  · exact .of_same rfl rfl ⟨congrArg Console.Stored.buckets hkept, rfl⟩
  · exact .of_same rfl rfl ⟨congrArg Console.Stored.buckets hkept, rfl⟩

theorem evaluate_tends (h : Store.Fallible content) {evaluator : Evaluator σ}
    (hkeeps : evaluator.Keeps content) (r : Running (Journal σ)) (expression : Text) :
    Tends content r (r.evaluate evaluator.journaled expression).2 := by
  have hadd := addCommand_tends h r expression
  unfold evaluate
  cases Command.parse? expression with
  | some command => exact hadd.trans (runSpecial_tends h _ command)
  | none => exact hadd.trans (runExpression_tends hkeeps _ expression)

/-- No move of a session reaches another title, and each ends with the commands of the session
    stored or with a refused save. -/
theorem move_tends (h : Store.Fallible content) {evaluator : Evaluator σ}
    (hkeeps : evaluator.Keeps content) (r : Running (Journal σ)) (m : Move) :
    Tends content r (r.move evaluator.journaled m) := by
  cases m with
  | rest => exact .of_store_eq rfl rfl rfl
  | commit full =>
    have hreplace : Tends content r (r.mapTranscript (·.replace full)) := .of_store_eq rfl rfl rfl
    exact hreplace.trans (evaluate_tends h hkeeps _ (r.session.transcript.extract full))
  | evaluate expression => exact evaluate_tends h hkeeps r expression
  | append command => exact addCommand_tends h r command
  | setBufferSize size => exact setBufferSize_tends h r size
  | previous => exact .of_store_eq rfl (History.previous_entries r.session.history) rfl
  | next => exact .of_store_eq rfl (History.next_entries r.session.history) rfl
  | reset => exact reset_tends h r

end Running

end Console
