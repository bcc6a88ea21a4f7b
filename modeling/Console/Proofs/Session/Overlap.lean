import Console.Proofs.Session.Alone
import Console.Proofs.Session.Coherence
import Mathlib.Data.List.Induction
import Mathlib.Data.List.NodupEquivFin
import Mathlib.Data.List.Perm.Subperm

/-! Sessions of one title side by side, on a store that does not fail. A session loads the commands
    of its title when it is opened, and from then on it saves its own copy of them. So the commands
    that another session of the title records in between are not in its copy, and its next save
    takes them away again. As long as nobody records a command in such a state, everything that is
    recorded stays stored; and once somebody does, something stays lost. -/

namespace Console

/-! ### Steps that only record -/

/-- Whether an expression neither resets the session nor changes the buffer size. -/
def Command.recordsOnly (expression : Text) : Bool :=
  match parse? expression with
  | some .reset | some (.setBufferSize _) => false
  | some .clear | some .help | some .showBufferSize | none => true

/-- Whether a step opens a session, or evaluates an expression that is only recorded. -/
def Step.recordsOnly {α : Type} : Step α → Bool
  | .reopen => true
  | .evaluate expression => Command.recordsOnly expression
  | _ => false

section Definitions

variable {σ α : Type}

/-- The command that a step at a seat records under a title, if it records one. -/
def Seat.records (seat : Seat σ α) (title : Text) : Step α → List Text
  | .evaluate expression =>
    if seat.engine.isSome ∧ seat.opening.flavor.title = title then [expression] else []
  | _ => []

namespace Desk

variable [Store σ]

/-- The command that a step at a desk records under a title, if it records one. -/
def records (d : Desk σ α) (title : Text) (i : Nat) (k : Step α) : List Text :=
  match d.seats[i]? with
  | some seat => seat.records title k
  | none => []

/-- The commands that steps record under a title, in order. -/
def recorded (d : Desk σ α) (title : Text) : List (Nat × Step α) → List Text
  | [] => []
  | (i, k) :: steps => d.records title i k ++ (d.step i k).2.recorded title steps

/-- After these steps a session misses a command of the title: another session has recorded one, and
    the session has not been opened again since. -/
def Misses (d : Desk σ α) (title : Text) (i : Nat) (steps : List (Nat × Step α)) : Prop :=
  ∃ before j k later, steps = before ++ (j, k) :: later ∧ j ≠ i ∧
    (d.run before).records title j k ≠ [] ∧ (i, .reopen) ∉ later

/-- In these steps a session records a command of the title while it misses another one. -/
def Overwrites (d : Desk σ α) (title : Text) (steps : List (Nat × Step α)) : Prop :=
  ∃ before i k later, steps = before ++ (i, k) :: later ∧
    (d.run before).records title i k ≠ [] ∧ d.Misses title i before

/-! ### One step more -/

theorem run_append (d : Desk σ α) (front back : List (Nat × Step α)) :
    d.run (front ++ back) = (d.run front).run back := by
  induction front generalizing d with
  | nil => rfl
  | cons p front ih => exact ih (d.step p.1 p.2).2

theorem recorded_append (d : Desk σ α) (title : Text) (front back : List (Nat × Step α)) :
    d.recorded title (front ++ back) =
      d.recorded title front ++ (d.run front).recorded title back := by
  induction front generalizing d with
  | nil => rfl
  | cons p front ih =>
    rw [List.cons_append, recorded, recorded, ih, List.append_assoc]
    rfl

/-- A step among others and one more is that one, or it is among the others. -/
theorem exists_split_concat {β : Type} {R : List (Nat × β) → Nat → β → List (Nat × β) → Prop}
    {steps : List (Nat × β)} {i : Nat} {k : β} :
    (∃ before j l later, steps ++ [(i, k)] = before ++ (j, l) :: later ∧ R before j l later) ↔
      R steps i k [] ∨
        ∃ before j l later, steps = before ++ (j, l) :: later ∧
          R before j l (later ++ [(i, k)]) := by
  constructor
  · rintro ⟨before, j, l, later, heq, hr⟩
    obtain rfl | ⟨later, p, rfl⟩ := List.eq_nil_or_concat' later
    · obtain ⟨rfl, hp⟩ := List.append_inj' heq rfl
      obtain ⟨rfl, rfl⟩ := Prod.mk.inj (List.head_eq_of_cons_eq hp)
      exact .inl hr
    · rw [← List.cons_append, ← List.append_assoc] at heq
      obtain ⟨rfl, hp⟩ := List.append_inj' heq rfl
      obtain rfl := List.head_eq_of_cons_eq hp
      exact .inr ⟨before, j, l, later, rfl, hr⟩
  · rintro (hr | ⟨before, j, l, later, rfl, hr⟩)
    · exact ⟨steps, i, k, [], rfl, hr⟩
    · exact ⟨before, j, l, later ++ [(i, k)], by simp, hr⟩

variable {d : Desk σ α} {title : Text} {steps : List (Nat × Step α)} {i j : Nat} {k : Step α}

theorem misses_concat : d.Misses title j (steps ++ [(i, k)]) ↔
    (i ≠ j ∧ (d.run steps).records title i k ≠ []) ∨
      d.Misses title j steps ∧ (i, k) ≠ (j, .reopen) := by
  unfold Misses
  rw [exists_split_concat]
  refine or_congr ?_ ?_
  · simp
  · constructor
    · rintro ⟨before, n, l, later, rfl, hn, hr, hlater⟩
      rw [List.mem_append, not_or, List.mem_singleton] at hlater
      exact ⟨⟨before, n, l, later, rfl, hn, hr, hlater.1⟩, Ne.symm hlater.2⟩
    · rintro ⟨⟨before, n, l, later, rfl, hn, hr, hlater⟩, hk⟩
      refine ⟨before, n, l, later, rfl, hn, hr, ?_⟩
      rw [List.mem_append, not_or, List.mem_singleton]
      exact ⟨hlater, Ne.symm hk⟩

theorem overwrites_concat : d.Overwrites title (steps ++ [(i, k)]) ↔
    (d.run steps).records title i k ≠ [] ∧ d.Misses title i steps ∨ d.Overwrites title steps := by
  unfold Overwrites
  exact exists_split_concat

end Desk

end Definitions

variable {σ α : Type} [Store σ] {content : σ → Console.Stored} {healthy : σ → Prop}
  {fits : Nat → Prop}

/-! ### What a step does -/

/-- A session is opened with what is stored. -/
theorem Store.Reliable.load (h : Store.Reliable content healthy fits) {s : σ} (hs : healthy s)
    (title : Text) (defaultSize : Nat) :
    let c := Session.loadHistory title defaultSize s
    c.1 = .ok (.ofEntries ((content s).commands title) ((content s).size.getD defaultSize)) ∧
      healthy c.2 ∧ content c.2 = content s := by
  obtain ⟨hanswer, hhealthy, hcontent⟩ := Session.loadHistory_sim (h title) defaultSize ⟨hs, rfl⟩
  exact ⟨hanswer.symm, hhealthy, hcontent⟩

theorem Desk.openSeat_reliable (h : Store.Reliable content healthy fits) (seat : Seat σ α) {s : σ}
    (hs : healthy s) :
    healthy (openSeat seat s).2.2 ∧ content (openSeat seat s).2.2 = content s := by
  rw [openSeat_store]
  obtain hstart | hstart := Session.start_store seat.opening.flavor seat.opening.defaultSize s
  · rw [hstart]
    exact ⟨hs, rfl⟩
  · rw [hstart]
    exact (h.load hs seat.opening.flavor.title seat.opening.defaultSize).2

/-- Recording a command saves the commands of the session with it. -/
theorem Running.addCommand_content (h : Store.Reliable content healthy fits) {r : Running σ}
    (hr : healthy r.store) (command : Text) :
    healthy (r.addCommand command).store ∧
      content (r.addCommand command).store = { content r.store with
        buckets := (content r.store).buckets.insert r.session.flavor.title
          (r.session.history.push command).2.entries } := by
  obtain ⟨r', hsession, hstore, heq⟩ := addCommand_eq r command
  rw [heq, persist_store, hsession, hstore]
  exact h.saveHistory hr _ _

/-- An expression that is only recorded changes nothing else in the history and in the store. -/
theorem Running.evaluate_recorded (h : Store.Reliable content healthy fits)
    {evaluator : Evaluator σ} (hpreserves : evaluator.Preserves content healthy) {r : Running σ}
    (hr : healthy r.store) {expression : Text} (honly : Command.recordsOnly expression = true) :
    (r.evaluate evaluator expression).2.session.history =
        (r.session.history.push expression).2 ∧
      healthy (r.evaluate evaluator expression).2.store ∧
      content (r.evaluate evaluator expression).2.store = { content r.store with
        buckets := (content r.store).buckets.insert r.session.flavor.title
          (r.session.history.push expression).2.entries } := by
  obtain ⟨hhealthy, hadd⟩ := addCommand_content h hr expression
  have hreset : Command.parse? expression ≠ some .reset := by
    rintro hparse
    rw [Command.recordsOnly, hparse] at honly
    exact nomatch honly
  rw [evaluate_history evaluator r hreset, ← hadd]
  unfold Command.recordsOnly at honly
  unfold History.evaluated evaluate
  cases hparse : Command.parse? expression with
  | none =>
    refine ⟨rfl, ?_⟩
    dsimp only
    rw [runExpression_store]
    exact hpreserves expression _ hhealthy
  | some command =>
    rw [hparse] at honly
    cases command with
    | clear | help | showBufferSize => exact ⟨rfl, hhealthy, rfl⟩
    | reset | setBufferSize _ => exact nomatch honly

namespace Desk

/-- A step that only records opens the session with what is stored, or finds it closed, or adds its
    command to the copy of the session and saves the copy. -/
theorem stepSeat_recordsOnly (h : Store.Reliable content healthy fits) {seat : Seat σ α}
    (hproper : seat.Proper) (hpreserves : seat.opening.evaluator.Preserves content healthy) {s : σ}
    (hs : healthy s) {k : Step α} (honly : k.recordsOnly = true) :
    let title := seat.opening.flavor.title
    let seat' := (stepSeat seat s k).2.1
    let stored := content (stepSeat seat s k).2.2
    healthy (stepSeat seat s k).2.2 ∧
      ((k = .reopen ∧ stored = content s ∧ ∀ e, seat'.engine = some e → e.session.history =
          .ofEntries ((content s).commands title)
            ((content s).size.getD seat.opening.defaultSize)) ∨
        (k ≠ .reopen ∧ seat.engine = none ∧ (stepSeat seat s k).2 = (seat, s)) ∨
        ∃ expression e e', k = .evaluate expression ∧ seat.engine = some e ∧
          seat'.engine = some e' ∧ e'.session.history = (e.session.history.push expression).2 ∧
          stored = { content s with
            buckets := (content s).buckets.insert title e'.session.history.entries }) := by
  intro title seat' stored
  cases k with
  | reopen =>
    obtain ⟨hhealthy, hcontent⟩ := openSeat_reliable h seat hs
    refine ⟨hhealthy, .inl ⟨rfl, hcontent, fun e he => ?_⟩⟩
    obtain ⟨-, hload⟩ := openSeat_engine he
    obtain ⟨hhistory, -⟩ := h.load hs title seat.opening.defaultSize
    exact Except.ok.inj ((congrArg Prod.fst hload).symm.trans hhistory)
  | evaluate expression =>
    have hk : Step.evaluate (α := α) expression ≠ .reopen := fun h => nomatch h
    cases hengine : seat.engine with
    | none =>
      have hself := stepSeat_closed seat hengine s hk
      exact ⟨by rw [hself]; exact hs, .inr (.inl ⟨hk, rfl, hself⟩)⟩
    | some e =>
      obtain ⟨hsession, hstore⟩ := stepEngine_move seat.opening.evaluator e s (.evaluate expression)
      obtain ⟨hhistory, hhealthy, hcontent⟩ :=
        Running.evaluate_recorded (r := ⟨e.session, s, []⟩) h hpreserves hs honly
      have hstep := stepSeat_open seat hengine s hk
      have hhistory' := (congrArg Session.history hsession).trans hhistory
      have hafter := (congrArg Prod.snd hstep).trans hstore
      refine ⟨by rw [hafter]; exact hhealthy,
        .inr (.inr ⟨expression, e, _, rfl, rfl, congrArg (·.1.engine) hstep, hhistory', ?_⟩)⟩
      have hstored : stored = _ := congrArg content hafter
      rw [hstored, hhistory', show title = e.session.flavor.title from
        (congrArg Flavor.title (hproper e hengine)).symm]
      exact hcontent
  | _ => exact nomatch honly

end Desk

/-! ### What is kept -/

/-- A copy holds all commands, or it is shorter if something is lost. -/
structure Whole (lost : Prop) (all copy : List Text) : Prop where
  eq : ¬ lost → copy = all
  lt : lost → copy.length < all.length

namespace Whole

variable {lost lost' : Prop} {all copy : List Text}

theorem length_le (h : Whole lost all copy) : copy.length ≤ all.length := by
  by_cases hlost : lost
  · exact Nat.le_of_lt (h.lt hlost)
  · rw [h.eq hlost]

theorem congr (h : Whole lost all copy) (hiff : lost' ↔ lost) : Whole lost' all copy :=
  ⟨fun hn => h.eq (hn ∘ hiff.2), fun hl => h.lt (hiff.1 hl)⟩

/-- A command that is added to the copy is lost from no copy of all. -/
theorem concat (h : Whole lost all copy) (command : Text) :
    Whole lost (all ++ [command]) (copy ++ [command]) := by
  refine ⟨fun hn => congrArg (· ++ [command]) (h.eq hn), fun hl => ?_⟩
  have := h.lt hl
  simp only [List.length_append, List.length_singleton]
  omega

/-- A command that is not added to the copy is lost from it. -/
theorem miss (h : Whole lost all copy) (command : Text) (hlost : lost') :
    Whole lost' (all ++ [command]) copy := by
  refine ⟨fun hn => absurd hlost hn, fun _ => ?_⟩
  have := h.length_le
  rw [List.length_append, List.length_singleton]
  omega

/-- Where something is lost, some command is there less often. -/
theorem exists_count_lt (h : Whole lost all copy) (hlost : lost) :
    ∃ command, copy.count command < all.count command := by
  by_contra hnone
  have hall : ∀ command ∈ all, all.count command ≤ copy.count command :=
    fun command _ => Nat.le_of_not_lt fun hlt => hnone ⟨command, hlt⟩
  have hlength := (List.subperm_ext_iff.2 hall).length_le
  have := h.lt hlost
  omega

end Whole

namespace Desk

/-- All commands of a title: those that are stored at the start and those that are recorded. -/
def allCommands (content : σ → Stored) (d : Desk σ α) (title : Text)
    (steps : List (Nat × Step α)) : List Text :=
  (content d.store).commands title ++ d.recorded title steps

/-- After steps the store and every open session of the title hold all commands, but for what was
    overwritten and what a session misses. -/
structure Kept (content : σ → Stored) (healthy : σ → Prop) (openings : List (Opening σ))
    (d : Desk σ α) (title : Text) (steps : List (Nat × Step α)) : Prop where
  hosts : (d.run steps).Hosts openings
  healthy : healthy (d.run steps).store
  size : (content (d.run steps).store).size = (content d.store).size
  stored : Whole (d.Overwrites title steps) (d.allCommands content title steps)
    ((content (d.run steps).store).commands title)
  copy {i : Nat} {seat : Seat σ α} {e : Engine α} : (d.run steps).seats[i]? = some seat →
    seat.opening.flavor.title = title → seat.engine = some e →
      e.session.history.limit = (content d.store).size.getD seat.opening.defaultSize ∧
        Whole (d.Overwrites title steps ∨ d.Misses title i steps)
          (d.allCommands content title steps) e.session.history.entries

variable {openings : List (Opening σ)} {d : Desk σ α} {title : Text}
  {steps : List (Nat × Step α)} {i : Nat} {k : Step α}

theorem run_concat : d.run (steps ++ [(i, k)]) = ((d.run steps).step i k).2 :=
  run_append d steps [(i, k)]

theorem allCommands_concat : d.allCommands content title (steps ++ [(i, k)]) =
    d.allCommands content title steps ++ (d.run steps).records title i k := by
  rw [allCommands, allCommands, recorded_append, List.append_assoc, recorded, recorded,
    List.append_nil]

theorem overwrites_concat_of_nil (hrecords : (d.run steps).records title i k = []) :
    d.Overwrites title (steps ++ [(i, k)]) ↔ d.Overwrites title steps := by
  rw [overwrites_concat, hrecords]
  simp

theorem misses_concat_of_nil (hrecords : (d.run steps).records title i k = []) {j : Nat} :
    d.Misses title j (steps ++ [(i, k)]) ↔ d.Misses title j steps ∧ (i, k) ≠ (j, .reopen) := by
  rw [misses_concat, hrecords]
  simp

/-- A step that records nothing under the title. It may open sessions of the title, which take over
    what is stored. -/
theorem Kept.quiet (hkept : d.Kept content healthy openings title steps)
    (hrecords : (d.run steps).records title i k = [])
    (hhealthy : healthy ((d.run steps).step i k).2.store)
    (hsize : (content ((d.run steps).step i k).2.store).size = (content (d.run steps).store).size)
    (hstored : (content ((d.run steps).step i k).2.store).commands title =
      (content (d.run steps).store).commands title)
    (hseats : ∀ {j seat e}, ((d.run steps).step i k).2.seats[j]? = some seat →
      seat.opening.flavor.title = title → seat.engine = some e →
        (i, k) ≠ (j, .reopen) ∧ (d.run steps).seats[j]? = some seat ∨
          (i, k) = (j, .reopen) ∧ e.session.history =
            .ofEntries ((content (d.run steps).store).commands title)
              ((content (d.run steps).store).size.getD seat.opening.defaultSize)) :
    d.Kept content healthy openings title (steps ++ [(i, k)]) := by
  have hall : d.allCommands content title (steps ++ [(i, k)]) =
      d.allCommands content title steps := by
    rw [allCommands_concat, hrecords, List.append_nil]
  have hlost := overwrites_concat_of_nil hrecords
  refine ⟨?_, ?_, ?_, ?_, fun {j seat e} hj htitle he => ?_⟩
  · rw [run_concat]
    exact hkept.hosts.step i k
  · rw [run_concat]
    exact hhealthy
  · rw [run_concat, hsize, hkept.size]
  · rw [run_concat, hstored, hall]
    exact hkept.stored.congr hlost
  · rw [run_concat] at hj
    rw [hall, hlost, misses_concat_of_nil hrecords]
    obtain ⟨hk, hj⟩ | ⟨hk, hloaded⟩ := hseats hj htitle he
    · obtain ⟨hlimit, hwhole⟩ := hkept.copy hj htitle he
      exact ⟨hlimit, hwhole.congr (or_congr_right (and_iff_left hk))⟩
    · rw [hloaded, ← hkept.size]
      exact ⟨rfl, hkept.stored.congr (or_iff_left fun hm => hm.2 hk)⟩

/-- A session of the title records a command, for which there is room, and saves its copy. -/
theorem Kept.record (hkept : d.Kept content healthy openings title steps) {expression : Text}
    {seat seat' : Seat σ α} {e e' : Engine α} (hseat : (d.run steps).seats[i]? = some seat)
    (htitle : seat.opening.flavor.title = title) (he : seat.engine = some e)
    (hnext : ∀ n, ((d.run steps).step i (.evaluate expression)).2.seats[n]? =
      if i = n then some seat' else (d.run steps).seats[n]?)
    (hopening : seat'.opening = seat.opening) (he' : seat'.engine = some e')
    (hhistory : e'.session.history = (e.session.history.push expression).2)
    (hhealthy : healthy ((d.run steps).step i (.evaluate expression)).2.store)
    (hstore : content ((d.run steps).step i (.evaluate expression)).2.store =
      { content (d.run steps).store with
        buckets := (content (d.run steps).store).buckets.insert title e'.session.history.entries })
    (hroom : (d.allCommands content title (steps ++ [(i, .evaluate expression)])).length ≤
      (content d.store).size.getD seat.opening.defaultSize) :
    d.Kept content healthy openings title (steps ++ [(i, .evaluate expression)]) := by
  have hrecords : (d.run steps).records title i (.evaluate expression) = [expression] := by
    rw [records, hseat]
    exact if_pos ⟨by rw [he]; rfl, htitle⟩
  have hall : d.allCommands content title (steps ++ [(i, .evaluate expression)]) =
      d.allCommands content title steps ++ [expression] := by
    rw [allCommands_concat, hrecords]
  have hne : (d.run steps).records title i (.evaluate expression) ≠ [] := by
    rw [hrecords]
    exact List.cons_ne_nil _ _
  have hlost : d.Overwrites title (steps ++ [(i, .evaluate expression)]) ↔
      d.Overwrites title steps ∨ d.Misses title i steps := by
    rw [overwrites_concat, or_comm, and_iff_right hne]
  obtain ⟨hlimit, hwhole⟩ := hkept.copy hseat htitle he
  have hentries : e'.session.history.entries = e.session.history.entries ++ [expression] := by
    rw [hhistory]
    refine History.push_entries ?_
    rw [hlimit]
    rw [hall, List.length_append, List.length_singleton] at hroom
    exact (Nat.succ_le_succ hwhole.length_le).trans hroom
  refine ⟨?_, ?_, ?_, ?_, fun {j seat₁ e₁} hj htitle₁ he₁ => ?_⟩
  · rw [run_concat]
    exact hkept.hosts.step i _
  · rw [run_concat]
    exact hhealthy
  · rw [run_concat, hstore]
    exact hkept.size
  · rw [run_concat, hstore, Stored.commands, Buckets.find?_insert_self, hentries, hall]
    exact (hwhole.concat expression).congr hlost
  · rw [run_concat, hnext] at hj
    rw [hall, hlost]
    split at hj
    · rename_i hij
      subst hij
      obtain rfl := Option.some.inj hj
      obtain rfl := Option.some.inj (he'.symm.trans he₁)
      rw [hentries, hopening, hhistory]
      refine ⟨hlimit, (hwhole.concat expression).congr ?_⟩
      -- its own command is none that it misses
      rw [misses_concat]
      simp
    · rename_i hij
      obtain ⟨hlimit₁, hwhole₁⟩ := hkept.copy hj htitle₁ he₁
      exact ⟨hlimit₁, hwhole₁.miss expression (.inr (misses_concat.2 (.inl ⟨hij, hne⟩)))⟩

/-- No step that only records loses anything but what is overwritten, while there is room. -/
theorem Kept.step (h : Store.Reliable content healthy fits)
    (hpreserves : ∀ o ∈ openings, o.evaluator.Preserves content healthy)
    (hkept : d.Kept content healthy openings title steps) (honly : k.recordsOnly = true)
    (hroom : ∀ o ∈ openings, o.flavor.title = title →
      (d.allCommands content title (steps ++ [(i, k)])).length ≤
        (content d.store).size.getD o.defaultSize) :
    d.Kept content healthy openings title (steps ++ [(i, k)]) := by
  cases hseat : (d.run steps).seats[i]? with
  | none =>
    have hself := step_eq_self hseat k
    refine hkept.quiet (by rw [records, hseat]) (by rw [hself]; exact hkept.healthy)
      (by rw [hself]) (by rw [hself]) fun {j seat e} hj _ _ => ?_
    rw [hself] at hj
    refine .inl ⟨fun hk => ?_, hj⟩
    rw [(Prod.mk.inj hk).1] at hseat
    exact absurd (hj.symm.trans hseat) (Option.some_ne_none seat)
  | some seat =>
    have hmem := List.mem_of_getElem? (hkept.hosts.opening hseat)
    have hnext n := getElem?_step (n := n) hseat k
    have hstore : ((d.run steps).step i k).2.store = (stepSeat seat (d.run steps).store k).2.2 := by
      rw [step_eq hseat]
    have hopening := stepSeat_opening seat (d.run steps).store k
    obtain ⟨hhealthy, hcases⟩ :=
      stepSeat_recordsOnly h (hkept.hosts.proper hseat) (hpreserves _ hmem) hkept.healthy honly
    rw [← hstore] at hhealthy
    obtain ⟨rfl, hstored, hloaded⟩ | ⟨hk, hclosed, hself⟩ |
        ⟨expression, e, e', rfl, he, he', hhistory, hstored⟩ := hcases
    case inl =>
      refine hkept.quiet (by rw [records, hseat]; rfl) hhealthy (by rw [hstore, hstored])
        (by rw [hstore, hstored]) fun {j seat₁ e₁} hj htitle he => ?_
      rw [hnext] at hj
      split at hj
      · rename_i hij
        obtain rfl := Option.some.inj hj
        rw [hopening] at htitle ⊢
        exact .inr ⟨by rw [hij], htitle ▸ hloaded e₁ he⟩
      · rename_i hij
        exact .inl ⟨fun hk => hij (Prod.mk.inj hk).1, hj⟩
    case inr.inl =>
      refine hkept.quiet ?_ hhealthy (by rw [hstore, hself]) (by rw [hstore, hself])
        fun {j seat₁ e₁} hj _ _ => ?_
      · rw [records, hseat]
        cases k <;> simp [Seat.records, hclosed]
      · refine .inl ⟨fun heq => hk (Prod.mk.inj heq).2, ?_⟩
        rw [hnext, hself] at hj
        split at hj
        · rename_i hij
          rw [← hij, hseat, hj]
        · exact hj
    case inr.inr =>
      by_cases htitle : seat.opening.flavor.title = title
      · subst htitle
        exact hkept.record hseat rfl he hnext hopening he' hhistory hhealthy
          (by rw [hstore, hstored]) (hroom _ hmem rfl)
      · refine hkept.quiet ?_ hhealthy (by rw [hstore, hstored]) ?_
          fun {j seat₁ e₁} hj htitle₁ _ => ?_
        · rw [records, hseat]
          exact if_neg fun hopen => htitle hopen.2
        · rw [hstore, hstored, Stored.commands, Buckets.find?_insert_of_ne _ (Ne.symm htitle)]
          rfl
        · rw [hnext] at hj
          split at hj
          · obtain rfl := Option.some.inj hj
            rw [hopening] at htitle₁
            exact absurd htitle₁ htitle
          · exact .inl ⟨fun heq => absurd (Prod.mk.inj heq).2 (by simp), hj⟩

/-- Before the first step no session is open. -/
theorem kept_start (openings : List (Opening σ)) {store : σ} (hstore : healthy store)
    (title : Text) :
    (ofOpenings openings store : Desk σ α).Kept content healthy openings title [] := by
  have hnone {R : List (Nat × Step α) → Nat → Step α → List (Nat × Step α) → Prop} :
      ¬ ∃ before i k later, [] = before ++ (i, k) :: later ∧ R before i k later := by
    rintro ⟨before, i, k, later, heq, -⟩
    exact List.append_ne_nil_of_right_ne_nil before (List.cons_ne_nil _ _) heq.symm
  refine ⟨ofOpenings_hosts openings store, hstore, rfl, ?_, fun {i seat e} hi _ he => ?_⟩
  · refine ⟨fun _ => ?_, fun hlost => absurd hlost hnone⟩
    rw [allCommands, recorded, List.append_nil]
    rfl
  · exact absurd (he.symm.trans (ofOpenings_engine hi)) (Option.some_ne_none e)

theorem kept_run (h : Store.Reliable content healthy fits)
    (hpreserves : ∀ o ∈ openings, o.evaluator.Preserves content healthy) {store : σ}
    (hstore : healthy store) (title : Text) (steps : List (Nat × Step α))
    (honly : ∀ p ∈ steps, p.2.recordsOnly = true)
    (hroom : ∀ o ∈ openings, o.flavor.title = title →
      ((ofOpenings openings store).allCommands content title steps).length ≤
        (content store).size.getD o.defaultSize) :
    (ofOpenings openings store).Kept content healthy openings title steps := by
  induction steps using List.reverseRecOn with
  | nil => exact kept_start openings hstore title
  | append_singleton steps p ih =>
    obtain ⟨i, k⟩ := p
    refine Kept.step h hpreserves (ih (fun q hq => honly q (List.mem_append_left _ hq)) ?_)
      (honly (i, k) (by simp)) hroom
    -- what there is room for in the end there is room for before
    intro o ho htitle
    refine le_trans ?_ (hroom o ho htitle)
    rw [allCommands_concat, List.length_append]
    exact Nat.le_add_right _ _

/-! ### Titles that are served once -/

omit [Store σ] in
/-- Commands of a title are recorded at seats of the title. -/
theorem title_of_records (hd : d.Hosts openings) (hrecords : d.records title i k ≠ []) :
    (openings.map (·.flavor.title))[i]? = some title := by
  unfold records at hrecords
  split at hrecords
  · rename_i seat hseat
    unfold Seat.records at hrecords
    split at hrecords
    · obtain ⟨⟨-, htitle⟩, -⟩ := ite_ne_right_iff.1 hrecords
      rw [List.getElem?_map, hd.opening hseat, Option.map_some, htitle]
    · exact absurd rfl hrecords
  · exact absurd rfl hrecords

theorem not_overwrites_of_count_le (hd : d.Hosts openings)
    (honce : (openings.map (·.flavor.title)).count title ≤ 1) : ¬ d.Overwrites title steps := by
  rintro ⟨before, i, k, later, -, hrecords, before', j, l, later', -, hji, hmissed, -⟩
  obtain ⟨hi, heqi⟩ := List.getElem?_eq_some_iff.1 (title_of_records (hd.run before) hrecords)
  obtain ⟨hj, heqj⟩ := List.getElem?_eq_some_iff.1 (title_of_records (hd.run before') hmissed)
  have htwice : (openings.map (·.flavor.title)).Duplicate title := by
    rw [List.duplicate_iff_exists_distinct_get]
    obtain hlt | hlt := Nat.lt_or_gt_of_ne hji
    · exact ⟨⟨j, hj⟩, ⟨i, hi⟩, hlt, heqj.symm, heqi.symm⟩
    · exact ⟨⟨i, hi⟩, ⟨j, hj⟩, hlt, heqi.symm, heqj.symm⟩
  have hcount := (List.duplicate_iff_sublist.1 htwice).count_le title
  rw [List.count_cons_self, List.count_cons_self] at hcount
  omega

/-! ### Stores that answer alike -/

section Alike

variable {τ : Type} [Store τ] {R : σ → τ → Prop} {d' : Desk τ α}

omit [Store σ] [Store τ] in
theorem Sim.records (h : Sim R d d') : d'.records title i k = d.records title i k := by
  unfold Desk.records
  obtain ⟨hnone, hnone'⟩ | ⟨seat, seat', hseat, hseat', hsim⟩ := h.seat_cases i
  · rw [hnone, hnone']
  · rw [hseat, hseat']
    cases k with
    | evaluate expression =>
      simp only [Seat.records, hsim.engine, hsim.opening.flavor]
    | _ => rfl

theorem Sim.recorded (hR : Store.Sim fits R) :
    ∀ (steps : List (Nat × Step α)) {d : Desk σ α} {d' : Desk τ α}, Sim R d d' →
      (∀ p ∈ steps, p.2.Fits fits) → d'.recorded title steps = d.recorded title steps
  | [], _, _, _, _ => rfl
  | (i, k) :: steps, d, d', h, hfits => by
    obtain ⟨hk, hfits⟩ := List.forall_mem_cons.1 hfits
    rw [Desk.recorded, Desk.recorded, h.records, Sim.recorded hR steps (h.step hR i hk).2 hfits]

/-- On a store that does not fail all commands are those in memory. -/
theorem Sim.allCommands (hR : Store.Reliable content healthy fits) {memory : Desk Stored α}
    (h : Sim (fun s stored => healthy s ∧ content s = stored) d memory)
    (hfits : ∀ p ∈ steps, p.2.Fits fits) :
    d.allCommands content title steps = memory.allCommands id title steps := by
  rw [Desk.allCommands, Desk.allCommands, Sim.recorded hR steps h hfits, h.store.2]
  rfl

end Alike

/-! ### What is stored in the end -/

/-- Sessions side by side on one store that does not fail, several of one title among them, in any
    order of their steps: openings, and expressions that are only recorded and for which there is
    room. The commands of a title that are stored in the end are those that were stored at the start
    and then all that were recorded, in order, unless a session recorded a command of the title
    while it missed one; then some command is stored less often than it was recorded. Under a title
    that only one session has, nothing is overwritten. -/
theorem stored_eq_all_or_overwritten (h : Store.Reliable content healthy fits)
    (openings : List (Opening σ))
    (hpreserves : ∀ o ∈ openings, o.evaluator.Preserves content healthy) (store : σ)
    (hstore : healthy store) (title : Text) (steps : List (Nat × Step α))
    (honly : ∀ p ∈ steps, p.2.recordsOnly = true)
    (hroom : ∀ o ∈ openings, o.flavor.title = title →
      ((ofOpenings openings store).allCommands content title steps).length ≤
        (content store).size.getD o.defaultSize) :
    let start : Desk σ α := ofOpenings openings store
    let stored := (content (start.run steps).store).commands title
    let all := start.allCommands content title steps
    (¬ start.Overwrites title steps → stored = all) ∧
      (start.Overwrites title steps →
        ∃ command, stored.count command < all.count command) ∧
      ((openings.map (·.flavor.title)).count title ≤ 1 → stored = all) := by
  intro start stored all
  have hwhole := (kept_run h hpreserves hstore title steps honly hroom).stored
  refine ⟨hwhole.eq, hwhole.exists_count_lt, fun honce => hwhole.eq ?_⟩
  exact not_overwrites_of_count_le (ofOpenings_hosts openings store) honce

/-- Three sessions on one file, all open from the start. The two of one title overwrite each other,
    and the last of them to record stays; the one of the other title loses nothing. -/
theorem stored_eq_all_or_overwritten_of_pair :
    ∃ (openings : List (Opening Place)) (place : Place) (steps : List (Nat × Step Unit)),
      let start : Desk Place Unit := ofOpenings openings place
      let stored := (start.run steps).store.held
      place.backing = .file ['h'] ∧ openings.map (·.flavor.title) = [['A'], ['A'], ['B']] ∧
      steps.map (·.1) = [0, 1, 2, 0, 2, 1] ∧
      start.allCommands Place.held ['A'] steps = [['x'], ['1'], ['3']] ∧
      stored.commands ['A'] = [['x'], ['3']] ∧
      (∃ command, (stored.commands ['A']).count command <
        (start.allCommands Place.held ['A'] steps).count command) ∧
      stored.commands ['B'] = start.allCommands Place.held ['B'] steps ∧
      start.allCommands Place.held ['B'] steps = [['y'], ['2']] := by
  let opening (σ : Type) (title : Text) : Opening σ := ⟨⟨title, ['>'], []⟩, 9, .pure .ok⟩
  let openings (σ : Type) := [opening σ ['A'], opening σ ['A'], opening σ ['B']]
  let text : Text :=
    "\x7b\"command_history\":\x7b\"A\":[\"x\"],\"B\":[\"y\"]\x7d\x7d".toList
  let place : Place := .ofText text
  let memory : Stored := ⟨(Buckets.empty.insert ['A'] [['x']]).insert ['B'] [['y']], none⟩
  let steps : List (Nat × Step Unit) :=
    [(0, .reopen), (1, .reopen), (2, .reopen), (0, .evaluate ['1']), (2, .evaluate ['2']),
      (1, .evaluate ['3'])]
  let start : Desk Place Unit := ofOpenings (openings Place) place
  obtain ⟨hhealthy, hheld⟩ : place.Healthy ∧ place.held = memory :=
    Place.healthy_of_read (by decide +kernel) (by decide +kernel) (by decide +kernel)
  -- on a healthy file the same is recorded as in memory, where it is evaluated
  have hmemory : Sim (fun place stored => Place.Healthy place ∧ place.held = stored) start
      (ofOpenings (openings Stored) memory) := by
    refine ofOpenings_sim (.cons ?_ (.cons ?_ (.cons ?_ .nil))) ⟨hhealthy, hheld⟩
    all_goals exact ⟨rfl, rfl, Evaluator.agrees_pure .ok _⟩
  have hfits : ∀ p ∈ steps, p.2.Fits (· < Word.limit) := by simp [steps, Step.Fits]
  have hall title : start.allCommands Place.held title steps = _ :=
    hmemory.allCommands Place.reliable hfits
  have hstored := (Sim.run Place.reliable steps hmemory hfits).store.2
  have hpreserves : ∀ o ∈ openings Place, o.evaluator.Preserves Place.held Place.Healthy := by
    intro o ho
    simp only [openings, List.mem_cons, List.not_mem_nil, or_false] at ho
    obtain rfl | rfl | rfl := ho <;> exact fun _ _ h => ⟨h, rfl⟩
  have honly : ∀ p ∈ steps, p.2.recordsOnly = true := by decide +kernel
  have hroom (title : Text)
      (hlength : (start.allCommands Place.held title steps).length ≤ 9) :
      ∀ o ∈ openings Place, o.flavor.title = title →
        (start.allCommands Place.held title steps).length ≤ place.held.size.getD o.defaultSize := by
    intro o ho _
    rw [hheld]
    simp only [openings, List.mem_cons, List.not_mem_nil, or_false] at ho
    obtain rfl | rfl | rfl := ho <;> exact hlength
  obtain ⟨-, hlost, -⟩ := stored_eq_all_or_overwritten Place.reliable (openings Place) hpreserves
    place hhealthy ['A'] steps honly (hroom ['A'] (by rw [hall]; decide +kernel))
  obtain ⟨-, -, hkept⟩ := stored_eq_all_or_overwritten Place.reliable (openings Place) hpreserves
    place hhealthy ['B'] steps honly (hroom ['B'] (by rw [hall]; decide +kernel))
  have hrecords (n i : Nat) (k : Step Unit) :
      ((ofOpenings (openings Stored) memory).run (steps.take n)).records ['A'] i k =
        (start.run (steps.take n)).records ['A'] i k :=
    (Sim.run Place.reliable (steps.take n) hmemory fun p hp =>
      hfits p (List.mem_of_mem_take hp)).records
  have hoverwrites : start.Overwrites ['A'] steps :=
    ⟨steps.take 5, 1, .evaluate ['3'], [], rfl, by rw [← hrecords]; decide +kernel,
      steps.take 3, 0, .evaluate ['1'], [(2, .evaluate ['2'])], rfl, by decide,
      by rw [← hrecords]; decide +kernel, by simp⟩
  refine ⟨openings Place, place, steps, rfl, rfl, rfl, ?_, ?_, hlost hoverwrites,
    hkept (by decide +kernel), ?_⟩
  · rw [hall]
    decide +kernel
  · rw [hstored]
    decide +kernel
  · rw [hall]
    decide +kernel

/-- That all recorded commands are stored in the end is false for two sessions of one title: here
    nothing is set or reset, and there is room for more, but the second session saves a copy that
    it loaded before the first one recorded its command. -/
theorem not_forall_stored_of_recorded :
    ¬ ∀ (openings : List (Opening Stored)) (stored : Stored) (steps : List (Nat × Step Unit))
      (title : Text), (∀ o ∈ openings, o.evaluator.Keeps id) →
      (∀ p ∈ steps, p.2.recordsOnly = true) →
      (∀ o ∈ openings, o.flavor.title = title →
        ((ofOpenings openings stored).allCommands id title steps).length ≤
          stored.size.getD o.defaultSize) →
      ∀ command ∈ (ofOpenings openings stored).allCommands id title steps,
        command ∈ (((ofOpenings openings stored).run steps).store).commands title := by
  intro hstored
  let opening : Opening Stored := ⟨⟨"Echo".toList, ['>'], []⟩, 100, .pure .ok⟩
  let steps : List (Nat × Step Unit) :=
    [(0, .reopen), (1, .reopen), (0, .evaluate ['a']), (1, .evaluate ['b'])]
  have hopenings : ∀ o ∈ [opening, opening], o = opening := by simp
  have hlost := hstored [opening, opening] ⟨.empty, none⟩ steps "Echo".toList
    (fun o ho => hopenings o ho ▸ fun _ _ => rfl) (by decide +kernel)
    (fun o ho _ => by rw [hopenings o ho]; decide +kernel) ['a'] (by decide +kernel)
  exact absurd hlost (by decide +kernel)

end Desk

end Console
