import Console.Proofs.Session.Saving
import Console.Proofs.Session.Seats
import Console.Proofs.Session.Transport

/-! Coherence of a shared store. Sessions of different titles run side by side on one store of
    which any call may fail, in any order of their steps. As long as the latest save of a title was
    not refused, its bucket holds just what its session holds. No step reaches the bucket of a
    title that no session serves, and opening a session leaves the whole store alone. -/

namespace Console

variable {σ α : Type} [Store σ]

/-! ### Opening -/

/-- Opening a session does not change what is stored, whether or not it succeeds. -/
theorem Desk.openSeat_content {content : σ → Stored} (h : Store.Fallible content) (seat : Seat σ α)
    (s : σ) : content (openSeat seat s).2.2 = content s := by
  rw [openSeat_store]
  obtain hs | hs := Session.start_store seat.opening.flavor seat.opening.defaultSize s
  · rw [hs]
  · rw [hs]
    exact (h.load_content seat.opening.flavor.title seat.opening.defaultSize s).1

/-! ### The journal of a desk -/

/-- The same seat at a store with a journal. -/
def Seat.journaled (seat : Seat σ α) : Seat (Journal σ) α :=
  ⟨⟨seat.opening.flavor, seat.opening.defaultSize, seat.opening.evaluator.journaled⟩, seat.engine⟩

/-- The journal after a step at a seat. Opening a session afresh forgets how earlier saves went. -/
def Seat.journal (seat : Seat σ α) (j : Journal σ) (k : Step α) : Journal σ :=
  let after := (Desk.stepSeat seat.journaled j k).2.2
  match k with
  | .reopen => after.note seat.opening.flavor.title .opened
  | _ => after

namespace Desk

/-- The marks after one step. -/
def mark (d : Desk σ α) (marks : Marks) (i : Nat) (k : Step α) : Marks :=
  match d.seats[i]? with
  | none => marks
  | some seat => (seat.journal ⟨d.store, marks⟩ k).marks

/-- The marks after steps. -/
def marks (d : Desk σ α) (before : Marks) : List (Nat × Step α) → Marks
  | [] => before
  | (i, k) :: steps => (d.step i k).2.marks (d.mark before i k) steps

end Desk

namespace Seat

/-- The session of a seat, if it is open, goes by the seat's flavor, and its commands are stored
    unless the latest save of them was refused. -/
def Coherent (content : σ → Stored) (j : Journal σ) (seat : Seat σ α) : Prop :=
  ∀ e, seat.engine = some e → e.session.flavor = seat.opening.flavor ∧
    j.Holds content e.session.flavor.title e.session.history.entries

theorem journal_of_ne (seat : Seat σ α) (j : Journal σ) {k : Step α} (hk : k ≠ .reopen) :
    seat.journal j k = (Desk.stepSeat seat.journaled j k).2.2 := by
  unfold journal
  split
  · exact absurd rfl hk
  · rfl

/-- The journal has no part in what a step at an open seat does. -/
theorem stepEngine_journaled (seat : Seat σ α) (e : Engine α) (j : Journal σ) (k : Step α) :
    (Desk.stepEngine seat.opening.evaluator e j.store k).2 =
      ((Desk.stepEngine seat.opening.evaluator.journaled e j k).2.1,
        (Desk.stepEngine seat.opening.evaluator.journaled e j k).2.2.store) := by
  have halong : Evaluator.Along Journal.store seat.opening.evaluator.journaled
    seat.opening.evaluator := fun _ _ => rfl
  have hfits : k.Fits fun _ => True := by cases k <;> trivial
  obtain ⟨-, hengine, hstore⟩ :=
    Desk.stepEngine_sim (Journal.store_hom _) halong.agrees (s := j) rfl hfits
  exact Prod.ext hengine hstore.symm

theorem openSeat_journaled (seat : Seat σ α) (j : Journal σ) :
    (Desk.openSeat seat.journaled j).2.2.store = (Desk.openSeat seat j.store).2.2 := by
  rw [Desk.openSeat_store, Desk.openSeat_store]
  exact (Session.start_sim (Journal.store_hom _) seat.opening.defaultSize rfl).store

/-- The store behind the journal is the store of the step. -/
theorem journal_store (seat : Seat σ α) (j : Journal σ) (k : Step α) :
    (seat.journal j k).store = (Desk.stepSeat seat j.store k).2.2 := by
  by_cases hk : k = .reopen
  · subst hk
    exact openSeat_journaled seat j
  rw [journal_of_ne seat j hk]
  cases hengine : seat.engine with
  | none =>
    rw [Desk.stepSeat_closed seat hengine _ hk,
      Desk.stepSeat_closed seat.journaled hengine _ hk]
  | some e =>
    rw [Desk.stepSeat_open seat hengine _ hk, Desk.stepSeat_open seat.journaled hengine _ hk,
      stepEngine_journaled]
    rfl

variable {content : σ → Stored}

/-- What a step does at a seat whose session is open. -/
theorem journal_open (h : Store.Fallible content) {seat : Seat σ α}
    (hkeeps : seat.opening.evaluator.Keeps content) {e : Engine α} (hopen : seat.engine = some e)
    (j : Journal σ) {k : Step α} (hk : k ≠ .reopen) :
    ∃ e', (Desk.stepSeat seat j.store k).2.1 = { seat with engine := some e' } ∧
      Running.Tends content ⟨e.session, j, []⟩ ⟨e'.session, seat.journal j k, []⟩ := by
  obtain ⟨hsession, hstore⟩ := Desk.stepEngine_move seat.opening.evaluator.journaled e j k
  have htends := Running.move_tends h hkeeps ⟨e.session, j, []⟩
    (k.move e.session.transcript.text)
  rw [Desk.stepSeat_open seat hopen _ hk, stepEngine_journaled, journal_of_ne seat j hk,
    Desk.stepSeat_open seat.journaled hopen _ hk]
  refine ⟨_, rfl, ?_, ?_, ?_⟩
  · exact (congrArg Session.flavor hsession).trans htends.flavor
  · exact (congrArg (Journal.Within content _ j) hstore).mpr htends.within
  · intro hstored
    have := htends.stored hstored
    unfold Running.Stored at this ⊢
    rw [← hsession, ← hstore] at this
    exact this

/-- A seat that is opened afresh keeps all buckets, and the marks of the other titles. -/
theorem journal_reopen_within (h : Store.Fallible content) (seat : Seat σ α) (j : Journal σ) :
    Journal.Within content seat.opening.flavor.title j (seat.journal j .reopen) := by
  have hload := Journal.load_same h seat.opening.flavor.title seat.opening.defaultSize j
  have hmarks : (Desk.openSeat seat.journaled j).2.2.marks = j.marks := by
    rw [Desk.openSeat_store]
    obtain hs | hs := Session.start_store seat.opening.flavor seat.opening.defaultSize j
    · exact congrArg Journal.marks hs
    · exact (congrArg Journal.marks hs).trans hload.marks
  refine ⟨fun other _ => ?_, fun other hne => ?_⟩
  · rw [journal_store]
    exact congrArg (·.buckets.find? other) (Desk.openSeat_content h seat j.store)
  · change ((seat.opening.flavor.title, Mark.opened) ::
      (Desk.openSeat seat.journaled j).2.2.marks).lookup other = j.marks.lookup other
    rw [List.lookup_cons, beq_false_of_ne hne, hmarks]

/-- A session that has just been opened holds what is stored. -/
theorem coherent_reopen (h : Store.Fallible content) (seat : Seat σ α) (j : Journal σ) :
    (Desk.openSeat seat j.store).2.1.Coherent content (seat.journal j .reopen) := by
  intro e he
  obtain ⟨hflavor, hload⟩ := Desk.openSeat_engine he
  obtain ⟨-, hentries⟩ := h.load_content seat.opening.flavor.title seat.opening.defaultSize j.store
  refine ⟨by rw [Desk.openSeat_opening, hflavor], fun _ => ?_⟩
  rw [journal_store, Desk.stepSeat_reopen, Desk.openSeat_content h, hflavor,
    hentries e.session.history (congrArg Prod.fst hload)]
  rfl

/-- A step at a seat reaches no other title, and leaves the seat coherent. -/
theorem journal_step (h : Store.Fallible content) {seat : Seat σ α}
    (hkeeps : seat.opening.evaluator.Keeps content) {j : Journal σ} (hj : seat.Coherent content j)
    (k : Step α) :
    Journal.Within content seat.opening.flavor.title j (seat.journal j k) ∧
      (Desk.stepSeat seat j.store k).2.1.Coherent content (seat.journal j k) := by
  by_cases hk : k = .reopen
  · subst hk
    exact ⟨journal_reopen_within h seat j, coherent_reopen h seat j⟩
  cases hengine : seat.engine with
  | none =>
    rw [journal_of_ne seat j hk, Desk.stepSeat_closed seat hengine _ hk,
      Desk.stepSeat_closed seat.journaled hengine _ hk]
    exact ⟨Journal.Same.within ⟨rfl, rfl⟩, hj⟩
  | some e =>
    obtain ⟨hflavor, hstored⟩ := hj e hengine
    obtain ⟨e', hseat, htends⟩ := journal_open h hkeeps hengine j hk
    rw [hseat]
    refine ⟨hflavor ▸ htends.within, fun e₁ he₁ => ?_⟩
    obtain rfl := Option.some.inj he₁
    exact ⟨htends.flavor.trans hflavor, htends.stored hstored⟩

end Seat

/-! ### Steps at a desk -/

namespace Desk

variable {content : σ → Stored} {openings : List (Opening σ)}

/-- Every seat of a desk is coherent. -/
structure Coherent (content : σ → Stored) (openings : List (Opening σ)) (d : Desk σ α)
    (marks : Marks) : Prop where
  openings_eq : d.seats.map Seat.opening = openings
  seat {i : Nat} {seat : Seat σ α} : d.seats[i]? = some seat →
    seat.Coherent content ⟨d.store, marks⟩

omit [Store σ] in
theorem ofOpenings_coherent (content : σ → Stored) (openings : List (Opening σ)) (store : σ) :
    (ofOpenings openings store : Desk σ α).Coherent content openings [] := by
  refine ⟨?_, fun {i seat} hseat e he => ?_⟩
  · rw [ofOpenings, List.map_map]
    exact List.map_id _
  · exact absurd (he.symm.trans (ofOpenings_engine hseat)) (Option.some_ne_none e)

omit [Store σ] in
theorem Coherent.opening_mem {d : Desk σ α} {marks : Marks} (hd : d.Coherent content openings marks)
    {seat : Seat σ α} (hseat : seat ∈ d.seats) : seat.opening ∈ openings :=
  hd.openings_eq ▸ List.mem_map_of_mem hseat

omit [Store σ] in
theorem Coherent.titles {d : Desk σ α} {marks : Marks} (hd : d.Coherent content openings marks)
    (htitles : (openings.map (·.flavor.title)).Nodup) :
    (d.seats.map (·.opening.flavor.title)).Nodup := by
  rw [← hd.openings_eq, List.map_map] at htitles
  exact htitles

/-- The journal of a step goes with the store that the step leaves. -/
theorem journal_eq {d : Desk σ α} {i : Nat} {seat : Seat σ α} (hseat : d.seats[i]? = some seat)
    (marks : Marks) (k : Step α) : (⟨(d.step i k).2.store, d.mark marks i k⟩ : Journal σ) =
      seat.journal ⟨d.store, marks⟩ k := by
  rw [step_eq hseat, mark, hseat, ← Seat.journal_store seat ⟨d.store, marks⟩ k]

/-- A step keeps a desk coherent: the seat of the step by itself, the others since the step reaches
    no title of theirs. -/
theorem Coherent.step (h : Store.Fallible content)
    (htitles : (openings.map (·.flavor.title)).Nodup)
    (hkeeps : ∀ o ∈ openings, o.evaluator.Keeps content) {d : Desk σ α} {marks : Marks}
    (hd : d.Coherent content openings marks) (i : Nat) (k : Step α) :
    (d.step i k).2.Coherent content openings (d.mark marks i k) := by
  refine ⟨(step_openings d i k).trans hd.openings_eq, fun {n seat'} hn => ?_⟩
  cases hseat : d.seats[i]? with
  | none =>
    rw [step_eq_self hseat] at hn ⊢
    rw [mark, hseat]
    exact hd.seat hn
  | some seat =>
    have hmem := hd.opening_mem (List.mem_of_getElem? hseat)
    obtain ⟨hwithin, hcoherent⟩ :=
      Seat.journal_step h (hkeeps seat.opening hmem) (hd.seat hseat) k
    rw [journal_eq hseat]
    rw [getElem?_step hseat] at hn
    split at hn
    · obtain rfl := Option.some.inj hn
      exact hcoherent
    -- another seat has another title, whose bucket and marks the step does not reach
    · rename_i hin
      intro e he
      obtain ⟨hflavor, hholds⟩ := hd.seat hn e he
      refine ⟨hflavor, hholds.within hwithin ?_⟩
      rw [hflavor]
      exact title_ne (hd.titles htitles) hn hseat (Ne.symm hin)

theorem Coherent.run (h : Store.Fallible content)
    (htitles : (openings.map (·.flavor.title)).Nodup)
    (hkeeps : ∀ o ∈ openings, o.evaluator.Keeps content) :
    ∀ (steps : List (Nat × Step α)) {d : Desk σ α} {marks : Marks},
      d.Coherent content openings marks →
      (d.run steps).Coherent content openings (d.marks marks steps)
  | [], _, _, hd => hd
  | (i, k) :: steps, _, _, hd => Coherent.run h htitles hkeeps steps (hd.step h htitles hkeeps i k)

/-- A step does not reach the bucket of a title that no session serves. -/
theorem step_bucket (h : Store.Fallible content) {d : Desk σ α}
    (hkeeps : ∀ seat ∈ d.seats, seat.opening.evaluator.Keeps content) {title : Text}
    (hserves : ¬ d.Serves title) (i : Nat) (k : Step α) :
    (content (d.step i k).2.store).buckets.find? title =
      (content d.store).buckets.find? title := by
  cases hseat : d.seats[i]? with
  | none => rw [step_eq_self hseat]
  | some seat =>
    have hmem := List.mem_of_getElem? hseat
    rw [step_eq hseat]
    by_cases hk : k = .reopen
    · rw [hk, stepSeat_reopen, openSeat_content h]
    cases hengine : seat.engine with
    | none => rw [stepSeat_closed seat hengine _ hk]
    | some e =>
      obtain ⟨_, -, htends⟩ :=
        Seat.journal_open h (hkeeps seat hmem) hengine ⟨d.store, []⟩ hk
      have hne : title ≠ e.session.flavor.title :=
        fun heq => hserves ⟨seat, hmem, e, hengine, heq.symm⟩
      rw [← htends.within.bucket title hne, Seat.journal_store]

theorem run_bucket (h : Store.Fallible content) (htitles : (openings.map (·.flavor.title)).Nodup)
    (hkeeps : ∀ o ∈ openings, o.evaluator.Keeps content) {title : Text} :
    ∀ (steps : List (Nat × Step α)) {d : Desk σ α} {marks : Marks},
      d.Coherent content openings marks → (∀ n, ¬ (d.run (steps.take n)).Serves title) →
      (content (d.run steps).store).buckets.find? title = (content d.store).buckets.find? title
  | [], _, _, _, _ => rfl
  | (i, k) :: steps, d, _, hd, hserves => by
    have hseats : ∀ seat ∈ d.seats, seat.opening.evaluator.Keeps content :=
      fun seat hseat => hkeeps seat.opening (hd.opening_mem hseat)
    rw [← step_bucket h hseats (hserves 0) i k]
    exact run_bucket h htitles hkeeps steps (hd.step h htitles hkeeps i k)
      fun n => hserves (n + 1)

/-- Sessions of different titles on one store, whatever calls of it fail and however their steps are
    mixed: the bucket of an open session's title holds just its commands, unless the latest save
    since the session was opened was refused. The bucket of a title that was never served is as it
    was at the start, and opening a session changes nothing that is stored. -/
theorem stored_coherent (h : Store.Fallible content) (openings : List (Opening σ))
    (htitles : (openings.map (·.flavor.title)).Nodup)
    (hkeeps : ∀ o ∈ openings, o.evaluator.Keeps content) (store : σ)
    (steps : List (Nat × Step α)) :
    let start : Desk σ α := ofOpenings openings store
    (∀ seat ∈ (start.run steps).seats, ∀ e, seat.engine = some e →
        (start.marks [] steps).lookup e.session.flavor.title ≠ some .refused →
        (content (start.run steps).store).commands e.session.flavor.title =
          e.session.history.entries) ∧
      (∀ title, (∀ n, ¬ (start.run (steps.take n)).Serves title) →
        (content (start.run steps).store).buckets.find? title =
          (content store).buckets.find? title) ∧
      ∀ seat : Seat σ α, content (openSeat seat (start.run steps).store).2.2 =
        content (start.run steps).store := by
  intro start
  have hstart : start.Coherent content openings [] := ofOpenings_coherent content openings store
  refine ⟨fun seat hmem e he => ?_, fun title hserves => ?_, fun seat => ?_⟩
  · obtain ⟨i, hseat⟩ := List.mem_iff_getElem?.1 hmem
    exact ((hstart.run h htitles hkeeps steps).seat hseat e he).2
  · exact run_bucket h htitles hkeeps steps hstart hserves
  · exact openSeat_content h seat (start.run steps).store

/-- Two sessions on a store that refuses the first save of each. The one saves again, with all that
    it holds; the other does not, and its bucket is still missing. -/
theorem stored_coherent_after_refusals :
    ∃ (openings : List (Opening (Scheduled Stored))) (store : Scheduled Stored)
      (steps : List (Nat × Step Unit)),
      (openings.map (·.flavor.title)).Nodup ∧
      (∀ o ∈ openings, o.evaluator.Keeps Scheduled.store) ∧
      (let start := ofOpenings openings store
      start.marks [] steps = [(['A'], .saved), (['B'], .refused), (['A'], .refused),
        (['B'], .opened), (['A'], .opened)] ∧
      (start.run steps).seats.map (·.engine.map (·.session.history.entries)) =
        [some [['x'], ['z']], some [['y']]] ∧
      (start.run steps).store.store.buckets.find? ['B'] = none ∧
      ∃ e, (start.run steps).seats.head?.bind Seat.engine = some e ∧
        (start.run steps).store.store.commands e.session.flavor.title =
          e.session.history.entries) := by
  have hkeeps : ∀ o ∈ [⟨⟨['A'], ['>'], []⟩, 2, .pure .ok⟩, ⟨⟨['B'], ['>'], []⟩, 2, .pure .ok⟩],
      Evaluator.Keeps Scheduled.store (Opening.evaluator o) := by
    intro o ho
    simp only [List.mem_cons, List.not_mem_nil, or_false] at ho
    rcases ho with rfl | rfl <;> exact fun _ _ => rfl
  refine ⟨_, ⟨.empty, [false, false, false, false, true, true]⟩,
    [(0, .reopen), (1, .reopen), (0, .append ['x']), (1, .append ['y']), (0, .append ['z'])],
    by decide, hkeeps, rfl, rfl, rfl, _, rfl, ?_⟩
  exact (stored_coherent Scheduled.fallible _ (by decide) hkeeps _ _).1 _ (List.mem_of_head? rfl) _
    rfl (by decide)

end Desk

end Console
