import Console.Proofs.Session.Reachable

/-! Seats and desks. A step at a seat opens its session afresh, or is a step of its session, or does
    nothing when no session is open. A step at a desk changes the seat of its number and the store,
    and every seat keeps its opening. -/

namespace Console

variable {σ α : Type} [Store σ]

/-! ### Opening -/

namespace Session

/-- Opening calls the store to load a history, or not at all. -/
theorem start_store (flavor : Flavor) (defaultSize : Nat) (s : σ) :
    (start flavor defaultSize s).2 = s ∨
      (start flavor defaultSize s).2 = (loadHistory flavor.title defaultSize s).2 := by
  unfold start
  split
  · exact .inl rfl
  · split <;> rename_i heq <;> rw [heq] <;> exact .inr rfl

end Session

namespace Desk

theorem openSeat_store (seat : Seat σ α) (s : σ) :
    (openSeat seat s).2.2 = (Session.start seat.opening.flavor seat.opening.defaultSize s).2 := by
  unfold openSeat
  split <;> rename_i heq <;> rw [heq]

/-- A session that has been opened at a seat goes by the seat's flavor, and holds what it has
    loaded. -/
theorem openSeat_engine {seat : Seat σ α} {s : σ} {e : Engine α}
    (he : (openSeat seat s).2.1.engine = some e) : e.session.flavor = seat.opening.flavor ∧
      Session.loadHistory seat.opening.flavor.title seat.opening.defaultSize s =
        (.ok e.session.history, (openSeat seat s).2.2) := by
  unfold openSeat at he ⊢
  split at he
  · exact nomatch he
  · rename_i session s' hstart
    obtain rfl := Option.some.inj he
    obtain ⟨-, history, hload, rfl⟩ := Session.start_ok hstart
    exact ⟨rfl, hload⟩

theorem openSeat_opening (seat : Seat σ α) (s : σ) :
    (openSeat seat s).2.1.opening = seat.opening := by
  unfold openSeat
  split <;> rfl

/-! ### Steps at a seat -/

theorem stepSeat_reopen (seat : Seat σ α) (s : σ) :
    stepSeat seat s .reopen = openSeat seat s := rfl

theorem stepSeat_eq_of_closed (seat : Seat σ α) (hclosed : seat.engine = none) (s : σ) {k : Step α}
    (hk : k ≠ .reopen) : stepSeat seat s k = (⟨.notOpen, [], []⟩, seat, s) := by
  unfold stepSeat
  split
  · exact absurd rfl hk
  · rw [hclosed]

theorem stepSeat_eq_of_open (seat : Seat σ α) {e : Engine α} (hopen : seat.engine = some e) (s : σ)
    {k : Step α} (hk : k ≠ .reopen) : stepSeat seat s k =
      ((stepEngine seat.opening.evaluator e s k).1,
        { seat with engine := some (stepEngine seat.opening.evaluator e s k).2.1 },
        (stepEngine seat.opening.evaluator e s k).2.2) := by
  unfold stepSeat
  split
  · exact absurd rfl hk
  · rw [hopen]

theorem stepSeat_closed (seat : Seat σ α) (hclosed : seat.engine = none) (s : σ) {k : Step α}
    (hk : k ≠ .reopen) : (stepSeat seat s k).2 = (seat, s) := by
  rw [stepSeat_eq_of_closed seat hclosed s hk]

theorem stepSeat_open (seat : Seat σ α) {e : Engine α} (hopen : seat.engine = some e) (s : σ)
    {k : Step α} (hk : k ≠ .reopen) : (stepSeat seat s k).2 =
      ({ seat with engine := some (stepEngine seat.opening.evaluator e s k).2.1 },
        (stepEngine seat.opening.evaluator e s k).2.2) := by
  rw [stepSeat_eq_of_open seat hopen s hk]

/-- A seat keeps its opening. -/
theorem stepSeat_opening (seat : Seat σ α) (s : σ) (k : Step α) :
    (stepSeat seat s k).2.1.opening = seat.opening := by
  by_cases hk : k = .reopen
  · subst hk
    exact openSeat_opening seat s
  cases hengine : seat.engine with
  | none => rw [stepSeat_closed seat hengine s hk]
  | some e => rw [stepSeat_open seat hengine s hk]

/-! ### Steps at a desk -/

omit [Store σ] in
/-- At first no session is open. -/
theorem ofOpenings_engine {openings : List (Opening σ)} {s : σ} {i : Nat} {seat : Seat σ α}
    (hseat : (ofOpenings openings s : Desk σ α).seats[i]? = some seat) : seat.engine = none := by
  rw [ofOpenings, List.getElem?_map] at hseat
  obtain ⟨o, -, rfl⟩ := Option.map_eq_some_iff.1 hseat
  rfl

/-- Makes steps, each at the seat of its number. -/
def run (d : Desk σ α) : List (Nat × Step α) → Desk σ α
  | [] => d
  | (i, k) :: steps => (d.step i k).2.run steps

/-- Whether a session of this title is open. -/
def Serves (d : Desk σ α) (title : Text) : Prop :=
  ∃ seat ∈ d.seats, ∃ e, seat.engine = some e ∧ e.session.flavor.title = title

theorem step_eq {d : Desk σ α} {i : Nat} {seat : Seat σ α} (hseat : d.seats[i]? = some seat)
    (k : Step α) : (d.step i k).2 =
      ⟨d.seats.set i (stepSeat seat d.store k).2.1, (stepSeat seat d.store k).2.2⟩ := by
  rw [Desk.step, hseat]

theorem step_report {d : Desk σ α} {i : Nat} {seat : Seat σ α} (hseat : d.seats[i]? = some seat)
    (k : Step α) : (d.step i k).1 = (stepSeat seat d.store k).1 := by
  rw [Desk.step, hseat]

theorem step_eq_self {d : Desk σ α} {i : Nat} (hseat : d.seats[i]? = none) (k : Step α) :
    (d.step i k).2 = d := by
  rw [Desk.step, hseat]

/-- A step changes the seat of its number and no other. -/
theorem getElem?_step {d : Desk σ α} {i n : Nat} {seat : Seat σ α}
    (hseat : d.seats[i]? = some seat) (k : Step α) : (d.step i k).2.seats[n]? =
      if i = n then some (stepSeat seat d.store k).2.1 else d.seats[n]? := by
  rw [step_eq hseat]
  by_cases hin : i = n
  · subst hin
    rw [if_pos rfl, List.getElem?_set_self (List.getElem?_eq_some_iff.1 hseat).1]
  · rw [if_neg hin, List.getElem?_set_ne hin]

/-- The openings of a desk never change. -/
theorem step_openings (d : Desk σ α) (i : Nat) (k : Step α) :
    (d.step i k).2.seats.map Seat.opening = d.seats.map Seat.opening := by
  cases hseat : d.seats[i]? with
  | none => rw [step_eq_self hseat]
  | some seat =>
    refine List.ext_getElem? fun n => ?_
    rw [List.getElem?_map, List.getElem?_map, getElem?_step hseat]
    split
    · rename_i hin
      rw [← hin, hseat, Option.map_some, Option.map_some, stepSeat_opening]
    · rfl

omit [Store σ] in
/-- Seats of different numbers have different titles. -/
theorem title_ne {d : Desk σ α} (htitles : (d.seats.map (·.opening.flavor.title)).Nodup)
    {i j : Nat} {seat seat' : Seat σ α} (hseat : d.seats[i]? = some seat)
    (hseat' : d.seats[j]? = some seat') (hne : i ≠ j) :
    seat.opening.flavor.title ≠ seat'.opening.flavor.title := by
  intro heq
  have hlt : i < (d.seats.map (·.opening.flavor.title)).length := by
    rw [List.length_map]
    exact (List.getElem?_eq_some_iff.1 hseat).1
  refine hne ((List.getElem?_inj hlt htitles).1 ?_)
  rw [List.getElem?_map, List.getElem?_map, hseat, hseat']
  exact congrArg some heq

end Desk

end Console
