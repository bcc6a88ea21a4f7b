import Console.Proofs.Session.Trail
import Console.Proofs.Session.Transport

/-! Desks on stores that answer alike. When the seats of two desks are opened in the same way, with
    evaluators that agree, every step shows the same at both. So sessions side by side on a file
    that does not fail go as they do in memory. -/

namespace Console

variable {σ τ α : Type} {R : σ → τ → Prop} {fits : Nat → Prop}

/-- The same opening, with evaluators that agree on related stores. -/
structure Opening.Sim (R : σ → τ → Prop) (o : Opening σ) (o' : Opening τ) : Prop where
  flavor : o'.flavor = o.flavor
  defaultSize : o'.defaultSize = o.defaultSize
  evaluator : o.evaluator.Agrees R o'.evaluator

/-- The same seat, with evaluators that agree on related stores. -/
structure Seat.Sim (R : σ → τ → Prop) (seat : Seat σ α) (seat' : Seat τ α) : Prop where
  proper : seat.Proper
  opening : seat.opening.Sim R seat'.opening
  engine : seat'.engine = seat.engine

/-- The same seats on related stores. -/
structure Desk.Sim (R : σ → τ → Prop) (d : Desk σ α) (d' : Desk τ α) : Prop where
  seats (i : Nat) : Option.Rel (Seat.Sim R) d.seats[i]? d'.seats[i]?
  store : R d.store d'.store

namespace Desk

variable [Store σ] [Store τ]

/-! ### One seat -/

variable {seat : Seat σ α} {seat' : Seat τ α} {s : σ} {t : τ}

theorem openSeat_sim (hR : Store.SimAt seat.opening.flavor.title fits R)
    (hseat : Seat.Sim R seat seat') (h : R s t) :
    (openSeat seat' t).1 = (openSeat seat s).1 ∧
      Seat.Sim R (openSeat seat s).2.1 (openSeat seat' t).2.1 ∧
      R (openSeat seat s).2.2 (openSeat seat' t).2.2 := by
  obtain ⟨session, s₁, t₁, hs, ht, h₁⟩ :=
    (Session.start_sim hR seat.opening.defaultSize h).exists_eq
  have hproper := openSeat_proper seat s
  unfold openSeat at hproper ⊢
  rw [hseat.opening.flavor, hseat.opening.defaultSize, hs, ht]
  rw [hs] at hproper
  cases session <;> exact ⟨rfl, ⟨hproper, hseat.opening, rfl⟩, h₁⟩

/-- A step at a seat goes alike on stores that answer alike about its title. -/
theorem stepSeat_sim (hR : Store.SimAt seat.opening.flavor.title fits R)
    (hseat : Seat.Sim R seat seat') (h : R s t) {k : Step α} (hk : k.Fits fits) :
    (stepSeat seat' t k).1 = (stepSeat seat s k).1 ∧
      Seat.Sim R (stepSeat seat s k).2.1 (stepSeat seat' t k).2.1 ∧
      R (stepSeat seat s k).2.2 (stepSeat seat' t k).2.2 := by
  by_cases hreopen : k = .reopen
  · subst hreopen
    exact openSeat_sim hR hseat h
  have hproper := stepSeat_proper hseat.proper s k
  cases hengine : seat.engine with
  | none =>
    rw [stepSeat_eq_of_closed seat hengine s hreopen,
      stepSeat_eq_of_closed seat' (hseat.engine.trans hengine) t hreopen]
    exact ⟨rfl, hseat, h⟩
  | some engine =>
    have hengineAt : Store.SimAt engine.session.flavor.title fits R := by
      rw [hseat.proper engine hengine]
      exact hR
    obtain ⟨hreport, hnext, hstore⟩ := stepEngine_sim hengineAt hseat.opening.evaluator h hk
    rw [stepSeat_eq_of_open seat hengine s hreopen] at hproper ⊢
    rw [stepSeat_eq_of_open seat' (hseat.engine.trans hengine) t hreopen]
    exact ⟨hreport, ⟨hproper, hseat.opening, congrArg some hnext⟩, hstore⟩

/-! ### Desks -/

variable {d : Desk σ α} {d' : Desk τ α}

omit [Store σ] [Store τ] in
theorem ofOpenings_sim {openings : List (Opening σ)} {openings' : List (Opening τ)}
    (hopenings : List.Forall₂ (Opening.Sim R) openings openings') (h : R s t) :
    Sim R (ofOpenings openings s : Desk σ α) (ofOpenings openings' t) := by
  refine ⟨fun i => ?_, h⟩
  simp only [ofOpenings, List.getElem?_map]
  induction hopenings generalizing i with
  | nil => exact .none
  | cons hopening _ ih =>
    cases i with
    | zero => exact .some ⟨fun _ he => (Option.some_ne_none _ he.symm).elim, hopening, rfl⟩
    | succ i => exact ih i

omit [Store σ] [Store τ] in
theorem Sim.seat_cases (h : Sim R d d') (i : Nat) :
    (d.seats[i]? = none ∧ d'.seats[i]? = none) ∨
      ∃ seat seat', d.seats[i]? = some seat ∧ d'.seats[i]? = some seat' ∧
        Seat.Sim R seat seat' := by
  have hi := h.seats i
  generalize d.seats[i]? = seat at hi ⊢
  generalize d'.seats[i]? = seat' at hi ⊢
  cases hi with
  | none => exact .inl ⟨rfl, rfl⟩
  | some hseat => exact .inr ⟨_, _, rfl, rfl, hseat⟩

variable (hR : Store.Sim fits R)
include hR

theorem Sim.step (h : Sim R d d') (i : Nat) {k : Step α} (hk : k.Fits fits) :
    (d'.step i k).1 = (d.step i k).1 ∧ Sim R (d.step i k).2 (d'.step i k).2 := by
  obtain ⟨hnone, hnone'⟩ | ⟨seat, seat', hseat, hseat', hsim⟩ := h.seat_cases i
  · rw [Desk.step, Desk.step, hnone, hnone']
    exact ⟨rfl, h⟩
  · obtain ⟨hreport, hnext, hstore⟩ := stepSeat_sim (hR _) hsim h.store hk
    refine ⟨by rw [step_report hseat, step_report hseat', hreport], fun n => ?_, ?_⟩
    · rw [getElem?_step hseat, getElem?_step hseat']
      split
      · exact .some hnext
      · exact h.seats n
    · rw [step_eq hseat, step_eq hseat']
      exact hstore

/-- Steps in any order leave the same sessions and stores that answer alike. -/
theorem Sim.run : ∀ (steps : List (Nat × Step α)) {d : Desk σ α} {d' : Desk τ α}, Sim R d d' →
    (∀ p ∈ steps, p.2.Fits fits) → Sim R (d.run steps) (d'.run steps)
  | [], _, _, h, _ => h
  | p :: steps, _, _, h, hfits => by
    obtain ⟨hp, hfits⟩ := List.forall_mem_cons.1 hfits
    exact Sim.run steps (h.step hR p.1 hp).2 hfits

end Desk

end Console
