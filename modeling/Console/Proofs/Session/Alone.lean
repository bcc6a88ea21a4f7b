import Console.Proofs.Session.Alike
import Console.Proofs.Session.Saving
import Console.Proofs.Session.Shielded
import Console.Proofs.Store.Healthy

/-! Sessions of different titles do not interfere. Of a store that does not fail a session sees the
    commands of its own title and the size, so its run is a run on a shelf that has nothing else on
    it. A step of another session leaves this shelf as it is, unless it sets the size. So a session
    that runs beside others answers, notifies and shows the same as when it runs alone. -/

namespace Console

/-! ### The shelf of a session -/

/-- What a session sees of its store: the commands of its title and the size, beside the
    surroundings by which its evaluator answers. -/
structure Shelf (μ : Type) where
  commands : Option (List Text)
  size : Option Nat
  around : μ

/-- On a shelf there is one title. -/
instance {μ : Type} : Store (Shelf μ) where
  loadHistory s _ := (.ok s.commands, s)
  saveHistory s _ commands := (.ok (), { s with commands := some commands })
  loadSize s := (.ok s.size, s)
  saveSize s size := (.ok (), { s with size := some size })

/-- An evaluator beside a shelf. -/
def Evaluator.shelved {μ : Type} (answer : Evaluator μ) : Evaluator (Shelf μ) :=
  fun expression s =>
    ((answer expression s.around).1, { s with around := (answer expression s.around).2 })

/-- An evaluator that leaves a part of the surroundings alone. -/
def Evaluator.Spares {σ μ : Type} (part : σ → μ) (e : Evaluator σ) : Prop :=
  ∀ expression s, part (e expression s).2 = part s

/-- An evaluator that leaves a healthy store healthy, and what is stored as it is. -/
def Evaluator.Preserves {σ : Type} (content : σ → Stored) (healthy : σ → Prop) (e : Evaluator σ) :
    Prop :=
  ∀ expression s, healthy s → healthy (e expression s).2 ∧ content (e expression s).2 = content s

/-- A store that does not fail while it is healthy, and surroundings in which it has no part. -/
structure Store.Apart {σ μ : Type} [Store σ] (content : σ → Stored) (healthy : σ → Prop)
    (fits : Nat → Prop) (around : σ → μ) : Prop where
  reliable : Reliable content healthy fits
  beside : Beside around

/-- An evaluator that answers by such surroundings and leaves alone what is stored. -/
structure Evaluator.Apart {σ μ : Type} (content : σ → Stored) (healthy : σ → Prop) (around : σ → μ)
    (e : Evaluator σ) (answer : Evaluator μ) : Prop where
  preserves : e.Preserves content healthy
  along : Evaluator.Along around e answer

namespace Shelf

variable {σ μ : Type} [Store σ] {content : σ → Stored} {healthy : σ → Prop} {fits : Nat → Prop}
  {around : σ → μ} {title : Text} {s s' : σ}

/-- The shelf of a title. -/
def of (content : σ → Stored) (around : σ → μ) (title : Text) (s : σ) : Shelf μ :=
  ⟨(content s).buckets.find? title, (content s).size, around s⟩

omit [Store σ] in
theorem of_eq (hcontent : content s' = content s) (haround : around s' = around s) :
    of content around title s' = of content around title s := by
  rw [of, of, hcontent, haround]

/-- Every call about a title goes on the shelf of the title as it goes in the store. -/
theorem simAt (h : Store.Apart content healthy fits around) (title : Text) :
    Store.SimAt title fits fun s shelf => healthy s ∧ of content around title s = shelf := by
  refine ⟨(h.reliable title).fits_of_lt, ?_, ?_, ?_, ?_⟩
  · rintro s _ ⟨hs, rfl⟩
    obtain ⟨hanswer, hhealthy, hcontent⟩ := (h.reliable title).loadHistory ⟨hs, rfl⟩
    exact ⟨hanswer, hhealthy, of_eq hcontent (h.beside.loadHistory s title)⟩
  · rintro s _ commands ⟨hs, rfl⟩
    obtain ⟨hanswer, hhealthy, hcontent⟩ := (h.reliable title).saveHistory commands ⟨hs, rfl⟩
    refine ⟨hanswer, hhealthy, ?_⟩
    rw [of, hcontent, h.beside.saveHistory s title commands]
    change Shelf.mk (((content s).buckets.insert title commands).find? title) _ _ = _
    rw [Buckets.find?_insert_self]
    rfl
  · rintro s _ ⟨hs, rfl⟩
    obtain ⟨hanswer, hhealthy, hcontent⟩ := (h.reliable title).loadSize ⟨hs, rfl⟩
    exact ⟨hanswer, hhealthy, of_eq hcontent (h.beside.loadSize s)⟩
  · rintro s _ size hsize ⟨hs, rfl⟩
    obtain ⟨hanswer, hhealthy, hcontent⟩ := (h.reliable title).saveSize hsize ⟨hs, rfl⟩
    refine ⟨hanswer, hhealthy, ?_⟩
    rw [of, hcontent, h.beside.saveSize s size]
    rfl

omit [Store σ] in
theorem agrees {answer : Evaluator μ} {e : Evaluator σ}
    (h : e.Apart content healthy around answer) :
    Evaluator.Agrees (fun s shelf => healthy s ∧ of content around title s = shelf) e
      answer.shelved := by
  rintro expression s _ ⟨hs, rfl⟩
  have hanswer : answer expression (around s) = _ := h.along expression s
  obtain ⟨hhealthy, hcontent⟩ := h.preserves expression s hs
  refine ⟨congrArg Prod.fst hanswer, hhealthy, ?_⟩
  change _ = Shelf.mk _ _ (answer expression (around s)).2
  rw [hanswer, of, hcontent]
  rfl

/-- Calls about another title do not reach the shelf. -/
theorem of_trail (h : Store.Apart content healthy fits around) {e : Evaluator σ}
    (hpreserves : e.Preserves content healthy) (hspares : e.Spares around) {other : Text}
    (hne : title ≠ other) (htrail : Store.Trail e other false s s') (hs : healthy s) :
    healthy s' ∧ of content around title s' = of content around title s := by
  induction htrail with
  | refl => exact ⟨hs, rfl⟩
  | loadSize _ ih =>
    obtain ⟨hhealthy, -, hcontent⟩ := h.reliable.loadSize ih.1
    exact ⟨hhealthy, (of_eq hcontent (h.beside.loadSize _)).trans ih.2⟩
  | loadHistory _ ih =>
    obtain ⟨hhealthy, -, hcontent⟩ := h.reliable.loadHistory ih.1 other
    exact ⟨hhealthy, (of_eq hcontent (h.beside.loadHistory _ _)).trans ih.2⟩
  | saveHistory commands _ ih =>
    obtain ⟨hhealthy, hcontent⟩ := h.reliable.saveHistory ih.1 other commands
    refine ⟨hhealthy, ?_⟩
    rw [← ih.2, of, of, h.beside.saveHistory, hcontent, Buckets.find?_insert_of_ne _ hne]
  | saveSize _ hsized _ _ => exact nomatch hsized
  | answer expression _ ih =>
    obtain ⟨hhealthy, hcontent⟩ := hpreserves expression _ ih.1
    exact ⟨hhealthy, (of_eq hcontent (hspares expression _)).trans ih.2⟩

end Shelf

/-! ### Desks -/

/-- The steps of a seat that has a store for itself: the reports, each with the session after the
    step, if one is open. -/
def Seat.trace {σ α : Type} [Store σ] (seat : Seat σ α) (s : σ) :
    List (Step α) → List (Report α × Option Session)
  | [] => []
  | k :: steps =>
    let (report, seat, s) := Desk.stepSeat seat s k
    (report, seat.engine.map Engine.session) :: seat.trace s steps

namespace Desk

variable {σ τ μ α : Type} [Store σ] [Store τ]

/-- What is seen of one seat while steps are made at all of them: its reports, each with the session
    after the step, if one is open. -/
def seen (d : Desk σ α) (i : Nat) : List (Nat × Step α) → List (Report α × Option Session)
  | [] => []
  | (j, k) :: steps =>
    let d' := (d.step j k).2
    if j = i then
      ((d.step j k).1, (d'.seats[i]?.bind Seat.engine).map Engine.session) :: d'.seen i steps
    else d'.seen i steps

/-- The same is seen on stores that answer alike. -/
theorem Sim.seen {R : σ → τ → Prop} {fits : Nat → Prop} (hR : Store.Sim fits R) (i : Nat) :
    ∀ (steps : List (Nat × Step α)) {d : Desk σ α} {d' : Desk τ α}, Sim R d d' →
      (∀ p ∈ steps, p.2.Fits fits) → d'.seen i steps = d.seen i steps
  | [], _, _, _, _ => rfl
  | (j, k) :: steps, d, d', h, hfits => by
    obtain ⟨hk, hfits⟩ := List.forall_mem_cons.1 hfits
    obtain ⟨hreport, hnext⟩ := h.step hR j hk
    have hengine : (d'.step j k).2.seats[i]?.bind Seat.engine =
        (d.step j k).2.seats[i]?.bind Seat.engine := by
      obtain ⟨hnone, hnone'⟩ | ⟨seat, seat', hseat, hseat', hsim⟩ := hnext.seat_cases i
      · rw [hnone, hnone']
        rfl
      · rw [hseat, hseat']
        exact hsim.engine
    rw [Desk.seen, Desk.seen, Sim.seen hR i steps hnext hfits, hreport, hengine]

/-- The steps that are made at one seat. -/
def own (i : Nat) : List (Nat × Step α) → List (Step α)
  | [] => []
  | (j, k) :: steps => if j = i then k :: own i steps else own i steps

/-- Whether a step at another seat sets the buffer size. -/
def othersResize (d : Desk σ α) (i : Nat) : List (Nat × Step α) → Bool
  | [] => false
  | (j, k) :: steps =>
    (j != i && d.seats[j]?.any (·.resizes k)) || (d.step j k).2.othersResize i steps

/-- A desk of seats that are opened in a given way. -/
structure Hosts (openings : List (Opening σ)) (d : Desk σ α) : Prop where
  openings_eq : d.seats.map Seat.opening = openings
  proper {i : Nat} {seat : Seat σ α} : d.seats[i]? = some seat → seat.Proper

variable {openings : List (Opening σ)} {d : Desk σ α} {i : Nat} {seat : Seat σ α}

omit [Store σ] in
theorem ofOpenings_hosts (openings : List (Opening σ)) (s : σ) :
    Hosts openings (ofOpenings openings s : Desk σ α) := by
  refine ⟨?_, fun {i seat} hseat e he => ?_⟩
  · rw [ofOpenings, List.map_map]
    exact List.map_id _
  · exact absurd (he.symm.trans (ofOpenings_engine hseat)) (Option.some_ne_none e)

omit [Store σ] in
theorem Hosts.opening (h : d.Hosts openings) (hseat : d.seats[i]? = some seat) :
    openings[i]? = some seat.opening := by
  rw [← h.openings_eq, List.getElem?_map, hseat, Option.map_some]

theorem Hosts.step (h : d.Hosts openings) (j : Nat) (k : Step α) :
    (d.step j k).2.Hosts openings := by
  refine ⟨(step_openings d j k).trans h.openings_eq, fun {n seat'} hn => ?_⟩
  cases hseat : d.seats[j]? with
  | none =>
    rw [step_eq_self hseat] at hn
    exact h.proper hn
  | some seat =>
    rw [getElem?_step hseat] at hn
    split at hn
    · obtain rfl := Option.some.inj hn
      exact stepSeat_proper (h.proper hseat) d.store k
    · exact h.proper hn

theorem Hosts.run : ∀ (steps : List (Nat × Step α)) {d : Desk σ α}, d.Hosts openings →
    (d.run steps).Hosts openings
  | [], _, hd => hd
  | (i, k) :: steps, _, hd => Hosts.run steps (hd.step i k)

variable {content : σ → Stored} {healthy : σ → Prop} {fits : Nat → Prop} {around : σ → μ}
  {answer : Evaluator μ}

/-- What is seen of a seat is the trace of its own steps on its shelf. -/
theorem seen_eq_trace (h : Store.Apart content healthy fits around)
    (htitles : (openings.map (·.flavor.title)).Nodup) {o : Opening σ} (ho : openings[i]? = some o)
    (hothers : ∀ j p, openings[j]? = some p → j ≠ i →
      p.evaluator.Preserves content healthy ∧ p.evaluator.Spares around) :
    ∀ (steps : List (Nat × Step α)) {d : Desk σ α} {seat : Seat σ α} {alone : Seat (Shelf μ) α},
      d.Hosts openings → healthy d.store → d.seats[i]? = some seat →
      Seat.Sim (fun s shelf => healthy s ∧ Shelf.of content around o.flavor.title s = shelf) seat
        alone →
      (∀ k ∈ own i steps, k.Fits fits) → d.othersResize i steps = false →
      d.seen i steps =
        alone.trace (Shelf.of content around o.flavor.title d.store) (own i steps)
  | [], _, _, _, _, _, _, _, _, _ => rfl
  | (j, k) :: steps, d, seat, alone, hd, hs, hseat, hsim, hfits, hsizes => by
    rw [othersResize, Bool.or_eq_false_iff] at hsizes
    obtain ⟨hsize, hrest⟩ := hsizes
    have hopening : seat.opening = o := Option.some.inj ((hd.opening hseat).symm.trans ho)
    have ih {seat' : Seat σ α} {alone' : Seat (Shelf μ) α} hs' (hseat' : _ = some seat')
        (hsim' : Seat.Sim _ seat' alone') hfits' :=
      seen_eq_trace h htitles ho hothers steps (hd.step j k) hs' hseat' hsim' hfits' hrest
    rw [seen]
    by_cases hji : j = i
    · subst hji
      rw [own, if_pos rfl] at hfits ⊢
      obtain ⟨hk, hfits⟩ := List.forall_mem_cons.1 hfits
      obtain ⟨hreport, hnext, hhealthy, hshelf⟩ :=
        stepSeat_sim (hopening ▸ Shelf.simAt h o.flavor.title) hsim ⟨hs, rfl⟩ hk
      have hstore : (d.step j k).2.store = (stepSeat seat d.store k).2.2 := by
        rw [step_eq hseat]
      have hseat' : (d.step j k).2.seats[j]? = some (stepSeat seat d.store k).2.1 := by
        rw [getElem?_step hseat, if_pos rfl]
      rw [if_pos rfl, Seat.trace, ih (hstore ▸ hhealthy) hseat' hnext hfits, hseat',
        Option.bind_some, step_report hseat, hstore, hshelf, ← hreport, ← hnext.engine]
    · rw [own, if_neg hji] at hfits ⊢
      rw [if_neg hji]
      cases hother : d.seats[j]? with
      | none =>
        rw [step_eq_self hother] at ih ⊢
        exact ih hs hseat hsim hfits
      | some other =>
        have hnext : (d.step j k).2.seats[i]? = some seat := by
          rw [getElem?_step hother, if_neg hji, hseat]
        have hstore : (d.step j k).2.store = (stepSeat other d.store k).2.2 := by
          rw [step_eq hother]
        -- the other seat does not set the size, so its step does not reach the shelf
        have hsized : other.resizes k = false := by
          simpa [hji, hother] using hsize
        have htrail := stepSeat_trail (hd.proper hother) d.store k
        rw [hsized] at htrail
        obtain ⟨hpreserves, hspares⟩ := hothers j other.opening (hd.opening hother) hji
        have hne : o.flavor.title ≠ other.opening.flavor.title := by
          rw [← hopening]
          refine title_ne ?_ hseat hother (Ne.symm hji)
          rw [← hd.openings_eq, List.map_map] at htitles
          exact htitles
        obtain ⟨hhealthy, hshelf⟩ := Shelf.of_trail h hpreserves hspares hne htrail hs
        rw [ih (hstore ▸ hhealthy) hnext hsim hfits, hstore, hshelf]

theorem own_map (i : Nat) : ∀ steps : List (Step α), own i (steps.map (i, ·)) = steps
  | [] => rfl
  | k :: steps => by rw [List.map_cons, own, if_pos rfl, own_map i steps]

/-- With one seat there are no others. -/
theorem othersResize_own (i : Nat) :
    ∀ (steps : List (Step α)) (d : Desk σ α), d.othersResize i (steps.map (i, ·)) = false
  | [], _ => rfl
  | k :: steps, d => by
    rw [List.map_cons, othersResize, othersResize_own i steps, bne_self_eq_false]
    rfl

/-- Sessions of different titles on one store that does not fail, in any order of their steps,
    openings among them. As long as no other session sets the buffer size, the reports of one
    session, with what its observers are told, and the states that it goes through are those of its
    own steps alone, on any store with the same content. -/
theorem seen_eq_alone {content' : τ → Stored} {healthy' : τ → Prop} {fits' : Nat → Prop}
    {around' : τ → μ} (h : Store.Apart content healthy fits around)
    (h' : Store.Apart content' healthy' fits' around')
    (htitles : (openings.map (·.flavor.title)).Nodup)
    {o : Opening σ} (ho : openings[i]? = some o) {e : Evaluator τ}
    (hanswer : o.evaluator.Apart content healthy around answer)
    (hanswer' : e.Apart content' healthy' around' answer)
    (hothers : ∀ j p, openings[j]? = some p → j ≠ i →
      p.evaluator.Preserves content healthy ∧ p.evaluator.Spares around)
    {s : σ} {t : τ} (hs : healthy s) (ht : healthy' t) (hcontent : content s = content' t)
    (haround : around s = around' t) (steps : List (Nat × Step α))
    (hfits : ∀ k ∈ own i steps, k.Fits fits ∧ k.Fits fits')
    (hsizes : (ofOpenings openings s : Desk σ α).othersResize i steps = false) :
    (ofOpenings openings s : Desk σ α).seen i steps =
      (ofOpenings [⟨o.flavor, o.defaultSize, e⟩] t : Desk τ α).seen 0
        ((own i steps).map (0, ·)) := by
  have hseat : (ofOpenings openings s : Desk σ α).seats[i]? = some ⟨o, none⟩ := by
    rw [ofOpenings, List.getElem?_map, ho, Option.map_some]
  have halone : ∀ j (p : Opening τ), [⟨o.flavor, o.defaultSize, e⟩][j]? = some p → j ≠ 0 →
      p.evaluator.Preserves content' healthy' ∧ p.evaluator.Spares around' := by
    intro j p hp hj
    obtain ⟨hlt, -⟩ := List.getElem?_eq_some_iff.1 hp
    exact absurd (Nat.lt_one_iff.1 hlt) hj
  have hshelf : Shelf.of content around o.flavor.title s =
      Shelf.of content' around' o.flavor.title t := by
    rw [Shelf.of, Shelf.of, hcontent, haround]
  have hclosed {ρ : Type} {e : Evaluator ρ} {R : ρ → Shelf μ → Prop}
      (he : e.Agrees R answer.shelved) : Seat.Sim (α := α) R ⟨⟨o.flavor, o.defaultSize, e⟩, none⟩
        ⟨⟨o.flavor, o.defaultSize, answer.shelved⟩, none⟩ :=
    ⟨fun _ hnone => (Option.some_ne_none _ hnone.symm).elim, ⟨rfl, rfl, he⟩, rfl⟩
  rw [seen_eq_trace h htitles ho hothers steps (ofOpenings_hosts openings s) hs hseat
      (hclosed (Shelf.agrees hanswer)) (fun k hk => (hfits k hk).1) hsizes,
    seen_eq_trace h' (by simp) rfl halone _ (ofOpenings_hosts _ t) ht rfl
      (hclosed (Shelf.agrees hanswer')) (by rw [own_map]; exact fun k hk => (hfits k hk).2)
      (othersResize_own 0 _ _), own_map]
  exact congrArg (fun shelf => Seat.trace _ shelf _) hshelf

/-- Two sessions on one file. The other session records, resets and is opened again in between, and
    its limit follows the size that the one session has set. -/
theorem seen_eq_alone_beside_resets :
    ∃ (openings : List (Opening Place)) (o : Opening Place) (place : Place)
      (steps : List (Nat × Step Unit)),
      place.backing = .file ['h'] ∧ place.held.commands ['A'] = [['x'], ['y']] ∧
      openings.map (·.flavor.title) = [['A'], ['B']] ∧ openings[0]? = some o ∧
      steps.map (·.1) = [0, 1, 0, 1, 0, 1, 1, 0, 1] ∧
      (ofOpenings openings place : Desk Place Unit).seen 0 steps =
        (ofOpenings [o] place : Desk Place Unit).seen 0 ((own 0 steps).map (0, ·)) ∧
      ((ofOpenings openings place : Desk Place Unit).seen 0 steps).map (·.2.map (·.history)) =
        [some ⟨[['x'], ['y']], 9, 2⟩, some ⟨[['x'], ['y'], ['1']], 9, 3⟩,
          some ⟨[['1'], "buffer 2".toList], 2, 2⟩, some ⟨[], 2, 0⟩] ∧
      ((ofOpenings openings place : Desk Place Unit).seen 1 steps).map
          (·.2.map (·.history.limit)) = [some 9, some 9, some 9, some 2, some 2] := by
  let o (σ : Type) : Opening σ := ⟨⟨['A'], ['>'], []⟩, 9, .pure .ok⟩
  let p (σ : Type) : Opening σ := ⟨⟨['B'], ['>'], []⟩, 9, .pure .error⟩
  let text : Text := "\x7b\"command_history\":\x7b\"A\":[\"x\",\"y\"]\x7d\x7d".toList
  let place : Place := .ofText text
  let stored : Stored := ⟨Buckets.empty.insert ['A'] [['x'], ['y']], none⟩
  let steps : List (Nat × Step Unit) :=
    [(0, .reopen), (1, .reopen), (0, .submit ['1']), (1, .append ['z']),
      (0, .evaluate "buffer 2".toList), (1, .submit ['2']), (1, .reset),
      (0, .submit "reset".toList), (1, .reopen)]
  obtain ⟨hhealthy, hheld⟩ : place.Healthy ∧ place.held = stored :=
    Place.healthy_of_read (by decide +kernel) (by decide +kernel) (by decide +kernel)
  have hstore : Store.Apart Place.held Place.Healthy (· < Word.limit) fun _ => () :=
    ⟨Place.reliable, fun _ _ => rfl, fun _ _ _ => rfl, fun _ => rfl, fun _ _ => rfl⟩
  have hanswer : (o Place).evaluator.Apart Place.held Place.Healthy (fun _ => ()) (.pure .ok) :=
    ⟨fun _ _ h => ⟨h, rfl⟩, Evaluator.along_pure .ok _⟩
  have hothers : ∀ j q, [o Place, p Place][j]? = some q → j ≠ 0 →
      q.evaluator.Preserves Place.held Place.Healthy ∧ q.evaluator.Spares fun _ => () := by
    intro j q hq hj
    obtain rfl | rfl := List.mem_pair.1 (List.mem_of_getElem? hq)
    · exact ⟨fun _ _ h => ⟨h, rfl⟩, fun _ _ => rfl⟩
    · exact ⟨fun _ _ h => ⟨h, rfl⟩, fun _ _ => rfl⟩
  have halone := seen_eq_alone hstore hstore (by decide) rfl hanswer hanswer hothers hhealthy
    hhealthy rfl rfl steps (by simp [steps, own, Step.Fits]) (by decide +kernel +zetaReduce)
  -- on a healthy file the same is seen as in memory, where it is evaluated
  have hmemory : Sim (fun place stored => Place.Healthy place ∧ place.held = stored)
      (ofOpenings [o Place, p Place] place : Desk Place Unit)
      (ofOpenings [o Stored, p Stored] stored) :=
    ofOpenings_sim (.cons ⟨rfl, rfl, Evaluator.agrees_pure .ok _⟩
      (.cons ⟨rfl, rfl, Evaluator.agrees_pure .error _⟩ .nil)) ⟨hhealthy, hheld⟩
  have hseen i := Sim.seen Place.reliable i steps hmemory (by simp [steps, Step.Fits])
  refine ⟨[o Place, p Place], o Place, place, steps, rfl, by rw [hheld]; rfl, rfl, rfl, rfl, halone,
    ?_, ?_⟩
  · rw [← hseen 0]
    decide +kernel +zetaReduce
  · rw [← hseen 1]
    decide +kernel +zetaReduce

end Desk

end Console
