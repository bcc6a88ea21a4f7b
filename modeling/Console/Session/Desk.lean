import Console.Screen

/-! A desk: sessions side by side on one store. Each seat knows how its session is opened, and holds
    the session if opening succeeded. -/

namespace Console

/-- How the session of a seat is opened, and what answers its expressions. -/
structure Opening (σ : Type) where
  flavor : Flavor
  defaultSize : Nat
  evaluator : Evaluator σ

/-- A seat with its session, if it is open. -/
structure Seat (σ α : Type) where
  opening : Opening σ
  engine : Option (Engine α)

/-- The seats and the store that they share. -/
structure Desk (σ α : Type) where
  seats : List (Seat σ α)
  store : σ

/-- A step of one session. -/
inductive Step (α : Type) where
  | reopen
  | commit (full : Text)
  | evaluate (expression : Text)
  | append (expression : Text)
  | setBufferSize (size : Nat)
  | submit (line : Text)
  | executeOnce (expression : Text)
  | promptText
  | previous
  | next
  | press (arrow : Screen.Arrow)
  | reset
  | search (query : Text)
  | recent (count : Nat)
  | flavor
  | subscribe (observer : α)
  | unsubscribe (id : Nat)

/-- What a step answers. -/
inductive Answer where
  | done
  | notOpen
  | failed (cause : Fault)
  | text (t : Text)
  | recalled (command : Option Text)
  | texts (ts : List Text)
  | flavor (f : Flavor)
  | id (n : Nat)
  | flag (b : Bool)

/-- What a step shows: its answer, what the observers are told, and the events for the log. -/
structure Report (α : Type) where
  answer : Answer
  notices : List (Notice α)
  events : List Event

namespace Desk

variable {σ α : Type} [Store σ]

/-- Opens the session of a seat afresh, which nobody observes then. -/
def openSeat (seat : Seat σ α) (store : σ) : Report α × Seat σ α × σ :=
  match Session.start seat.opening.flavor seat.opening.defaultSize store with
  | (.error e, store) => (⟨.failed e, [], []⟩, { seat with engine := none }, store)
  | (.ok s, store) =>
    (⟨.done, [], [s.openedEvent]⟩, { seat with engine := some (.ofSession s) }, store)

/-- One step of an open session. -/
def stepEngine (evaluator : Evaluator σ) (e : Engine α) (store : σ) :
    Step α → Report α × Engine α × σ :=
  let turn {β : Type} (t : Turn σ α β) (answer : β → Answer) : Report α × Engine α × σ :=
    (⟨answer t.answer, t.notices, t.events⟩, t.engine, t.store)
  let plain (answer : Answer) : Report α × Engine α × σ := (⟨answer, [], []⟩, e, store)
  fun
  | .reopen => plain .done
  | .commit full => turn (e.commit evaluator store full) fun _ => .done
  | .evaluate expression => turn (e.evaluate evaluator store expression) fun _ => .done
  | .append expression => turn (e.append store expression) fun _ => .done
  | .setBufferSize size => turn (e.setBufferSize store size) fun _ => .done
  | .submit line => turn (Screen.submit evaluator e store line) .text
  | .executeOnce expression => turn (Screen.executeOnce evaluator e store expression) .text
  | .promptText => plain (.text (Screen.promptText e))
  | .previous => turn (e.previous store) .recalled
  | .next => turn (e.next store) .recalled
  | .press arrow => turn (Screen.press arrow e store) .recalled
  | .reset => turn (e.reset store) fun
    | .ok () => .done
    | .error cause => .failed cause
  | .search query => plain (.texts (e.session.history.search query))
  | .recent count => plain (.texts (e.session.history.recent count))
  | .flavor => plain (.flavor e.session.flavor)
  | .subscribe observer =>
    let (id, observers) := e.observers.subscribe observer
    (⟨.id id, [], []⟩, { e with observers := observers }, store)
  | .unsubscribe id =>
    let (found, observers) := e.observers.unsubscribe id
    (⟨.flag found, [], []⟩, { e with observers := observers }, store)

/-- One step at a seat. -/
def stepSeat (seat : Seat σ α) (store : σ) : Step α → Report α × Seat σ α × σ
  | .reopen => openSeat seat store
  | step =>
    match seat.engine with
    | none => (⟨.notOpen, [], []⟩, seat, store)
    | some e =>
      let (report, e, store) := stepEngine seat.opening.evaluator e store step
      (report, { seat with engine := some e }, store)

/-- One step at the seat of this number. -/
def step (d : Desk σ α) (i : Nat) (s : Step α) : Report α × Desk σ α :=
  match d.seats[i]? with
  | none => (⟨.notOpen, [], []⟩, d)
  | some seat =>
    let (report, seat, store) := stepSeat seat d.store s
    (report, ⟨d.seats.set i seat, store⟩)

/-- A desk at which no session is open yet. -/
def ofOpenings (openings : List (Opening σ)) (store : σ) : Desk σ α :=
  ⟨openings.map fun o => ⟨o, none⟩, store⟩

end Desk

end Console
