import Console.Session.Basic

/-! A session with its observers. Committing, evaluating and resetting tell every observer of one
    change when the session is already in its new state; nothing else tells them anything. -/

namespace Console

/-- A session and its observers of type `α`. -/
structure Engine (α : Type) where
  session : Session
  observers : Observers α

/-- What an observer is told, with the offset that it reads back from the session. -/
structure Notice (α : Type) where
  observer : α
  change : Change
  offset : Nat

/-- What one step leaves behind. -/
structure Turn (σ α β : Type) where
  answer : β
  engine : Engine α
  store : σ
  notices : List (Notice α)
  events : List Event

namespace Engine

variable {σ α : Type} [Store σ]

/-- A session that nobody observes yet. -/
def ofSession (s : Session) : Engine α := ⟨s, .empty⟩

/-- What the observers are told of a change. -/
def notices (e : Engine α) (change : Change) : List (Notice α) :=
  (e.observers.notify change).map fun (observer, change) =>
    ⟨observer, change, e.session.transcript.offset⟩

/-- A step that tells nobody. -/
def quietly {β : Type} (e : Engine α) (store : σ) (f : Running σ → β × Running σ) : Turn σ α β :=
  let (answer, r) := f ⟨e.session, store, []⟩
  ⟨answer, { e with session := r.session }, r.store, [], r.events⟩

/-- A step after which the observers are told of the change that it answers. -/
def loudly {β : Type} (e : Engine α) (store : σ) (f : Running σ → (Change × β) × Running σ) :
    Turn σ α β :=
  let t := e.quietly store f
  { t with answer := t.answer.2, notices := t.engine.notices t.answer.1 }

/-- Submits the whole text as the user left it. -/
def commit (evaluator : Evaluator σ) (e : Engine α) (store : σ) (full : Text) : Turn σ α Unit :=
  e.loudly store fun r => let (change, r) := r.commit evaluator full; ((change, ()), r)

/-- Records and runs one expression. -/
def evaluate (evaluator : Evaluator σ) (e : Engine α) (store : σ) (expression : Text) :
    Turn σ α Unit :=
  e.loudly store fun r => let (change, r) := r.evaluate evaluator expression; ((change, ()), r)

/-- Records an expression without running it. -/
def append (e : Engine α) (store : σ) (expression : Text) : Turn σ α Unit :=
  e.quietly store fun r => ((), r.addCommand expression)

/-- Steps to an older command. -/
def previous (e : Engine α) (store : σ) : Turn σ α (Option Text) := e.quietly store Running.previous

/-- Steps to a newer command. -/
def next (e : Engine α) (store : σ) : Turn σ α (Option Text) := e.quietly store Running.next

/-- Changes the buffer size without recording a command. -/
def setBufferSize (e : Engine α) (store : σ) (size : Nat) : Turn σ α Unit :=
  e.quietly store fun r => ((), r.setBufferSize size)

/-- Resets the session; the observers are told also if the store fails. -/
def reset (e : Engine α) (store : σ) : Turn σ α (Except Fault Unit) :=
  e.loudly store fun r => let (outcome, r) := r.reset; ((.reset, outcome), r)

end Engine

end Console
