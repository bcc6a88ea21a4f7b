import Console.Text.Basic

/-! Listeners to the changes of a session. A listener is known by a number that is never given
    again, and all are told of a change in the order of their subscription. -/

namespace Console

/-- What changed in a session. -/
inductive Change where
  | transcriptChanged
  | cleared
  | reset
  | bufferSizeChanged (size : Nat)
  deriving DecidableEq, Repr

/-- Listeners of type `α` with their numbers, oldest first. -/
structure Observers (α : Type) where
  listeners : List (Nat × α)
  nextId : Nat

namespace Observers

variable {α : Type}

/-- No listeners; the first number is 1. -/
def empty : Observers α := ⟨[], 1⟩

/-- Adds a listener and gives its number. -/
def subscribe (o : Observers α) (listener : α) : Nat × Observers α :=
  (o.nextId, ⟨o.listeners ++ [(o.nextId, listener)], o.nextId + 1⟩)

/-- Removes a listener and tells whether there was one. -/
def unsubscribe (o : Observers α) (id : Nat) : Bool × Observers α :=
  let kept := o.listeners.filter fun (other, _) => other != id
  (kept.length < o.listeners.length, { o with listeners := kept })

/-- Who is told of a change, in order. -/
def notify (o : Observers α) (change : Change) : List (α × Change) :=
  o.listeners.map fun (_, listener) => (listener, change)

/-- A description that gives the number of listeners. -/
def describe (o : Observers α) : Text :=
  "Observers \x7b listeners: ".toList ++ Text.ofNat o.listeners.length ++ " \x7d".toList

end Observers

end Console
