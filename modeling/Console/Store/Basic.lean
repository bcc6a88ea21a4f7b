import Console.Fault
import Console.Store.Stored

/-! Stores of command histories. A store answers four calls, each of which may fail and leaves the
    store in its next state. In memory no call fails; a store with switches refuses the calls that
    are switched off before it touches anything. -/

namespace Console

/-- The outcome of a call and the store after it. -/
abbrev Call (σ α : Type) := Except Fault α × σ

/-- The four calls of a store. -/
class Store (σ : Type) where
  /-- The commands stored under a title, oldest first. -/
  loadHistory : σ → Text → Call σ (Option (List Text))
  /-- Replaces the commands stored under a title. -/
  saveHistory : σ → Text → List Text → Call σ Unit
  /-- The stored buffer size. -/
  loadSize : σ → Call σ (Option Nat)
  /-- Replaces the stored buffer size. -/
  saveSize : σ → Nat → Call σ Unit

/-- In memory every call succeeds. -/
instance : Store Stored where
  loadHistory s title := (.ok (s.buckets.find? title), s)
  saveHistory s title commands := (.ok (), { s with buckets := s.buckets.insert title commands })
  loadSize s := (.ok s.size, s)
  saveSize s size := (.ok (), { s with size := some size })

/-- A store with a switch for its loads and one for its saves. -/
structure Switched (σ : Type) where
  store : σ
  loadsFail : Bool
  savesFail : Bool

namespace Switched

/-- Makes a call unless it is switched off. -/
def call {σ α : Type} (s : Switched σ) (fails : Bool) (name : Text) (f : σ → Call σ α) :
    Call (Switched σ) α :=
  if fails then (.error (.refused name), s)
  else ((f s.store).1, { s with store := (f s.store).2 })

/-- Calls that are switched off are refused, and others are made. -/
instance {σ : Type} [Store σ] : Store (Switched σ) where
  loadHistory s title :=
    s.call s.loadsFail "load_history".toList fun store => Store.loadHistory store title
  saveHistory s title commands :=
    s.call s.savesFail "save_history".toList fun store => Store.saveHistory store title commands
  loadSize s := s.call s.loadsFail "load_buffer_size".toList fun store => Store.loadSize store
  saveSize s size :=
    s.call s.savesFail "save_buffer_size".toList fun store => Store.saveSize store size

end Switched

end Console
