import Console.Text.Lowercase

/-! The command history: a list of commands, oldest first, that is cut from its old end to a limit,
    and a cursor that walks over it. A cursor at the length of the list selects nothing. -/

namespace Console

/-- Commands with a limit and a cursor. -/
structure History where
  entries : List Text
  limit : Nat
  cursor : Nat
  deriving DecidableEq, Repr

namespace History

/-- The limit where nothing else is said. -/
def defaultLimit : Nat := 50

/-- No commands. -/
def empty (limit : Nat) : History := ⟨[], limit, 0⟩

/-- A history of commands from a store, which may be more than the limit until the next change. -/
def ofEntries (entries : List Text) (limit : Nat) : History := ⟨entries, limit, entries.length⟩

/-- The newest commands, at most `limit`. -/
def newest (limit : Nat) (entries : List Text) : List Text := entries.drop (entries.length - limit)

/-- Adds a command, and tells whether old ones went. The cursor moves behind the newest. -/
def push (h : History) (command : Text) : Bool × History :=
  let grown := h.entries ++ [command]
  let kept := newest h.limit grown
  (h.limit < grown.length, { h with entries := kept, cursor := kept.length })

/-- Changes the limit, and tells whether old commands went. -/
def setLimit (h : History) (limit : Nat) : Bool × History :=
  let kept := newest limit h.entries
  (limit < h.entries.length, ⟨kept, limit, min h.cursor kept.length⟩)

/-- One step to older commands; at the oldest there is none and the cursor stays. -/
def previous (h : History) : Option Text × History :=
  if h.cursor = 0 ∨ h.entries = [] then (none, h)
  else (h.entries[h.cursor - 1]?, { h with cursor := h.cursor - 1 })

/-- One step to newer commands; behind the newest nothing is selected. -/
def next (h : History) : Option Text × History :=
  if h.cursor + 1 < h.entries.length then
    (h.entries[h.cursor + 1]?, { h with cursor := h.cursor + 1 })
  else (none, { h with cursor := h.entries.length })

/-- The commands that contain the query when letter case is ignored, newest first. -/
def search (h : History) (query : Text) : List Text :=
  h.entries.reverse.filter fun e => Text.contains query.lower e.lower

/-- The newest commands, newest first. -/
def recent (h : History) (count : Nat) : List Text := h.entries.reverse.take count

end History

end Console
