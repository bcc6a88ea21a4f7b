import Console.Text.Basic

/-! Keys with their values, in the order in which the keys came. Each key stands once if entries are
    only ever put. -/

namespace Console.Entries

/-- Puts an entry in place of the one of its key, or at the end. -/
def put {α : Type} (key : Text) (a : α) : List (Text × α) → List (Text × α)
  | [] => [(key, a)]
  | (other, b) :: rest => if key = other then (key, a) :: rest else (other, b) :: put key a rest

/-- The key that was put has the value that was put. -/
theorem lookup_put_self {α : Type} (key : Text) (a : α) (l : List (Text × α)) :
    (put key a l).lookup key = some a := by
  induction l with
  | nil => simp [put]
  | cons e rest ih =>
    obtain ⟨other, b⟩ := e
    by_cases h : key = other
    · simp [put, h]
    · simp [put, h, List.lookup_cons, beq_false_of_ne h, ih]

/-- The other keys keep their values. -/
theorem lookup_put_of_ne {α : Type} {key other : Text} (h : other ≠ key) (a : α)
    (l : List (Text × α)) : (put key a l).lookup other = l.lookup other := by
  induction l with
  | nil => simp [put, List.lookup_cons, beq_false_of_ne h]
  | cons e rest ih =>
    obtain ⟨k, b⟩ := e
    by_cases hk : key = k
    · subst hk
      simp [put, List.lookup_cons, beq_false_of_ne h]
    · by_cases ho : other = k <;> simp [put, hk, List.lookup_cons, ho, ih]

end Console.Entries
