import Console.Entries
import Mathlib.Data.List.Nodup

/-! The keys of entries. A key has a value exactly if it is among the keys. Putting an entry changes
    the value of its key or adds the key at the end, so keys that stand once go on standing once. -/

namespace Console.Entries

variable {α : Type} {key : Text} {l : List (Text × α)}

/-- The keys in their order. -/
def keys (l : List (Text × α)) : List Text := l.map Prod.fst

theorem lookup_eq_none : l.lookup key = none ↔ key ∉ keys l := by
  simp only [List.lookup_eq_none_iff, bne_iff_ne, ne_eq, keys, List.mem_map, not_exists, not_and]
  exact forall₂_congr fun p _ => not_congr eq_comm

theorem keys_map {β : Type} (f : α → β) (l : List (Text × α)) :
    keys (l.map fun (key, a) => (key, f a)) = keys l := by
  simp [keys, Function.comp_def]

theorem lookup_map {β : Type} (f : α → β) (key : Text) (l : List (Text × α)) :
    (l.map fun (key, a) => (key, f a)).lookup key = (l.lookup key).map f := by
  induction l with
  | nil => rfl
  | cons e l ih =>
    rw [List.map_cons, List.lookup_cons, List.lookup_cons, ih]
    split <;> rfl

/-- Entries without the key are passed by. -/
theorem put_append (h : key ∉ keys l) (a : α) (rest : List (Text × α)) :
    put key a (l ++ rest) = l ++ put key a rest := by
  induction l with
  | nil => rfl
  | cons e l ih =>
    obtain ⟨other, b⟩ := e
    rw [keys, List.map_cons, List.mem_cons, not_or] at h
    rw [List.cons_append, put, if_neg h.1, ih h.2, List.cons_append]

theorem keys_put (key : Text) (a : α) (l : List (Text × α)) :
    keys (put key a l) = if key ∈ keys l then keys l else keys l ++ [key] := by
  induction l with
  | nil => rfl
  | cons e l ih =>
    obtain ⟨other, b⟩ := e
    by_cases h : key = other
    · subst h
      simp [put, keys]
    · have hmem : key ∈ keys ((other, b) :: l) ↔ key ∈ keys l := by simp [keys, h]
      rw [put, if_neg h]
      change other :: keys (put key a l) = _
      rw [ih]
      by_cases hkey : key ∈ keys l
      · rw [if_pos hkey, if_pos (hmem.2 hkey)]
        rfl
      · rw [if_neg hkey, if_neg (mt hmem.1 hkey)]
        rfl

theorem nodup_put (h : (keys l).Nodup) (key : Text) (a : α) : (keys (put key a l)).Nodup := by
  rw [keys_put]
  split
  · exact h
  · rename_i hkey
    exact List.nodup_append.2 ⟨h, List.nodup_singleton key, fun k hk _ hk' heq =>
      hkey (List.mem_singleton.1 hk' ▸ heq ▸ hk)⟩

end Console.Entries
