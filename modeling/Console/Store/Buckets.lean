import Console.Text.Basic

/-! Lists of commands by title, ordered by the characters of the titles. Two of them are equal
    exactly when they answer every look-up alike. -/

namespace Console

/-- Lists of commands under titles in strictly rising order. -/
structure Buckets where
  entries : List (Text × List Text)
  ordered : entries.Pairwise fun a b => a.1 < b.1

namespace Buckets

/-- No titles. -/
def empty : Buckets := ⟨[], .nil⟩

/-- The list under a title. -/
def find? (b : Buckets) (title : Text) : Option (List Text) := b.entries.lookup title

/-- Puts a list under a title, at its place in the order. -/
def insertEntry (title : Text) (commands : List Text) :
    List (Text × List Text) → List (Text × List Text)
  | [] => [(title, commands)]
  | (other, kept) :: rest =>
    if title < other then (title, commands) :: (other, kept) :: rest
    else if title = other then (title, commands) :: rest
    else (other, kept) :: insertEntry title commands rest

/-- An entry after an insertion is the new one or one from before. -/
theorem mem_insertEntry {title : Text} {commands : List Text} {p : Text × List Text} :
    ∀ {entries : List (Text × List Text)}, p ∈ insertEntry title commands entries →
      p = (title, commands) ∨ p ∈ entries
  | [], h => by simpa [insertEntry] using h
  | (other, kept) :: rest, h => by
    unfold insertEntry at h
    split at h
    · simpa using h
    split at h
    · rcases List.mem_cons.1 h with rfl | h
      · exact .inl rfl
      · exact .inr (List.mem_cons_of_mem _ h)
    · rcases List.mem_cons.1 h with rfl | h
      · exact .inr List.mem_cons_self
      · exact (mem_insertEntry h).imp id (List.mem_cons_of_mem _)

/-- Inserting keeps the order. -/
theorem ordered_insertEntry (title : Text) (commands : List Text) :
    ∀ {entries : List (Text × List Text)}, entries.Pairwise (fun a b => a.1 < b.1) →
      (insertEntry title commands entries).Pairwise fun a b => a.1 < b.1
  | [], _ => by simp [insertEntry]
  | (other, kept) :: rest, h => by
    have hrest := List.pairwise_cons.1 h
    unfold insertEntry
    split
    · rename_i hlt
      refine List.pairwise_cons.2 ⟨fun p hp => ?_, h⟩
      rcases List.mem_cons.1 hp with rfl | hp
      · exact hlt
      · exact List.lt_trans hlt (hrest.1 p hp)
    split
    · rename_i heq
      exact List.pairwise_cons.2 ⟨fun p hp => heq ▸ hrest.1 p hp, hrest.2⟩
    · rename_i hlt hne
      refine List.pairwise_cons.2 ⟨fun p hp => ?_, ordered_insertEntry title commands hrest.2⟩
      rcases mem_insertEntry hp with rfl | hp
      · exact Decidable.byContradiction fun hn =>
          hne (List.le_antisymm (List.not_lt.1 hn) (List.not_lt.1 hlt))
      · exact hrest.1 p hp

/-- Puts a list under a title in place of the one before, if any. -/
def insert (b : Buckets) (title : Text) (commands : List Text) : Buckets :=
  ⟨insertEntry title commands b.entries, ordered_insertEntry title commands b.ordered⟩

end Buckets

end Console
