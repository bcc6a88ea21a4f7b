import Console.Proofs.Store.Calls

/-! A journal of a store: every save of commands leaves a mark that tells whether it was made. As
    long as the latest save of a title was not refused, the commands that were to be saved are
    those that are stored, and nothing but a save of a title touches its bucket. -/

namespace Console

/-- What was done last about the commands of a title. -/
inductive Mark where | opened | saved | refused
  deriving DecidableEq, Repr

/-- What was done about the commands of each title, the latest first. -/
abbrev Marks := List (Text × Mark)

/-- A store with a journal. -/
structure Journal (σ : Type) where
  store : σ
  marks : Marks

namespace Journal

variable {σ : Type}

/-- Makes a call that leaves no mark. -/
def call {β : Type} (j : Journal σ) (c : β × σ) : β × Journal σ := (c.1, { j with store := c.2 })

/-- Leaves a mark. -/
def note (j : Journal σ) (title : Text) (m : Mark) : Journal σ :=
  { j with marks := (title, m) :: j.marks }

/-- The mark of a save. -/
def markOf (outcome : Except Fault Unit) : Mark :=
  match outcome with
  | .ok () => .saved
  | .error _ => .refused

instance [Store σ] : Store (Journal σ) where
  loadHistory j title := j.call (Store.loadHistory j.store title)
  saveHistory j title commands :=
    let c := Store.saveHistory j.store title commands
    (c.1, (j.call c).2.note title (markOf c.1))
  loadSize j := j.call (Store.loadSize j.store)
  saveSize j size := j.call (Store.saveSize j.store size)

/-- The journal has no part in the answers. -/
theorem store_hom [Store σ] : Store.Hom (Journal.store (σ := σ)) :=
  .of_calls (fun _ _ => rfl) (fun _ _ _ => rfl) (fun _ => rfl) fun _ _ => rfl

/-- Behind a journal a store fails as it does without. -/
theorem fallible [Store σ] {content : σ → Stored} (h : Store.Fallible content) :
    Store.Fallible fun j : Journal σ => content j.store :=
  ⟨fun j title => h.loadHistory j.store title, fun j title cs => h.saveHistory j.store title cs,
    fun j => h.loadSize j.store, fun j size => h.saveSize j.store size⟩

/-! ### What is stored -/

/-- The stored commands of a title are these, unless the latest save of them was refused. -/
def Holds (content : σ → Stored) (j : Journal σ) (title : Text) (entries : List Text) : Prop :=
  j.marks.lookup title ≠ some .refused → (content j.store).commands title = entries

/-- Nothing but the bucket of a title and the marks about it changed. -/
structure Within (content : σ → Stored) (title : Text) (j j' : Journal σ) : Prop where
  bucket (other : Text) : other ≠ title →
    (content j'.store).buckets.find? other = (content j.store).buckets.find? other
  mark (other : Text) : other ≠ title → j'.marks.lookup other = j.marks.lookup other

/-- No bucket and no mark changed. -/
structure Same (content : σ → Stored) (j j' : Journal σ) : Prop where
  buckets : (content j'.store).buckets = (content j.store).buckets
  marks : j'.marks = j.marks

variable {content : σ → Stored} {title other : Text} {entries : List Text} {j j' j'' : Journal σ}

theorem Within.trans (h : Within content title j j') (h' : Within content title j' j'') :
    Within content title j j'' :=
  ⟨fun other hne => (h'.bucket other hne).trans (h.bucket other hne),
    fun other hne => (h'.mark other hne).trans (h.mark other hne)⟩

theorem Same.within (h : Same content j j') : Within content title j j' :=
  ⟨fun _ _ => by rw [h.buckets], fun _ _ => by rw [h.marks]⟩

theorem Holds.same (h : Holds content j title entries) (hs : Same content j j') :
    Holds content j' title entries := by
  intro hmark
  rw [hs.marks] at hmark
  rw [Stored.commands, hs.buckets]
  exact h hmark

/-- What is done about one title leaves what holds of the others. -/
theorem Holds.within (h : Holds content j other entries) (hw : Within content title j j')
    (hne : other ≠ title) : Holds content j' other entries := by
  intro hmark
  rw [hw.mark other hne] at hmark
  rw [Stored.commands, hw.bucket other hne]
  exact h hmark

/-- After a save the commands that were to be saved are stored, or the save was refused. -/
theorem save [Store σ] (h : Store.Fallible content) (j : Journal σ) (title : Text)
    (entries : List Text) :
    Within content title j (Store.saveHistory j title entries).2 ∧
      Holds content (Store.saveHistory j title entries).2 title entries := by
  have hmarks : (Store.saveHistory j title entries).2.marks =
      (title, markOf (Store.saveHistory j title entries).1) :: j.marks := rfl
  have hmark (other : Text) (hne : other ≠ title) :
      (Store.saveHistory j title entries).2.marks.lookup other = j.marks.lookup other := by
    rw [hmarks, List.lookup_cons, beq_false_of_ne hne]
  obtain ⟨hok, hcontent⟩ | ⟨⟨e, herror⟩, hcontent⟩ :=
    (fallible h).saveHistory_cases j title entries
  · refine ⟨⟨fun other hne => ?_, hmark⟩, fun _ => ?_⟩
    · rw [hcontent]
      exact Buckets.find?_insert_of_ne _ hne entries
    · rw [hcontent]
      exact congrArg (·.getD []) (Buckets.find?_insert_self _ title entries)
  · refine ⟨⟨fun other _ => by rw [hcontent], hmark⟩, fun hne => absurd ?_ hne⟩
    rw [hmarks, List.lookup_cons_self, herror]
    rfl

end Journal

end Console
