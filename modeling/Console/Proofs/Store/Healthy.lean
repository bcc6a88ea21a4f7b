import Console.Proofs.Store.Requests
import Console.Store.Place

/-! The stores that the program uses, and when they do not fail. A store in memory never does. A
    store in a file does not as long as the file can be read, keeps what it is given and takes a
    save, and every save leaves it so. A place has one of the two. -/

namespace Console

open Store (Agree Reliable)

/-! ### A file -/

namespace FileStore

/-- What the file gives. -/
def held (s : FileStore) : Stored := s.read.toOption.getD .empty

/-- A file that can be read, keeps what it is given, and takes a save. -/
structure Healthy (s : FileStore) : Prop where
  mirrors : ∃ content, Mirrors s content
  takes : s.takes = true

theorem Mirrors.held_eq {s : FileStore} {content : Stored} (h : Mirrors s content) :
    s.held = content := by
  rw [held, h.read]
  rfl

theorem Healthy.mirrors_held {s : FileStore} (h : Healthy s) : Mirrors s s.held := by
  obtain ⟨content, hmirrors⟩ := h.mirrors
  rw [hmirrors.held_eq]
  exact hmirrors

theorem Healthy.load {s : FileStore} (h : Healthy s) {β : Type} (part : Stored → β) :
    Agree (fun s stored => Healthy s ∧ s.held = stored) (s.read.map part, s)
      (.ok (part s.held), s.held) := by
  refine ⟨?_, h, rfl⟩
  rw [h.mirrors_held.read]
  rfl

theorem Healthy.save {s : FileStore} (h : Healthy s) (change : Stored → Stored)
    (hsize : ∀ n ∈ (change s.held).size, n < Json.naturalLimit) :
    Agree (fun s stored => Healthy s ∧ s.held = stored) (s.modify change)
      (.ok (), change s.held) := by
  obtain ⟨-, hrefuses⟩ | ⟨hok, hread, hkeeps, htakes⟩ :=
    modify_cases h.mirrors_held.read h.mirrors_held.keeps change hsize
  · exact absurd (h.takes.symm.trans hrefuses) Bool.noConfusion
  · have hmirrors : Mirrors (s.modify change).2 (change s.held) := ⟨hread, hkeeps⟩
    exact ⟨hok.symm, ⟨⟨_, hmirrors⟩, htakes⟩, hmirrors.held_eq⟩

/-- A healthy file does not fail the sessions that use it, and holds what memory would hold. -/
theorem reliable : Reliable held Healthy (· < Word.limit) := by
  refine fun title => ⟨id, ?_, ?_, ?_, ?_⟩
  · rintro s _ ⟨h, rfl⟩
    exact h.load fun content => content.buckets.find? title
  · rintro s _ commands ⟨h, rfl⟩
    exact h.save _ fun n hn => size_lt_of_read h.mirrors_held.read n hn
  · rintro s _ ⟨h, rfl⟩
    exact h.load Stored.size
  · rintro s _ size hfits ⟨h, rfl⟩
    exact h.save _ fun n hn => Option.some.inj hn ▸ hfits

/-- No change moves the store. -/
theorem modify_place (s : FileStore) (change : Stored → Stored) :
    (s.modify change).2 = ⟨(s.modify change).2.files, s.base, s.path⟩ := by
  have hparent : s.makeParent.2 = ⟨s.makeParent.2.files, s.base, s.path⟩ := by
    unfold makeParent
    split
    · rfl
    · rfl
    · split <;> rfl
  unfold modify write
  split
  · rfl
  split
  · rename_i hmake
    rw [hmake] at hparent
    exact hparent
  rename_i hmake
  rw [hmake] at hparent
  split
  · exact hparent
  · dsimp only at hparent ⊢
    rw [hparent]

end FileStore

/-! ### A place -/

namespace Place

/-- What is stored at a place. -/
def held (p : Place) : Stored :=
  match p.backing with
  | .memory content => content
  | .file path => FileStore.held ⟨p.files, p.base, path⟩

/-- A place whose store is in memory or in a healthy file. -/
def Healthy (p : Place) : Prop :=
  match p.backing with
  | .memory _ => True
  | .file path => FileStore.Healthy ⟨p.files, p.base, path⟩

/-- A place with one file, which holds a text and is its store. -/
def ofText (t : Text) : Place :=
  ⟨Files.empty.plant Files.root ['h'] (Text.toUtf8 t), Files.root, .file ['h']⟩

theorem healthy_of_read {files : Files} {base : Nat} {path : Text} {content : Stored}
    (hread : FileStore.read ⟨files, base, path⟩ = .ok content)
    (hkeeps : FileStore.keeps ⟨files, base, path⟩ = true)
    (htakes : FileStore.takes ⟨files, base, path⟩ = true) :
    Healthy ⟨files, base, .file path⟩ ∧ held ⟨files, base, .file path⟩ = content := by
  have hmirrors : FileStore.Mirrors ⟨files, base, path⟩ content := ⟨hread, hkeeps⟩
  exact ⟨⟨⟨content, hmirrors⟩, htakes⟩, hmirrors.held_eq⟩

/-- A call goes at a place as it goes in its store. -/
theorem call_agree {β : Type} {memory : Stored → Call Stored β}
    {file : FileStore → Call FileStore β} {p : Place} (hp : p.Healthy)
    (hplace : ∀ s, (file s).2 = ⟨(file s).2.files, s.base, s.path⟩)
    (hfile : ∀ s : FileStore, s.Healthy →
      Agree (fun s stored => FileStore.Healthy s ∧ s.held = stored) (file s) (memory s.held)) :
    Agree (fun p stored => Healthy p ∧ p.held = stored) (p.call memory file) (memory p.held) := by
  obtain ⟨files, base, backing⟩ := p
  cases backing with
  | memory content => exact ⟨rfl, trivial, rfl⟩
  | file path =>
    obtain ⟨hanswer, hstore⟩ := hfile ⟨files, base, path⟩ hp
    rw [hplace] at hstore
    exact ⟨hanswer, hstore⟩

/-- A place in memory or with a healthy file does not fail its sessions. -/
theorem reliable : Reliable held Healthy (· < Word.limit) := by
  refine fun title => ⟨id, ?_, ?_, ?_, ?_⟩
  · rintro p _ ⟨h, rfl⟩
    exact call_agree h (fun _ => rfl) fun s hs => (FileStore.reliable title).loadHistory ⟨hs, rfl⟩
  · rintro p _ commands ⟨h, rfl⟩
    exact call_agree h (fun s => s.modify_place _) fun s hs =>
      (FileStore.reliable title).saveHistory commands ⟨hs, rfl⟩
  · rintro p _ ⟨h, rfl⟩
    exact call_agree h (fun _ => rfl) fun s hs => (FileStore.reliable title).loadSize ⟨hs, rfl⟩
  · rintro p _ size hfits ⟨h, rfl⟩
    exact call_agree h (fun s => s.modify_place _) fun s hs =>
      (FileStore.reliable title).saveSize hfits ⟨hs, rfl⟩

end Place

end Console
