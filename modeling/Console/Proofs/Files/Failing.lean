import Console.Proofs.Files.Parents
import Console.Proofs.Files.Writing

/-! What fails on files. Making directories leaves everything that is no directory as it is, and
    where it fails no path below the missing directory leads anywhere. A path that cannot be opened
    to be written leads to a directory or nowhere. -/

namespace Console.Files

variable {fs fs' fs'' : Files}

/-! ### More directories -/

/-- Every node is as it was, or it is a directory and was one or was not there. -/
def AddsDirectories (fs fs' : Files) : Prop :=
  ∀ n, fs'.node? n = fs.node? n ∨
    fs'.isDirectory n = true ∧ (fs.node? n).all Node.isDirectory = true

theorem isDirectory_iff {n : Nat} : fs.isDirectory n = (fs.node? n).any Node.isDirectory := by
  unfold isDirectory directory?
  rcases fs.node? n with _ | ⟨content, _, _⟩
  · rfl
  · cases content <;> rfl

theorem all_of_isDirectory {n : Nat} (h : fs.isDirectory n = true) :
    (fs.node? n).all Node.isDirectory = true := by
  rw [isDirectory_iff] at h
  cases hnode : fs.node? n with
  | none => rfl
  | some node => rwa [hnode] at h

theorem AddsDirectories.refl (fs : Files) : AddsDirectories fs fs := fun _ => .inl rfl

theorem AddsDirectories.trans (h : AddsDirectories fs fs') (h' : AddsDirectories fs' fs'') :
    AddsDirectories fs fs'' := by
  intro n
  obtain heq | ⟨hd, hall⟩ := h n
  · rw [← heq]
    exact h' n
  · right
    obtain heq' | ⟨hd', -⟩ := h' n
    · rw [isDirectory_iff, heq', ← isDirectory_iff]
      exact ⟨hd, hall⟩
    · exact ⟨hd', hall⟩

theorem node?_add_of_ne {d n : Nat} {name : Text} {content : Content} {mode : Nat}
    (hd : n ≠ d) (hn : n ≠ fs.nodes.size) :
    (fs.add d name content mode).2.node? n = fs.node? n := by
  unfold add updateEntries
  dsimp only
  split
  · simp [setContent, update, node?, Array.getElem?_modify, Array.getElem?_push, hn, Ne.symm hd]
  · simp [node?, Array.getElem?_push, hn]

theorem addsDirectories_add {d parent above : Nat} {entries : List (Text × Nat)}
    (hd : fs.directory? d = some (parent, entries)) (name : Text) (mode : Nat) :
    AddsDirectories fs (fs.add d name (.directory above []) mode).2 := by
  intro n
  by_cases hn : n = fs.nodes.size
  · right
    rw [isDirectory, directory?_eq_some.2 (by rw [content?_add hd, if_pos hn])]
    subst hn
    exact ⟨rfl, by simp [node?]⟩
  by_cases hnd : n = d
  · right
    subst hnd
    rw [isDirectory, directory?_eq_some.2 (by rw [content?_add hd, if_neg hn, if_pos rfl])]
    exact ⟨rfl, all_of_isDirectory (by rw [isDirectory, hd]; rfl)⟩
  · exact .inl (node?_add_of_ne hnd hn)

theorem makeDirectory_adds {base : Nat} {t : Text} {mode : Nat}
    (h : fs.makeDirectory base t mode = .ok fs') : AddsDirectories fs fs' := by
  obtain ⟨d, name, parent, entries, -, -, hd, -, rfl⟩ := makeDirectory_spec h
  exact addsDirectories_add hd name mode

theorem makeDirectories_adds (fs : Files) (base : Nat) (t : Text) :
    AddsDirectories fs (fs.makeDirectories base t).2 :=
  makeWithParents_rel .refl (fun h h' => h.trans h') (fun h => makeDirectory_adds h) fs base _ t

/-! ### Directories that cannot be made -/

theorem not_found_of_unless {base : Nat} {t : Text} {e e' : Fault}
    (h : (if (fs.find? base t).any fs.isDirectory then (.ok (), fs)
      else (.error e, fs) : Except Fault Unit × Files).1 = .error e') :
    ¬ (if (fs.find? base t).any fs.isDirectory then (.ok (), fs)
      else (.error e, fs) : Except Fault Unit × Files).2.HasDirectory base t := by
  split at h
  · exact nomatch h
  · rename_i hmissing
    rw [if_neg hmissing, hasDirectory_iff]
    exact hmissing

theorem makeWithParents_nil (fs : Files) (base fuel : Nat) :
    fs.makeWithParents base fuel [] = (.ok (), fs) := by
  cases fuel <;> rfl

/-- What could not be made is not there afterwards. -/
theorem makeWithParents_error {base fuel : Nat} {t : Text} {e : Fault}
    (h : (fs.makeWithParents base fuel t).1 = .error e) :
    ¬ (fs.makeWithParents base fuel t).2.HasDirectory base t := by
  fun_induction Files.makeWithParents fs base fuel t generalizing e with
  | case1 | case2 | case4 => cases h
  | case3 _ _ _ _ above hparent _ _ hmade ih =>
    -- nothing is there below a directory that could not be made
    rw [hmade] at ih
    rintro ⟨n, hn, -⟩
    have hne : above ≠ [] := by
      rintro rfl
      rw [makeWithParents_nil] at hmade
      cases hmade
    exact ih rfl (hasDirectory_parent hn hparent hne)
  | case5 => exact not_found_of_unless h
  | case6 _ _ _ hmade => exact fun hfound => makeDirectory_ne_notFound hfound hmade
  | case7 => exact not_found_of_unless h

/-! ### Paths that cannot be written -/

/-- A path with a slash at its end leads to a directory or nowhere. -/
theorem isDirectory_of_getLast? {base n : Nat} {t : Text} (h : fs.locate base t true = .ok n)
    (hslash : t.getLast? = some '/') : fs.isDirectory n = true := by
  obtain ⟨front, rfl⟩ := List.getLast?_eq_some_iff.1 hslash
  obtain ⟨-, hwalk⟩ := resolve_eq_ok.1 (locate_eq_ok.1 h)
  rw [start_append, show Text.splitOn '/' [] = [[]] from rfl] at hwalk
  obtain ⟨d, hd, hdirectory⟩ := exists_above hwalk
  obtain ⟨left, hleft⟩ := walkThrough_append hd
  have hthere := (walkThrough_empties hdirectory left 1).symm.trans ((hleft [[]]).symm.trans hwalk)
  exact Spot.there.inj (Except.ok.inj hthere) ▸ hdirectory

/-- What cannot be opened to be written is a directory, if it is there. -/
theorem openToWrite_error {base n mode : Nat} {t : Text} {e : Fault}
    (h : fs.openToWrite base t mode = .error e) (hn : fs.locate base t true = .ok n) :
    fs.isDirectory n = true := by
  unfold openToWrite at h
  split at h
  · rename_i hslash
    exact isDirectory_of_getLast? hn hslash
  rw [locate_eq_ok.1 hn] at h
  dsimp only at h
  split at h
  · assumption
  · exact nomatch h

/-- A node that is a directory or not there has no bytes. -/
theorem bytesOf_of_all {n : Nat} (h : (fs.node? n).all Node.isDirectory = true) :
    (fs.bytesOf n).toOption = none := by
  unfold bytesOf
  cases hnode : fs.node? n with
  | none => rfl
  | some node =>
    rw [hnode] at h
    obtain ⟨content, _, _⟩ := node
    cases content with
    | directory parent entries => rfl
    | _ => exact nomatch h

theorem read_of_locate {base : Nat} {t : Text}
    (h : ∀ n, fs.locate base t true = .ok n → (fs.node? n).all Node.isDirectory = true) :
    (fs.read base t).toOption = none := by
  unfold read
  cases hn : fs.locate base t true with
  | error e => rfl
  | ok n => exact bytesOf_of_all (h n hn)

/-- A path that leads to a directory or nowhere, after directories were added to the tree, has no
    bytes then and had none before. -/
theorem AddsDirectories.read {base : Nat} {t : Text} (h : AddsDirectories fs fs')
    (hgrows : Grows fs fs')
    (hdirectory : ∀ n, fs'.locate base t true = .ok n → fs'.isDirectory n = true) :
    (fs'.read base t).toOption = none ∧ (fs.read base t).toOption = none := by
  refine ⟨read_of_locate fun n hn => all_of_isDirectory (hdirectory n hn),
    read_of_locate fun n hn => ?_⟩
  obtain heq | ⟨-, hwas⟩ := h n
  · rw [← heq]
    exact all_of_isDirectory (hdirectory n (hgrows.locate hn))
  · exact hwas

end Console.Files
