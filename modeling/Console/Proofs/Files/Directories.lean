import Console.Proofs.Files.Naming

/-! Making directories. A tree grows by it, whether it ends in a fault or not. A directory that was
    made is found by its path, and where a path leads to a directory, making it succeeds. So what
    could be made once can be made again, and again after the tree has grown. -/

namespace Console.Files

variable {fs fs' : Files}

/-! ### Growth -/

/-- A directory is made under a free name of the directory in front of it. -/
theorem makeDirectory_spec {base : Nat} {t : Text} {mode : Nat}
    (h : fs.makeDirectory base t mode = .ok fs') : ∃ d name parent entries,
      fs.placeOf base t = .ok (d, name) ∧ ¬ (name = [] ∨ name = ['.'] ∨ name = ['.', '.']) ∧
      fs.directory? d = some (parent, entries) ∧ entries.lookup name = none ∧
      fs' = (fs.add d name (.directory d []) mode).2 := by
  obtain ⟨⟨d, name⟩, hplace, h⟩ := bind_ok h
  dsimp only at h
  split at h
  · exact nomatch h
  rename_i hname
  split at h
  · exact nomatch h
  rename_i parent entries hd
  split at h
  · exact nomatch h
  rename_i hlookup
  exact ⟨d, name, parent, entries, hplace, hname, hd, Option.not_isSome_iff_eq_none.1 hlookup,
    (Except.ok.inj h).symm⟩

theorem makeDirectory_grows {base : Nat} {t : Text} {mode : Nat}
    (h : fs.makeDirectory base t mode = .ok fs') : Grows fs fs' := by
  obtain ⟨d, name, parent, entries, -, -, hd, -, rfl⟩ := makeDirectory_spec h
  exact grows_add hd name (fun _ => Content.noConfusion) mode

/-- What was made before a fault stays. So what every directory that is made does to a tree, all of
    them together do, also where they end in a fault. -/
theorem makeWithParents_rel {R : Files → Files → Prop} (hrefl : ∀ fs, R fs fs)
    (htrans : ∀ {fs fs' fs''}, R fs fs' → R fs' fs'' → R fs fs'')
    (hmakes : ∀ {fs fs' base t mode}, fs.makeDirectory base t mode = .ok fs' → R fs fs')
    (fs : Files) (base fuel : Nat) (t : Text) : R fs (fs.makeWithParents base fuel t).2 := by
  fun_induction Files.makeWithParents fs base fuel t with
  | case1 => exact hrefl _
  | case2 _ _ _ _ hmade => exact hmakes hmade
  | case3 _ _ _ _ _ _ _ _ habove ih =>
    rw [habove] at ih
    exact ih
  | case4 _ _ _ _ _ _ _ habove _ hmade ih =>
    rw [habove] at ih
    exact htrans ih (hmakes hmade)
  | case5 _ unlessThere _ _ _ _ _ _ habove _ _ ih =>
    rw [habove] at ih
    unfold unlessThere
    split <;> exact ih
  | case6 => exact hrefl _
  | case7 _ _ unlessThere =>
    unfold unlessThere
    split <;> exact hrefl _

theorem makeDirectories_grows (fs : Files) (base : Nat) (t : Text) :
    Grows fs (fs.makeDirectories base t).2 :=
  makeWithParents_rel .refl .trans makeDirectory_grows fs base _ t

/-! ### Directories that are there -/

/-- A path leads to a directory. -/
def HasDirectory (fs : Files) (base : Nat) (t : Text) : Prop :=
  ∃ n, fs.locate base t true = .ok n ∧ fs.isDirectory n = true

theorem hasDirectory_iff {base : Nat} {t : Text} :
    fs.HasDirectory base t ↔ (fs.find? base t).any fs.isDirectory = true := by
  rw [Option.any_eq_true]
  simp only [find?_eq_some, HasDirectory]

theorem HasDirectory.grows {base : Nat} {t : Text} (h : fs.HasDirectory base t)
    (hgrows : Grows fs fs') : fs'.HasDirectory base t := by
  obtain ⟨n, hlocate, hn⟩ := h
  obtain ⟨⟨parent, entries⟩, hd⟩ := Option.isSome_iff_exists.1 hn
  obtain ⟨more, hd⟩ := hgrows.directory hd
  exact ⟨n, hgrows.locate hlocate, by rw [isDirectory, hd]; rfl⟩

/-- A directory that was made is found. -/
theorem makeDirectory_found {base : Nat} {t : Text} {mode : Nat}
    (h : fs.makeDirectory base t mode = .ok fs') : fs'.HasDirectory base t := by
  obtain ⟨d, name, parent, entries, hplace, hname, hd, hlookup, rfl⟩ := makeDirectory_spec h
  obtain ⟨ht, hfront, rfl, hlength⟩ := placeOf_spec hplace
  simp only [not_or] at hname
  have hcontent : ∀ target, Content.directory d [] ≠ .link target := fun _ => Content.noConfusion
  have hn : (fs.add d (splitLast t).2 (.directory d []) mode).2.isDirectory fs.nodes.size = true := by
    rw [isDirectory, directory?_eq_some.2 (content?_add_size hd _ _ mode)]
    rfl
  exact ⟨_, (hfront.grows (grows_add hd _ hcontent mode)).locate ht
    ⟨hname.1, hname.2.1, hname.2.2, hlength⟩ (holds_add hd hlookup hcontent mode) hn, hn⟩

/-- Where a path leads to a directory, nothing is missing in front of it. -/
theorem makeDirectory_ne_notFound {base : Nat} {t : Text} {mode : Nat}
    (h : fs.HasDirectory base t) : fs.makeDirectory base t mode ≠ .error .notFound := by
  obtain ⟨n, hlocate, -⟩ := h
  intro hmade
  obtain hplace | ⟨⟨d, name⟩, -, hmade⟩ := bind_error hmade
  · exact placeOf_ne_notFound hlocate hplace
  · dsimp only at hmade
    split at hmade
    · exact nomatch hmade
    split at hmade
    · exact nomatch hmade
    split at hmade <;> exact nomatch hmade

/-- A fault is passed over only where the directory is found. -/
theorem found_of_unless {base : Nat} {t : Text} {e : Fault}
    (h : (if (fs.find? base t).any fs.isDirectory then (.ok (), fs)
      else (.error e, fs) : Except Fault Unit × Files).1 = .ok ()) :
    (if (fs.find? base t).any fs.isDirectory then (.ok (), fs)
      else (.error e, fs) : Except Fault Unit × Files).2.HasDirectory base t := by
  split at h
  · rename_i hfound
    rw [if_pos hfound]
    exact hasDirectory_iff.2 hfound
  · exact nomatch h

/-- What was made with the directories above it is found. -/
theorem makeWithParents_found {base fuel : Nat} {t : Text} (ht : t ≠ [])
    (h : (fs.makeWithParents base fuel t).1 = .ok ()) :
    (fs.makeWithParents base fuel t).2.HasDirectory base t := by
  revert h
  fun_cases Files.makeWithParents fs base fuel t with
  | case1 => exact fun _ => absurd rfl ht
  | case2 _ _ _ _ hmade => exact fun _ => makeDirectory_found hmade
  | case3 => exact fun h => nomatch h
  | case4 _ _ _ _ _ _ _ _ _ hmade => exact fun _ => makeDirectory_found hmade
  | case5 => exact found_of_unless
  | case6 => exact fun h => nomatch h
  | case7 => exact found_of_unless

/-- What is there is not made again. -/
theorem makeWithParents_ok {base : Nat} {t : Text} (h : fs.HasDirectory base t) (fuel : Nat) :
    (fs.makeWithParents base fuel t).1 = .ok () := by
  unfold makeWithParents
  dsimp only
  split
  · rfl
  split
  · rfl
  · rename_i hmade
    exact absurd hmade (makeDirectory_ne_notFound h)
  · rw [if_pos (hasDirectory_iff.1 h)]

/-- What could be made can be made again, also after the tree has grown. -/
theorem makeDirectories_again {base : Nat} {t : Text}
    (h : (fs.makeDirectories base t).1 = .ok ())
    (hgrows : Grows (fs.makeDirectories base t).2 fs') :
    (fs'.makeDirectories base t).1 = .ok () := by
  by_cases ht : t = []
  · subst ht
    rfl
  · exact makeWithParents_ok ((makeWithParents_found ht h).grows hgrows) _

end Console.Files
