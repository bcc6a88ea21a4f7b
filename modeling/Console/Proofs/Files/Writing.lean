import Console.Proofs.Except
import Console.Proofs.Files.Growth

/-! Writing a file lets a tree grow. If a path names nothing but a regular file, then after a write
    it names a regular file with just the bytes that were written. -/

namespace Console.Files

variable {fs fs' : Files}

/-- A file that was added is found where its name was free. -/
theorem resolve_add {base d : Nat} {t name : Text} {follows : Bool} {content : Content}
    (hcontent : ∀ target, content ≠ .link target) (mode : Nat)
    (hfree : fs.resolve base t follows = .ok (.free d name false)) :
    Grows fs (fs.add d name content mode).2 ∧
      (fs.add d name content mode).2.resolve base t follows = .ok (.there fs.nodes.size) ∧
      (fs.add d name content mode).2.content? fs.nodes.size = some content := by
  have hlacks : fs.Lacks d name := by
    cases (Grows.refl fs).resolve hfree with
    | free hlacks _ => exact hlacks
  obtain ⟨parent, entries, hd, hlookup⟩ := hlacks
  have hgrows := grows_add hd name hcontent mode
  refine ⟨hgrows, ?_, content?_add_size hd name content mode⟩
  cases hgrows.resolve hfree with
  | free _ hthere => exact hthere rfl _ (holds_add hd hlookup hcontent mode)

/-! ### Opening -/

/-- A file that is opened to be written is a regular one, and its path names it. -/
theorem openToWrite_spec {base n : Nat} {t : Text} {mode : Nat}
    (hregular : ∀ n, fs.locate base t true = .ok n → fs.isFile n = true)
    (h : fs.openToWrite base t mode = .ok (n, fs')) :
    t.getLast? ≠ some '/' ∧ Grows fs fs' ∧ fs'.locate base t true = .ok n ∧
      fs'.isFile n = true := by
  unfold openToWrite at h
  split at h
  · obtain ⟨_, -, h⟩ := bind_ok h
    exact nomatch h
  rename_i hslash
  refine ⟨hslash, ?_⟩
  split at h
  · exact nomatch h
  · exact nomatch h
  · rename_i d name hfree
    have hcontent : ∀ target, Content.file ByteArray.empty ≠ .link target :=
      fun _ => Content.noConfusion
    obtain ⟨hgrows, hresolve, hsize⟩ := resolve_add hcontent mode hfree
    rw [Except.ok.injEq] at h
    have hn : fs.nodes.size = n := congrArg Prod.fst h
    have hfs : (fs.add d name (.file ByteArray.empty) mode).2 = fs' := congrArg Prod.snd h
    subst hn hfs
    exact ⟨hgrows, locate_eq_ok.2 hresolve, isFile_iff.2 (.inl ⟨_, hsize⟩)⟩
  · rename_i m hthere
    split at h
    · exact nomatch h
    · obtain ⟨rfl, rfl⟩ := Prod.mk.inj (Except.ok.inj h)
      exact ⟨.refl fs, locate_eq_ok.2 hthere, hregular m (locate_eq_ok.2 hthere)⟩

/-- A regular file can be opened to be written. -/
theorem openToWrite_of_isFile {base n : Nat} {t : Text} (hslash : t.getLast? ≠ some '/')
    (hlocate : fs.locate base t true = .ok n) (hn : fs.isFile n = true) (mode : Nat) :
    fs.openToWrite base t mode = .ok (n, fs) := by
  have hdirectory : fs.isDirectory n = false := by
    rw [isFile_iff] at hn
    unfold isDirectory
    cases hd : fs.directory? n with
    | none => rfl
    | some directory =>
      rw [directory?_eq_some.1 hd] at hn
      simp at hn
  rw [openToWrite, if_neg hslash, locate_eq_ok.1 hlocate]
  simp only [hdirectory, Bool.false_eq_true, if_false]

/-! ### Writing -/

theorem content?_fill {n : Nat} (hn : fs.isFile n = true) (bytes : ByteArray) :
    (fs.fill n bytes).content? n = some (.file bytes) := by
  rw [fill, if_pos hn, content?_setContent, if_pos rfl]
  rw [isFile_iff] at hn
  obtain ⟨_, hn⟩ | ⟨_, hn⟩ := hn <;> rw [hn] <;> rfl

theorem grows_fill {n : Nat} (hn : fs.isFile n = true) (bytes : ByteArray) :
    Grows fs (fs.fill n bytes) := by
  rw [fill, if_pos hn]
  exact grows_setContent hn bytes

/-- A file that was written has the bytes, and its path names it. -/
theorem write_spec {base : Nat} {t : Text} {bytes : ByteArray}
    (hregular : ∀ n, fs.locate base t true = .ok n → fs.isFile n = true)
    (h : fs.write base t bytes = .ok fs') :
    t.getLast? ≠ some '/' ∧ Grows fs fs' ∧
      ∃ n, fs'.locate base t true = .ok n ∧ fs'.content? n = some (.file bytes) := by
  obtain ⟨⟨n, fs₁⟩, hopen, rfl⟩ := map_ok h
  obtain ⟨hslash, hgrows, hlocate, hfile⟩ := openToWrite_spec hregular hopen
  exact ⟨hslash, hgrows.trans (grows_fill hfile bytes), n,
    (grows_fill hfile bytes).locate hlocate, content?_fill hfile bytes⟩

theorem bytesOf_eq_ok {n : Nat} {bytes : ByteArray} (h : fs.content? n = some (.file bytes)) :
    fs.bytesOf n = .ok bytes := by
  unfold bytesOf
  rw [show (fs.node? n).map Node.content = _ from h]

end Console.Files
