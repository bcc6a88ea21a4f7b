import Console.Proofs.Settings.Document
import Console.Proofs.Settings.Overrides
import Console.Proofs.Store.File
import Console.Settings.Manager

/-! Settings that are saved and loaded again. A save at a path that can be written fails only on the
    size, before it touches a file. Else it leaves the document of the settings at its path, which a
    load finds in the directory where its search begins. Under that layer are the defaults, which
    the layer hides, and above it are the overrides of the environment. -/

namespace Console.Settings

variable {fs : Files} {base : Nat} {path : Text} {s : Settings}

/-! ### Saving -/

/-- Whether a path can be written: its directory is there or can be made, and a regular file that
    it names there, or none as yet, can be opened. -/
def writable (fs : Files) (base : Nat) (path : Text) : Bool :=
  (⟨fs, base, path⟩ : FileStore).takes && (⟨fs, base, path⟩ : FileStore).keeps

theorem save_of_tooLarge (h : largestSize < s.bufferSize) (fs : Files) (base : Nat) (path : Text) :
    s.save fs base path = (.error .sizeTooLarge, fs) := if_pos h

/-- Where the directory of the file can be made and the file written, the save is done. -/
theorem save_of_made (h : s.bufferSize ≤ largestSize) {p : FileStore} {fs' : Files}
    (hmade : (⟨fs, base, path⟩ : FileStore).makeParent = (.ok (), p))
    (hwrite : p.files.write base (Octets.ofText path) (Text.toUtf8 s.toToml) = .ok fs') :
    s.save fs base path = (.ok (), fs') := by
  rw [save, if_neg (Nat.not_lt.2 h)]
  rw [FileStore.makeParent] at hmade
  dsimp only at hmade ⊢
  cases hparent : Files.parent? path with
  | none =>
    rw [hparent] at hmade
    cases hmade
    dsimp only at hwrite ⊢
    rw [hwrite]
  | some parent =>
    rw [hparent] at hmade
    cases parent with
    | nil =>
      cases hmade
      dsimp only at hwrite ⊢
      rw [hwrite]
    | cons c parent =>
      dsimp only at hmade ⊢
      rcases hdirectories : fs.makeDirectories base (Octets.ofText (c :: parent)) with
        ⟨cause | ⟨⟩, files⟩
      · rw [hdirectories] at hmade
        cases hmade
      · rw [hdirectories] at hmade
        cases hmade
        dsimp only at hwrite ⊢
        rw [hwrite]

/-- The path of a file that was written names a regular file that has the document. -/
theorem save_of_writable (h : s.bufferSize ≤ largestSize)
    (hwritable : writable fs base path = true) :
    ∃ fs' n, s.save fs base path = (.ok (), fs') ∧
      fs'.locate base (Octets.ofText path) true = .ok n ∧
      fs'.content? n = some (.file (Text.toUtf8 s.toToml)) := by
  rw [writable, Bool.and_eq_true] at hwritable
  obtain ⟨htakes, hkeeps⟩ := hwritable
  obtain ⟨hbase, hpath, -, -⟩ := (⟨fs, base, path⟩ : FileStore).makeParent_spec
  rcases hmade : (⟨fs, base, path⟩ : FileStore).makeParent with ⟨e | ⟨⟩, p⟩
  · rw [FileStore.takes, hmade] at htakes
    exact absurd htakes Bool.false_ne_true
  rw [FileStore.takes, hmade, Bool.and_eq_true] at htakes
  rw [FileStore.keeps, hmade, FileStore.namesFile_iff] at hkeeps
  rw [hmade] at hbase hpath
  dsimp only at hbase hpath htakes hkeeps
  rw [hbase, hpath] at htakes hkeeps
  cases hwrite : p.files.write base (Octets.ofText path) (Text.toUtf8 s.toToml) with
  | error cause =>
    rw [map_error hwrite] at htakes
    exact absurd htakes.2 Bool.false_ne_true
  | ok fs' =>
    obtain ⟨-, -, n, hlocate, hbytes⟩ := Files.write_spec hkeeps hwrite
    exact ⟨fs', n, save_of_made h hmade hwrite, hlocate, hbytes⟩

/-! ### Loading -/

/-- The search begins at the directory itself. -/
theorem exists_upwards (fs : Files) (fuel base : Nat) :
    ∃ above, upwards fs fuel base = base :: above := by
  cases fuel with
  | zero => exact ⟨[], rfl⟩
  | succ fuel =>
    rw [upwards]
    split
    · exact ⟨_, rfl⟩
    · split <;> exact ⟨_, rfl⟩

/-- A path that leads to a file where the search begins is found there. -/
theorem searchUp_of_file {n : Nat} {t : Text} (hlocate : fs.locate base t true = .ok n)
    (hfile : fs.isFile n = true) : searchUp fs t base = some base := by
  obtain ⟨above, habove⟩ := exists_upwards fs fs.nodes.size base
  rw [searchUp, habove, List.find?_cons_of_pos]
  rw [Files.find?_eq_some.2 hlocate]
  exact hfile

/-- The data in a file with the document of settings. -/
theorem fileData_of_content {n : Nat} (h : s.bufferSize ≤ largestSize)
    (hlocate : fs.locate base (Octets.ofText path) true = .ok n)
    (hbytes : fs.content? n = some (.file (Text.toUtf8 s.toToml))) :
    fileData fs base path = .ok (.dict (dataOf s.sections)) := by
  have hfile : fs.isFile n = true := Files.isFile_iff.2 (.inl ⟨_, hbytes⟩)
  rw [fileData, searchUp_of_file hlocate hfile]
  simp only [Files.readText_eq_ok hlocate hbytes, parse?_toToml h, ofToml_sections]

/-- The layers of a load are the defaults, the file and the environment. -/
theorem load_of_data {env : Environment}
    (hdata : fileData fs base path = .ok (.dict (dataOf s.sections)))
    (henv : env.wellTyped = true) : load fs env base path = .ok (s.overriddenBy env.value?) := by
  obtain ⟨l, hsettings, hlayer, hvalue⟩ := Environment.settings_eq henv
  have hmerge := s.isLayer_dataOf.merge hlayer
  have hboth : valueOf? (Data.mergeEntries (dataOf s.sections) l) =
      fun f => (env.value? f).or (s.given f) := by
    funext f
    rw [(s.isLayer_dataOf.section_merge hlayer f).2, hvalue, valueOf?_dataOf]
  have htakes : ∀ f d, env.value? f = some d → f.takes d = true := fun f d hd =>
    hlayer.takes f d ((hvalue f).trans hd)
  rw [load, hdata, hsettings]
  change ofData ((Data.dict _).merge (.dict l)) = _
  rw [Data.merge, hmerge.ofData_eq, hboth, default_overriddenBy htakes]

/-! ### Saving and loading -/

/-- Settings in memory at a path that can be written. Saving them succeeds exactly if the size is a
    signed integer of 64 bits. If it does not succeed, then for the size, and neither the files nor
    the settings in memory change. If it does, then a load from the same path gives, under any
    well-typed environment, the value of the environment for each field that has one there, and the
    saved value for the others. In particular, where the variables of settings are overrides, each
    of which spells a value of the kind of its field, a field has the value of its last override. -/
theorem save_reloads (m : Manager) (fs : Files) (base : Nat)
    (hwritable : writable fs base m.path = true) :
    ((m.save fs base).1 = .ok () ↔ m.settings.bufferSize ≤ 9223372036854775807) ∧
      ((m.save fs base).1 ≠ .ok () → m.save fs base = (.error .sizeTooLarge, m, fs)) ∧
      ((m.save fs base).1 = .ok () → (m.save fs base).2.1 = m ∧
        (∀ env : Environment, env.wellTyped = true →
          Manager.ofPath (m.save fs base).2.2 env base m.path =
            .ok ⟨m.settings.overriddenBy env.value?, m.path⟩) ∧
        ∀ (env : Environment) (overrides : List Environment.Override),
          env.settingVariables = Environment.ofOverrides overrides →
            Manager.ofPath (m.save fs base).2.2 env base m.path =
              .ok ⟨m.settings.overriddenBy (Environment.lastOf overrides), m.path⟩) := by
  by_cases hsize : m.settings.bufferSize ≤ largestSize
  · obtain ⟨fs', n, hsave, hlocate, hbytes⟩ := save_of_writable hsize hwritable
    have hmanager : m.save fs base = (.ok (), m, fs') := by rw [Manager.save, hsave]
    have hload (env : Environment) (henv : env.wellTyped = true) :
        Manager.ofPath fs' env base m.path =
          .ok ⟨m.settings.overriddenBy env.value?, m.path⟩ := by
      rw [Manager.ofPath, load_of_data (fileData_of_content hsize hlocate hbytes) henv]
      rfl
    rw [hmanager]
    refine ⟨iff_of_true rfl hsize, fun h => absurd rfl h, fun _ => ⟨rfl, hload, ?_⟩⟩
    intro env overrides hoverrides
    have hvalue : env.value? = Environment.lastOf overrides :=
      funext (Environment.value?_of_overrides hoverrides)
    rw [← hvalue]
    exact hload env (Environment.wellTyped_of_overrides hoverrides)
  · have hmanager : m.save fs base = (.error .sizeTooLarge, m, fs) := by
      rw [Manager.save, save_of_tooLarge (Nat.lt_of_not_le hsize)]
    rw [hmanager]
    exact ⟨iff_of_false nofun hsize, fun _ => rfl, nofun⟩

/-- A file in a directory that the save makes, with texts that have to be escaped. Of two sizes in
    the environment the last one counts, and what is not overridden comes back as it was saved. One
    more than the largest size is not saved. -/
theorem save_reloads_of_escapes :
    let settings : Settings := ⟨"'''\"\\\x00\n".toList, false, 9223372036854775807,
      some "C:\\it's \"x\"\n".toList, none⟩
    let m : Manager := ⟨settings, "conf/repline.toml".toList⟩
    let tooLarge : Manager := ⟨{ settings with bufferSize := 9223372036854775808 }, m.path⟩
    let saved := m.save Files.empty Files.root
    let env : Environment := [("PATH".toList, "/bin".toList),
      ("REPLINE_HISTORY__BUFFER_SIZE".toList, "5".toList),
      ("REPLINE_GENERAL__FLAVOR".toList, "shell".toList),
      ("REPLINE_GENERAL__SHOW_WELCOME".toList, "true".toList),
      ("REPLINE_PROMPT__SYMBOL".toList, "\"\\\"> \"".toList),
      ("REPLINE_HISTORY__BUFFER_SIZE".toList, "007".toList)]
    writable Files.empty Files.root m.path = true ∧ saved.1 = .ok () ∧
      Manager.ofPath saved.2.2 [] Files.root m.path = .ok m ∧
      Manager.ofPath saved.2.2 env Files.root m.path =
        .ok ⟨⟨"shell".toList, true, 7, settings.storageFile, some "\"> ".toList⟩, m.path⟩ ∧
      tooLarge.save Files.empty Files.root = (.error .sizeTooLarge, tooLarge, Files.empty) := by
  intro settings m tooLarge saved env
  have hwritable : writable Files.empty Files.root m.path = true := by decide +kernel
  let overrides : List Environment.Override := [
    ⟨.bufferSize, .natural 5, "5".toList, rfl, .numeral 0 5 (by decide)⟩,
    ⟨.flavor, .text "shell".toList, "shell".toList, rfl, .verbatim _ (by decide)⟩,
    ⟨.showWelcome, .boolean true, "true".toList, rfl, .truth true⟩,
    ⟨.symbol, .text "\"> ".toList, "\"\\\"> \"".toList, rfl, .quoted "\"> ".toList⟩,
    ⟨.bufferSize, .natural 7, "007".toList, rfl, .numeral 2 7 (by decide)⟩]
  have henv : env.settingVariables = Environment.ofOverrides overrides := by decide +kernel
  obtain ⟨hsaved, -, hloaded⟩ := save_reloads m Files.empty Files.root hwritable
  obtain ⟨hfails, hkept, -⟩ := save_reloads tooLarge Files.empty Files.root hwritable
  have hok : saved.1 = .ok () := hsaved.2 (Nat.le_refl _)
  obtain ⟨-, -, hoverridden⟩ := hloaded hok
  exact ⟨hwritable, hok, hoverridden [] [] rfl, hoverridden env overrides henv,
    hkept fun h => absurd (hfails.1 h) (by decide)⟩

end Console.Settings
