import Console.Proofs.Files.Directories
import Console.Proofs.Files.Writing
import Console.Proofs.Store.Document
import Console.Store.File

/-! A store in a file keeps what is saved. If its path names a regular file or nothing, then a save
    fails on the files or makes the file read back as the changed content, whatever the titles and
    the commands are made of; and the path goes on naming a regular file. -/

namespace Console

/-! ### The text of the file -/

theorem Text.ofUtf8?_toUtf8 (t : Text) : Text.ofUtf8? (Text.toUtf8 t) = some t := by
  have hvalid : (String.ofList t).toUTF8.IsValidUTF8 := (String.ofList t).isValidUTF8
  rw [Text.ofUtf8?, Text.toUtf8, String.fromUTF8?, dif_pos hvalid]
  exact congrArg some String.toList_ofList

/-- A file that has the octets of a text reads as the text. -/
theorem Files.readText_eq_ok {fs : Files} {base n : Nat} {path text : Text}
    (hlocate : fs.locate base path true = .ok n)
    (hbytes : fs.content? n = some (.file (Text.toUtf8 text))) :
    fs.readText base path = .ok text := by
  rw [readText, read, hlocate]
  simp only [Except.bind, bytesOf_eq_ok hbytes, Text.ofUtf8?_toUtf8]

theorem Stored.allBlank_toJson (s : Stored) : Text.allBlank s.toJson = false := rfl

/-- Whether an answer is a fault of the files behind a store. -/
def failsOnFiles {α : Type} : Except Fault α → Bool
  | .error (.unreadable _ _) | .error (.unwritable _ _) | .error (.directory _) => true
  | _ => false

theorem failsOnFiles_map {α β : Type} (f : α → β) (answer : Except Fault α) :
    failsOnFiles (answer.map f) = failsOnFiles answer := by
  cases answer with
  | ok a => rfl
  | error e => cases e <;> rfl

namespace FileStore

/-- Whether the path names a regular file or nothing. -/
def namesFile (s : FileStore) : Bool :=
  (s.files.find? s.base (Octets.ofText s.path)).all s.files.isFile

/-- Whether the path names a regular file or nothing, also when the directory of the file is there.
    A device or a pipe takes what is written and keeps nothing. -/
def keeps (s : FileStore) : Bool := s.makeParent.2.namesFile

/-- Whether the directory of the file can be made and the file can be opened there. -/
def takes (s : FileStore) : Bool :=
  s.makeParent.1.isOk && (s.makeParent.2.files.openToWrite s.makeParent.2.base
    (Octets.ofText s.makeParent.2.path) Files.usualFileMode).isOk

theorem namesFile_iff {s : FileStore} : s.namesFile = true ↔
    ∀ n, s.files.locate s.base (Octets.ofText s.path) true = .ok n → s.files.isFile n = true := by
  rw [namesFile, Option.all_eq_true]
  simp only [Files.find?_eq_some]

/-! ### Reading -/

/-- A size that the file gives can be written again. -/
theorem size_lt_of_read {s : FileStore} {content : Stored} (h : s.read = .ok content) :
    ∀ n ∈ content.size, n < Json.naturalLimit := by
  unfold read at h
  split at h
  · exact Except.ok.inj h ▸ fun _ hn => nomatch hn
  split at h
  · exact nomatch h
  split at h
  · exact Except.ok.inj h ▸ fun _ hn => nomatch hn
  split at h
  · exact nomatch h
  · rename_i hjson
    exact Except.ok.inj h ▸ Stored.size_lt_of_ofJson hjson

/-- A file that has the JSON text of a content reads back as that content. -/
theorem read_of_toJson {s : FileStore} {content : Stored} {n : Nat}
    (hsize : ∀ n ∈ content.size, n < Json.naturalLimit)
    (hlocate : s.files.locate s.base (Octets.ofText s.path) true = .ok n)
    (hbytes : s.files.content? n = some (.file (Text.toUtf8 content.toJson))) :
    s.read = .ok content := by
  rw [read, Files.find?_eq_some.2 hlocate]
  simp only [Files.readText_eq_ok hlocate hbytes, Stored.allBlank_toJson, Bool.false_eq_true, if_false,
    Stored.ofJson_toJson content hsize]

/-! ### Writing -/

theorem makeParent_of_none {s : FileStore} (h : Files.parent? s.path = none) :
    s.makeParent = (.ok (), s) := by
  rw [makeParent, h]

/-- The directory is made with those above it; where the parent has no name, there is none to make. -/
theorem makeParent_of_some {s : FileStore} {parent : Text} (h : Files.parent? s.path = some parent) :
    s.makeParent = ((s.files.makeDirectories s.base (Octets.ofText parent)).1.mapError .directory,
      { s with files := (s.files.makeDirectories s.base (Octets.ofText parent)).2 }) := by
  rw [makeParent, h]
  cases parent with
  | nil =>
    have hnil : Octets.ofText [] = [] := by decide +kernel
    rw [hnil]
    rfl
  | cons c parent =>
    dsimp only
    split <;> rename_i hmade <;> rw [hmade] <;> rfl

/-- Making the directory of the file lets the tree grow, and fails on the files only. -/
theorem makeParent_spec (s : FileStore) :
    s.makeParent.2.base = s.base ∧ s.makeParent.2.path = s.path ∧
      s.files.Grows s.makeParent.2.files ∧
      ∀ e, s.makeParent.1 = .error e → failsOnFiles (.error e : Except Fault Unit) = true := by
  cases hparent : Files.parent? s.path with
  | none =>
    rw [makeParent_of_none hparent]
    exact ⟨rfl, rfl, .refl _, fun _ h => nomatch h⟩
  | some parent =>
    rw [makeParent_of_some hparent]
    refine ⟨rfl, rfl, s.files.makeDirectories_grows s.base (Octets.ofText parent), fun e h => ?_⟩
    dsimp only at h
    cases hmade : (s.files.makeDirectories s.base (Octets.ofText parent)).1 with
    | error cause =>
      rw [hmade] at h
      exact Except.error.inj h ▸ rfl
    | ok =>
      rw [hmade] at h
      exact nomatch h

/-- Where a regular file is named, making its directory changes nothing about that. -/
theorem keeps_of_locate {s : FileStore} {n : Nat}
    (hlocate : s.files.locate s.base (Octets.ofText s.path) true = .ok n)
    (hfile : s.files.isFile n = true) : s.keeps = true := by
  obtain ⟨hbase, hpath, hgrows, -⟩ := s.makeParent_spec
  rw [keeps, namesFile_iff, hbase, hpath]
  intro m hm
  obtain rfl : n = m := Except.ok.inj ((hgrows.locate hlocate).symm.trans hm)
  exact hgrows.file hfile

/-- A directory that could be made can be made again, also after the tree has grown. -/
theorem makeParent_again {s s₁ : FileStore} {files : Files} (h : s.makeParent = (.ok (), s₁))
    (hgrows : s₁.files.Grows files) :
    ({ s₁ with files := files } : FileStore).makeParent.1 = .ok () := by
  cases hparent : Files.parent? s.path with
  | none =>
    rw [makeParent_of_none hparent] at h
    obtain rfl := (Prod.mk.inj h).2
    rw [@makeParent_of_none { s with files := files } hparent]
  | some parent =>
    rw [makeParent_of_some hparent] at h
    obtain ⟨hmade, rfl⟩ := Prod.mk.inj h
    have hok : (s.files.makeDirectories s.base (Octets.ofText parent)).1 = .ok () := by
      cases hmade' : (s.files.makeDirectories s.base (Octets.ofText parent)).1 with
      | error cause => rw [hmade'] at hmade; exact nomatch hmade
      | ok => rfl
    rw [@makeParent_of_some { s with files := files } parent hparent]
    exact congrArg (Except.mapError Fault.directory) (Files.makeDirectories_again hok hgrows)

/-- Where a regular file is named and its directory can be made, a write is taken. -/
theorem takes_of_locate {s : FileStore} {n : Nat} (hparent : s.makeParent.1 = .ok ())
    (hslash : (Octets.ofText s.path).getLast? ≠ some '/')
    (hlocate : s.files.locate s.base (Octets.ofText s.path) true = .ok n)
    (hfile : s.files.isFile n = true) : s.takes = true := by
  obtain ⟨hbase, hpath, hgrows, -⟩ := s.makeParent_spec
  rw [takes, hparent, hbase, hpath, Files.openToWrite_of_isFile hslash (hgrows.locate hlocate)
    (hgrows.file hfile)]
  rfl

/-- A write fails on the files if they do not take it. Else the file reads back as what was written,
    and takes the next write. -/
theorem write_cases {s : FileStore} {content : Stored} (hkeeps : s.keeps = true)
    (hsize : ∀ n ∈ content.size, n < Json.naturalLimit) :
    failsOnFiles (s.write content).1 = true ∧ s.takes = false ∨
      (s.write content).1 = .ok () ∧ (s.write content).2.read = .ok content ∧
        (s.write content).2.keeps = true ∧ (s.write content).2.takes = true := by
  obtain ⟨-, -, -, herror⟩ := s.makeParent_spec
  unfold keeps at hkeeps
  unfold write
  rcases hparent : s.makeParent with ⟨e | ⟨⟩, s₁⟩
  · rw [hparent] at herror
    exact .inl ⟨herror e rfl, by rw [takes, hparent]; rfl⟩
  · rw [hparent] at hkeeps
    dsimp only
    split
    · rename_i cause hwrite
      refine .inl ⟨rfl, ?_⟩
      rw [takes, hparent]
      dsimp only
      rw [map_error hwrite]
      rfl
    · rename_i files hwrite
      obtain ⟨hslash, hgrows, n, hlocate, hbytes⟩ :=
        Files.write_spec (namesFile_iff.1 hkeeps) hwrite
      have hfile : files.isFile n = true := Files.isFile_iff.2 (.inl ⟨_, hbytes⟩)
      exact .inr ⟨rfl, read_of_toJson hsize hlocate hbytes, keeps_of_locate hlocate hfile,
        takes_of_locate (makeParent_again hparent hgrows) hslash hlocate hfile⟩

/-- A change fails on the files if they do not take it. Else the file reads back as the changed
    content, and takes the next change. -/
theorem modify_cases {s : FileStore} {content : Stored} (hread : s.read = .ok content)
    (hkeeps : s.keeps = true) (change : Stored → Stored)
    (hsize : ∀ n ∈ (change content).size, n < Json.naturalLimit) :
    failsOnFiles (s.modify change).1 = true ∧ s.takes = false ∨
      (s.modify change).1 = .ok () ∧ (s.modify change).2.read = .ok (change content) ∧
        (s.modify change).2.keeps = true ∧ (s.modify change).2.takes = true := by
  unfold modify
  rw [hread]
  exact write_cases hkeeps hsize

end FileStore

end Console
