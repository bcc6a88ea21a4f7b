import Console.Proofs.Files.Failing
import Console.Proofs.Store.Requests

/-! What fails on a store in a file leaves the file alone. A load changes nothing. A save that fails
    has at most made directories, and neither then nor before does the path name a file unless the
    file cannot be read; and a file that cannot be read stops every request before it changes
    anything. -/

namespace Console

/-- Whether a request is a load. -/
def Request.loads : Request → Bool
  | .loadHistory _ | .loadSize => true
  | .saveHistory _ _ | .saveSize _ => false

namespace FileStore

/-- The bytes of the file, if there is one. -/
def bytes? (s : FileStore) : Option ByteArray :=
  (s.files.read s.base (Octets.ofText s.path)).toOption

/-- At most directories were added to the files, and the bytes of the store's file are the same. -/
structure Spared (s s' : FileStore) : Prop where
  base : s'.base = s.base
  path : s'.path = s.path
  bytes : s'.bytes? = s.bytes?
  grows : s.files.Grows s'.files
  adds : s.files.AddsDirectories s'.files

theorem Spared.refl (s : FileStore) : Spared s s := ⟨rfl, rfl, rfl, .refl _, .refl _⟩

variable {s s' : FileStore} {e : Fault}

/-! ### Saves that fail -/

theorem makeParent_adds (s : FileStore) : s.files.AddsDirectories s.makeParent.2.files := by
  cases hparent : Files.parent? s.path with
  | none =>
    rw [makeParent_of_none hparent]
    exact .refl _
  | some parent =>
    rw [makeParent_of_some hparent]
    exact Files.makeDirectories_adds s.files s.base (Octets.ofText parent)

/-- Where the directory of the file cannot be made, the path leads nowhere. -/
theorem makeParent_error (h : s.makeParent.1 = .error e) (n : Nat) :
    s.makeParent.2.files.locate s.base (Octets.ofText s.path) true ≠ .ok n := by
  cases hparent : Files.parent? s.path with
  | none =>
    rw [makeParent_of_none hparent] at h
    exact nomatch h
  | some parent =>
    rw [makeParent_of_some hparent] at h ⊢
    intro hn
    have hoctets : Files.parent? (Octets.ofText s.path) = some (Octets.ofText parent) := by
      rw [Files.parent?_ofText, hparent, Option.map_some]
    cases hmade : (s.files.makeDirectories s.base (Octets.ofText parent)).1 with
    | ok =>
      rw [hmade] at h
      exact nomatch h
    | error cause =>
      have hne : Octets.ofText parent ≠ [] := by
        intro hnil
        rw [hnil, Files.makeDirectories, Files.makeWithParents_nil] at hmade
        exact nomatch hmade
      exact Files.makeWithParents_error hmade (Files.hasDirectory_parent hn hoctets hne)

/-- Where making the directory of the file leaves the path leading to a directory or nowhere, it
    has spared the file. -/
theorem makeParent_spared (h : ∀ n, s.makeParent.2.files.locate s.base (Octets.ofText s.path) true =
    .ok n → s.makeParent.2.files.isDirectory n = true) : Spared s s.makeParent.2 := by
  obtain ⟨hbase, hpath, hgrows, -⟩ := s.makeParent_spec
  obtain ⟨hnone, hnone'⟩ := (makeParent_adds s).read hgrows h
  refine ⟨hbase, hpath, ?_, hgrows, makeParent_adds s⟩
  rw [bytes?, bytes?, hbase, hpath, hnone, hnone']

/-- A write that fails spares the file. -/
theorem write_error {content : Stored} (h : s.write content = (.error e, s')) : Spared s s' := by
  obtain ⟨hbase, hpath, -⟩ := s.makeParent_spec
  unfold write at h
  split at h
  · rename_i e' s₁ hparent
    obtain rfl : s₁ = s' := congrArg Prod.snd h
    have hspared := makeParent_spared fun n hn =>
      absurd hn (makeParent_error (congrArg Prod.fst hparent) n)
    rwa [hparent] at hspared
  · rename_i s₁ hparent
    split at h
    · rename_i cause hwrite
      obtain rfl : s₁ = s' := congrArg Prod.snd h
      obtain rfl : s.makeParent.2 = s₁ := congrArg Prod.snd hparent
      rw [hbase, hpath] at hwrite
      exact makeParent_spared fun n hn => Files.openToWrite_error (map_error hwrite) hn
    · exact nomatch h

theorem modify_of_unreadable (h : s.read = .error e) (change : Stored → Stored) :
    s.modify change = (.error e, s) := by
  rw [modify, h]

theorem modify_error {change : Stored → Stored} (h : (s.modify change).1 = .error e) :
    Spared s (s.modify change).2 := by
  cases hread : s.read with
  | error e' =>
    rw [modify_of_unreadable hread]
    exact .refl s
  | ok content =>
    rw [modify, hread] at h ⊢
    exact write_error (Prod.ext h rfl)

/-! ### Requests -/

/-- A load changes nothing. -/
theorem answer_of_loads {request : Request} (h : request.loads = true) :
    (Store.answer s request).2 = s := by
  cases request with
  | loadHistory | loadSize => rfl
  | saveHistory | saveSize => exact nomatch h

/-- Every request of an unreadable file fails as reading it does, and changes nothing. -/
theorem answer_of_unreadable (h : s.read = .error e) (request : Request) :
    Store.answer s request = (.error e, s) := by
  cases request with
  | loadHistory title => exact Prod.ext (by show (s.read.map _).map _ = _; rw [h]; rfl) rfl
  | loadSize => exact Prod.ext (by show (s.read.map _).map _ = _; rw [h]; rfl) rfl
  | saveHistory title commands =>
    show (s.modify _).map _ _ = _
    rw [modify_of_unreadable h]
    rfl
  | saveSize size =>
    show (s.modify _).map _ _ = _
    rw [modify_of_unreadable h]
    rfl

/-- A request that fails spares the file. -/
theorem answer_error {request : Request} (h : (Store.answer s request).1 = .error e) :
    Spared s (Store.answer s request).2 := by
  cases request with
  | loadHistory | loadSize => exact .refl s
  | saveHistory title commands => exact modify_error (map_error h)
  | saveSize size => exact modify_error (map_error h)

end FileStore

end Console
