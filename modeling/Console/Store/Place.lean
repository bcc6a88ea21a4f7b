import Console.Store.File

/-! A place where sessions run: its files, the directory they are seen from, and a store that is
    either in memory or one of the files. -/

namespace Console

/-- Where the histories of a place are kept. -/
inductive Backing where
  | memory (content : Stored)
  | file (path : Text)

/-- Files, a current directory, and a store. -/
structure Place where
  files : Files
  base : Nat
  backing : Backing

namespace Place

/-- Makes a call on the store of the place. -/
def call {α : Type} (p : Place) (memory : Stored → Call Stored α)
    (file : FileStore → Call FileStore α) : Call Place α :=
  match p.backing with
  | .memory content =>
    let (answer, content) := memory content
    (answer, { p with backing := .memory content })
  | .file path =>
    let (answer, s) := file ⟨p.files, p.base, path⟩
    (answer, { p with files := s.files })

/-- The calls of a place are those of its store. -/
instance : Store Place where
  loadHistory p title := p.call (Store.loadHistory · title) (Store.loadHistory · title)
  saveHistory p title commands :=
    p.call (Store.saveHistory · title commands) (Store.saveHistory · title commands)
  loadSize p := p.call Store.loadSize Store.loadSize
  saveSize p size := p.call (Store.saveSize · size) (Store.saveSize · size)

end Place

end Console
