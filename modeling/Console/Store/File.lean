import Console.Store.Basic
import Console.Text.Blank

/-! A store in one JSON file. Every save reads the file first, so what other sessions saved in the
    meantime survives; a file that is missing or holds only blanks is an empty store, and a file
    that cannot be read is left alone. -/

namespace Console

/-- Files, and where the store is among them. -/
structure FileStore where
  files : Files
  /-- The directory from which the path is seen. -/
  base : Nat
  path : Text

namespace FileStore

/-- The content of the file. -/
def read (s : FileStore) : Except Fault Stored :=
  match s.files.find? s.base (Octets.ofText s.path) with
  | none => .ok .empty
  | some _ =>
    match s.files.readText s.base (Octets.ofText s.path) with
    | .error cause => .error (.unreadable s.path cause)
    | .ok text =>
      if Text.allBlank text then .ok .empty
      else
        match Stored.ofJson text with
        | .error cause => .error (.malformed cause)
        | .ok stored => .ok stored

/-- Makes the directory of the file if it is missing. -/
def makeParent (s : FileStore) : Call FileStore Unit :=
  match Files.parent? s.path with
  | none | some [] => (.ok (), s)
  | some parent =>
    match s.files.makeDirectories s.base (Octets.ofText parent) with
    | (.error cause, files) => (.error (.directory cause), { s with files := files })
    | (.ok (), files) => (.ok (), { s with files := files })

/-- Writes the whole file. -/
def write (s : FileStore) (content : Stored) : Call FileStore Unit :=
  match s.makeParent with
  | (.error e, s) => (.error e, s)
  | (.ok (), s) =>
    match s.files.write s.base (Octets.ofText s.path) (Text.toUtf8 content.toJson) with
    | .error cause => (.error (.unwritable s.path cause), s)
    | .ok files => (.ok (), { s with files := files })

/-- Reads, changes and writes. -/
def modify (s : FileStore) (change : Stored → Stored) : Call FileStore Unit :=
  match s.read with
  | .error e => (.error e, s)
  | .ok content => s.write (change content)

/-- A load reads the file, a save reads it and writes it. -/
instance : Store FileStore where
  loadHistory s title := (s.read.map fun content => content.buckets.find? title, s)
  saveHistory s title commands :=
    s.modify fun content => { content with buckets := content.buckets.insert title commands }
  loadSize s := (s.read.map Stored.size, s)
  saveSize s size := s.modify fun content => { content with size := some size }

end FileStore

end Console
