import Console.Binary64.Shortest
import Console.Files
import Console.Settings.Data
import Console.Text.Quoted
import Console.Toml.Printer

/-! The settings of the console. They are read from merged data, where what is missing keeps its
    default, and the first value of a wrong kind is reported with its path. They are written as a
    TOML document of three sections. -/

namespace Console

/-- What can be set. -/
structure Settings where
  /-- The name of the flavor that is started. -/
  flavor : Text
  /-- Whether the transcript is shown at the start. -/
  showWelcome : Bool
  /-- How many commands a session keeps until a size is stored. -/
  bufferSize : Nat
  /-- Where the histories are, if not at the usual place. -/
  storageFile : Option Text
  /-- The prompt in place of that of the flavor. -/
  symbol : Option Text
  deriving DecidableEq, Repr

namespace Settings

/-- The settings where nothing is set. -/
def default : Settings := ⟨"calc".toList, true, 50, none, none⟩

/-! ### Faults -/

/-- The kinds of value that are asked for. -/
inductive Wanted where
  | size
  | text
  | boolean
  | path
  | general
  | history
  | prompt
  deriving DecidableEq, Repr

/-- The name of a kind. -/
def Wanted.name : Wanted → Text
  | .size => "usize".toList
  | .text => "a string".toList
  | .boolean => "a boolean".toList
  | .path => "path string".toList
  | .general => "struct GeneralConfig".toList
  | .history => "struct HistoryConfig".toList
  | .prompt => "struct PromptConfig".toList

/-- How a value is named in a message. -/
def Data.describe : Data → Text
  | .text t => "string ".toList ++ Text.quoted t
  | .boolean b => "bool ".toList ++ (if b then "true".toList else "false".toList)
  | .natural n => "unsigned int `".toList ++ Text.ofNat n ++ "`".toList
  | .integer n => "signed int `".toList ++ Text.ofInt n ++ "`".toList
  | .float x => "float `".toList ++ Binary64.render x ++ "`".toList
  | .list _ => "sequence".toList
  | .dict _ => "map".toList

/-- Why settings cannot be read. -/
inductive Fault where
  | unreadable (cause : Files.Fault)
  /-- The file is no TOML document. -/
  | malformed
  | wrongKind (path : List Text) (found : Data) (wanted : Wanted)
  | wrongValue (path : List Text) (found : Data) (wanted : Wanted)

/-- The wording of a fault. -/
def Fault.message : Fault → Text
  | .unreadable cause => cause.message
  | .malformed => "TOML parse error".toList
  | .wrongKind _ found wanted =>
    "invalid type: found ".toList ++ found.describe ++ ", expected ".toList ++ wanted.name
  | .wrongValue _ found wanted =>
    "invalid value ".toList ++ found.describe ++ ", expected ".toList ++ wanted.name

/-! ### Values -/

/-- Reads a value that stands at a path. -/
abbrev Reading (α : Type) := List Text → Data → Except Fault α

/-- Reads text. -/
def readText (wanted : Wanted) : Reading Text
  | _, .text t => .ok t
  | path, d => .error (.wrongKind path d wanted)

/-- Reads a truth value. -/
def readBoolean : Reading Bool
  | _, .boolean b => .ok b
  | path, d => .error (.wrongKind path d .boolean)

/-- Reads a size. -/
def readSize : Reading Nat
  | _, .natural n => .ok n
  | path, .integer n =>
    if 0 ≤ n then .ok n.toNat else .error (.wrongValue path (.integer n) .size)
  | path, d => .error (.wrongKind path d .size)

/-! ### Sections -/

/-- A section: a dictionary of its fields, or the list of them in their order. -/
structure Section where
  path : List Text
  content : Data

/-- The section of this name, which is empty if it is missing. -/
def sectionOf (d : Data) (name : Text) (wanted : Wanted) : Except Fault Section :=
  let content := match d with
    | .dict entries => (entries.lookup name).getD (.dict [])
    | _ => .dict []
  match content with
  | .dict _ | .list _ => .ok ⟨[name], content⟩
  | other => .error (.wrongKind [name] other wanted)

/-- The field of this name, or at this place in a list, with the key that leads to it. -/
def Section.find? (s : Section) (place : Nat) (name : Text) : Option (Text × Data) :=
  match s.content with
  | .dict entries => (entries.lookup name).map fun d => (name, d)
  | .list items => items[place]?.map fun d => (Text.ofNat place, d)
  | _ => none

/-- Reads a field of a section, which has a default. -/
def Section.field {α : Type} (s : Section) (place : Nat) (name : Text) (missing : α)
    (reading : Reading α) : Except Fault α :=
  match s.find? place name with
  | none => .ok missing
  | some (key, d) => reading (s.path ++ [key]) d

/-! The keys of the sections and of their fields. -/

/-- The section of general settings. -/
def generalKey : Text := "general".toList

/-- The section on histories. -/
def historyKey : Text := "history".toList

/-- The section on the prompt. -/
def promptKey : Text := "prompt".toList

/-- The field with the name of the flavor. -/
def flavorKey : Text := "flavor".toList

/-- The field that asks for the transcript at the start. -/
def showWelcomeKey : Text := "show_welcome".toList

/-- The field with the number of commands that are kept. -/
def bufferSizeKey : Text := "buffer_size".toList

/-- The field with the place of the histories. -/
def storageFileKey : Text := "storage_file".toList

/-- The field with the prompt. -/
def symbolKey : Text := "symbol".toList

/-- Reads all settings, the sections and their fields in order of their names. -/
def ofData (d : Data) : Except Fault Settings := do
  let general ← sectionOf d generalKey .general
  let flavor ← general.field 0 flavorKey default.flavor (readText .text)
  let showWelcome ← general.field 1 showWelcomeKey default.showWelcome readBoolean
  let history ← sectionOf d historyKey .history
  let bufferSize ← history.field 0 bufferSizeKey default.bufferSize readSize
  let storageFile ← history.field 1 storageFileKey none fun path d =>
    (readText .path path d).map some
  let prompt ← sectionOf d promptKey .prompt
  let symbol ← prompt.field 0 symbolKey none fun path d => (readText .text path d).map some
  pure ⟨flavor, showWelcome, bufferSize, storageFile, symbol⟩

/-! ### Writing -/

/-- The largest size that a TOML integer can hold. -/
def largestSize : Nat := 9223372036854775807

/-- A line of a section. -/
def line (key value : Text) : Text := key ++ " = ".toList ++ value ++ ['\n']

/-- The line of an optional text, which is missing without it. -/
def optionalLine (key : Text) : Option Text → Text
  | none => []
  | some t => line key (Toml.quote t)

/-- The header of a section. -/
def header (key : Text) : Text := '[' :: key ++ [']', '\n']

/-- The settings as a TOML document. -/
def toToml (s : Settings) : Text :=
  header generalKey ++ line flavorKey (Toml.quote s.flavor) ++
    line showWelcomeKey (if s.showWelcome then "true".toList else "false".toList) ++ ['\n'] ++
  header historyKey ++ line bufferSizeKey (Text.ofNat s.bufferSize) ++
    optionalLine storageFileKey s.storageFile ++ ['\n'] ++
  header promptKey ++ optionalLine symbolKey s.symbol

end Settings

end Console
