import Console.Settings.Basic
import Console.Settings.Environment
import Console.Toml.Document

/-! Settings with the file that they come from. What the file says stands above the defaults, and
    what the environment says above the file. Settings are changed in memory, and saving writes all
    of them, those from the environment too. -/

namespace Console

namespace Environment

/-- The home directory. -/
def home (env : Environment) : Text :=
  match env.lookup "HOME".toList with
  | none | some [] => "/root".toList
  | some path => path

/-- The value of a variable if it is an absolute path, else a directory at home. -/
def directory (env : Environment) (variable_ : Text) (usual : Text) : Text :=
  match env.lookup variable_ with
  | some ('/' :: path) => '/' :: path
  | _ => Files.joinPath env.home usual

/-- The directory of the settings. -/
def settingsDirectory (env : Environment) : Text :=
  Files.joinPath (env.directory "XDG_CONFIG_HOME".toList ".config".toList) "repline".toList

/-- The directory of the histories. -/
def dataDirectory (env : Environment) : Text :=
  Files.joinPath (env.directory "XDG_DATA_HOME".toList ".local/share".toList) "repline".toList

/-- The settings file of the user. -/
def settingsPath (env : Environment) : Text :=
  Files.joinPath env.settingsDirectory "config.toml".toList

/-- The file of the histories where the settings name none. -/
def historyPath (env : Environment) : Text :=
  Files.joinPath env.dataDirectory "command_history.json".toList

end Environment

namespace Settings

/-! ### Loading -/

/-- The directories from one up to the root, so many above it at most. -/
def upwards (fs : Files) : Nat → Nat → List Nat
  | 0, base => [base]
  | fuel + 1, base =>
    match fs.directory? base with
    | none => [base]
    | some (parent, _) => if parent = base then [base] else base :: upwards fs fuel parent

/-- The directory from which a path leads to a file: the first one on the way up from `base`. -/
def searchUp (fs : Files) (path : Text) (base : Nat) : Option Nat :=
  (upwards fs fs.nodes.size base).find? fun directory => (fs.find? directory path).any fs.isFile

/-- The data in a settings file; a path that leads to no file gives none. -/
def fileData (fs : Files) (base : Nat) (path : Text) : Except Fault Data :=
  match searchUp fs (Octets.ofText path) base with
  | none => .ok (.dict [])
  | some directory =>
    match fs.readText directory (Octets.ofText path) with
    | .error cause => .error (.unreadable cause)
    | .ok text =>
      match Toml.parse? text with
      | none => .error .malformed
      | some v => .ok (.ofToml v)

/-- The settings of a file under those of the environment. -/
def load (fs : Files) (env : Environment) (base : Nat) (path : Text) : Except Fault Settings :=
  (fileData fs base path).bind fun d => ofData (d.merge env.settings)

/-- Where the histories are. -/
def historyPath (s : Settings) (env : Environment) : Text := s.storageFile.getD env.historyPath

/-! ### Saving -/

/-- Why settings cannot be saved. -/
inductive SaveFault where
  /-- The size is no integer of TOML. -/
  | sizeTooLarge
  | files (cause : Files.Fault)
  deriving DecidableEq, Repr

/-- Writes settings to their file, whose directory is made if it is missing. A size that is too
    large is found before any file is touched. -/
def save (s : Settings) (fs : Files) (base : Nat) (path : Text) :
    Except SaveFault Unit × Files :=
  if s.bufferSize > largestSize then (.error .sizeTooLarge, fs)
  else
    let made : Except Files.Fault Unit × Files := match Files.parent? path with
      | none | some [] => (.ok (), fs)
      | some parent => fs.makeDirectories base (Octets.ofText parent)
    match made with
    | (.error cause, fs) => (.error (.files cause), fs)
    | (.ok (), fs) =>
      match fs.write base (Octets.ofText path) (Text.toUtf8 s.toToml) with
      | .error cause => (.error (.files cause), fs)
      | .ok fs => (.ok (), fs)

/-! ### Changing -/

/-- A change of one setting. -/
inductive Change where
  | flavor (name : Text)
  | showWelcome (b : Bool)
  | bufferSize (n : Nat)
  | storageFile (path : Option Text)
  | symbol (prompt : Option Text)

/-- The settings after a change. -/
def change (s : Settings) : Change → Settings
  | .flavor name => { s with flavor := name }
  | .showWelcome b => { s with showWelcome := b }
  | .bufferSize n => { s with bufferSize := n }
  | .storageFile path => { s with storageFile := path }
  | .symbol prompt => { s with symbol := prompt }

/-- Settings in memory, and where their file is. -/
structure Manager where
  settings : Settings
  path : Text

/-- Loads the settings of a file. -/
def Manager.ofPath (fs : Files) (env : Environment) (base : Nat) (path : Text) :
    Except Fault Manager :=
  (load fs env base path).map fun s => ⟨s, path⟩

/-- Writes the settings in memory to their file. In memory they stay as they are. -/
def Manager.save (m : Manager) (fs : Files) (base : Nat) :
    Except SaveFault Unit × Manager × Files :=
  let (answer, fs) := m.settings.save fs base m.path
  (answer, m, fs)

/-- Loads again from the same file. -/
def Manager.reload (m : Manager) (fs : Files) (env : Environment) (base : Nat) :
    Except Fault Manager :=
  ofPath fs env base m.path

end Settings

end Console
