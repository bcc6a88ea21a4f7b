import Console.CommandLine.Launch

/-! The program. It takes the files that the console works on from the disk, runs the console on
    them, and puts what has changed back after every line. -/

namespace Console.Program

/-- The environment of the process. -/
def environment : IO Environment := do
  try
    let bytes ← IO.FS.readBinFile "/proc/self/environ"
    let entries := Text.splitOn '\x00' (Text.ofBytes bytes)
    pure ((entries.filter fun t => t.elem '=').map fun t =>
      (t.takeWhile (· != '='), (t.dropWhile (· != '=')).drop 1))
  catch _ => pure []

/-- Takes what is at an absolute path from the disk. -/
def fetchNode (fs : Files) (path : Text) : IO Files := do
  let place := (← IO.currentDir) / String.ofList path
  let name := Octets.ofText path
  try
    if ← place.isDir then pure (fs.makeDirectories Files.root name).2
    else if ← place.pathExists then pure (fs.plant Files.root name (← IO.FS.readBinFile place))
    else pure fs
  catch _ => pure fs

/-- Takes what is at an absolute path and on the way to it. -/
def fetch (fs : Files) (path : Text) : IO Files :=
  let names := Text.splitOn '/' path
  (List.range names.length).foldlM
    (fun fs n => fetchNode fs ('/' :: Text.join ['/'] (names.take (n + 1)))) fs

/-- Takes what a text can name, seen from a directory and those above it. -/
def fetchText (fs : Files) (directory t : Text) : IO Files :=
  if t.head? = some '/' then fetch fs t
  else
    let names := Text.splitOn '/' directory
    (List.range names.length).foldlM
      (fun fs n => fetch fs (Text.join ['/'] (names.take (n + 1)) ++ '/' :: t)) fs

/-- Takes what is in a directory. -/
def fetchEntries (fs : Files) (directory : Text) : IO Files := do
  let place := (← IO.currentDir) / String.ofList directory
  (← place.readDir).foldlM
    (fun fs e => fetchNode fs (directory ++ '/' :: e.fileName.toList)) fs

/-- Whether two nodes hold the same. -/
def areSame (a b : Option Node) : Bool :=
  match a.map Node.content, b.map Node.content with
  | some (.directory _ _), some (.directory _ _) => true
  | some (.file s), some (.file t) => s == t
  | some (.file _), _ | _, some (.file _) => false
  | some (.directory _ _), _ | _, some (.directory _ _) => false
  | _, _ => true

/-- Puts the differences between two trees on the disk. -/
def store (before after : Files) : IO Unit := do
  let here ← IO.currentDir
  let placeOf (path : Text) := here / String.ofList (Octets.toText path)
  let old := before.paths
  let new := after.paths
  for (p, _) in old.reverse do
    if (new.lookup p).isNone then
      let place := placeOf p
      try if ← place.isDir then IO.FS.removeDirAll place else IO.FS.removeFile place
      catch _ => pure ()
  for (p, n) in new do
    if !areSame ((old.lookup p).bind before.node?) (after.node? n) then
      match (after.node? n).map Node.content with
      | some (.directory _ _) => IO.FS.createDirAll (placeOf p)
      | some (.file bytes) => IO.FS.writeBinFile (placeOf p) bytes
      | _ => pure ()

/-- Prints at once. -/
def print (t : Text) : IO Unit := do
  let out ← IO.getStdout
  out.putStr (String.ofList t)
  out.flush

/-- Reports a fault. -/
def report (fault : CommandLine.Fault) : IO UInt32 := do
  (← IO.getStderr).putStrLn ("Error: " ++ String.ofList fault.message)
  pure 1

/-- The bytes of the next line of an input, with those that have been read before it. -/
partial def readLine (input : IO.FS.Stream) (read : ByteArray) : IO ByteArray := do
  let bytes ← input.read 1
  let read := read ++ bytes
  if bytes.isEmpty || bytes.toList = [10] then pure read else readLine input read

/-- Submits line after line. -/
partial def submitLines (running : CommandLine.Running) : IO UInt32 := do
  let input ← IO.getStdin
  if ← input.isTty then print (Screen.promptText running.engine)
  match CommandLine.byteLines (← readLine input ByteArray.empty).toList with
  | [] => pure 0
  | line :: _ =>
    match CommandLine.lineText? line with
    | none => report (.input .notText)
    | some t =>
      let (printed, after) := running.submit t
      store running.place.files after.place.files
      print printed
      submitLines after

/-- Runs with options. -/
def launch (options : CommandLine.Options) : IO UInt32 := do
  let env ← environment
  let here := (← IO.currentDir).toString.toList
  let path := options.config.getD env.settingsPath
  let files ← fetchEntries (← fetchText (← fetch Shell.systemFiles here) here path) here
  let base := (files.find? Files.root (Octets.ofText here)).getD Files.root
  let files ← match Settings.load files env base path with
    | .ok settings => fetchText files here (settings.historyPath env)
    | .error _ => pure files
  match CommandLine.launch env files base options with
  | (.error e, _) => report e
  | (.ok (settings, running), _) =>
    match options.execute with
    | some expression =>
      let (printed, after) := running.execute expression
      store files after.place.files
      print printed
      pure 0
    | none =>
      if settings.showWelcome then print running.welcome
      submitLines running

end Console.Program

/-- Runs the console with the arguments of the process. -/
def main (arguments : List String) : IO UInt32 := do
  match Console.CommandLine.request (arguments.map String.toList) with
  | .launch options => Console.Program.launch options
  | .shortHelp => do
    Console.Program.print Console.CommandLine.shortHelpText
    pure 0
  | .longHelp => do
    Console.Program.print Console.CommandLine.longHelpText
    pure 0
  | .version => do
    Console.Program.print Console.CommandLine.versionText
    pure 0
  | .refused => do
    (← IO.getStderr).putStrLn "error: invalid arguments\n\nFor more information, try '--help'."
    pure 2
