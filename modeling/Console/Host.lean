import Console.Host.Change
import Console.Host.Programs
import Console.Shell.Basic

/-! An emulated system: its files and programs, and scripts that run on it. It stands for the shell
    and the tools of the system on which the console runs. It is one value of the parameter that
    the shell flavor takes, and nothing but the program refers to it. -/

namespace Console.Host

/-! ### Files -/

namespace Surroundings

/-- The lines of the list of users. -/
def users : List String :=
  ["root:x:0:0:root:/root:/bin/bash",
    "daemon:x:1:1:daemon:/usr/sbin:/usr/sbin/nologin",
    "bin:x:2:2:bin:/bin:/usr/sbin/nologin",
    "sys:x:3:3:sys:/dev:/usr/sbin/nologin",
    "sync:x:4:65534:sync:/bin:/bin/sync",
    "games:x:5:60:games:/usr/games:/usr/sbin/nologin",
    "man:x:6:12:man:/var/cache/man:/usr/sbin/nologin",
    "lp:x:7:7:lp:/var/spool/lpd:/usr/sbin/nologin",
    "mail:x:8:8:mail:/var/mail:/usr/sbin/nologin",
    "news:x:9:9:news:/var/spool/news:/usr/sbin/nologin",
    "uucp:x:10:10:uucp:/var/spool/uucp:/usr/sbin/nologin",
    "proxy:x:13:13:proxy:/bin:/usr/sbin/nologin",
    "www-data:x:33:33:www-data:/var/www:/usr/sbin/nologin",
    "backup:x:34:34:backup:/var/backups:/usr/sbin/nologin",
    "list:x:38:38:Mailing List Manager:/var/list:/usr/sbin/nologin",
    "irc:x:39:39:ircd:/run/ircd:/usr/sbin/nologin",
    "_apt:x:42:65534::/nonexistent:/usr/sbin/nologin",
    "nobody:x:65534:65534:nobody:/nonexistent:/usr/sbin/nologin"]

/-- The directories, each behind those above it. -/
def directories : List String :=
  ["boot", "dev", "dev/shm", "etc", "home", "media", "mnt", "opt", "proc", "root", "run", "srv",
    "sys", "tmp", "usr", "usr/bin", "usr/games", "usr/include", "usr/lib", "usr/lib64", "usr/local",
    "usr/local/bin", "usr/local/sbin", "usr/sbin", "usr/share", "usr/src", "var", "var/tmp"]

/-- The links with what they hold. -/
def links : List (String × String) :=
  [("bin", "usr/bin"), ("lib", "usr/lib"), ("lib64", "usr/lib64"), ("sbin", "usr/sbin")]

/-- The devices by their names. Those that stand for descriptors are opened as such. -/
def devices : List (String × Device) :=
  [("null", .null), ("zero", .zero), ("full", .full), ("random", .zero), ("urandom", .zero),
    ("tty", .terminal), ("stdin", .null), ("stdout", .null), ("stderr", .null)]

/-- Adds something to the tree at a path. -/
def place (fs : Files) (path : String) (content : Content) (mode : Nat) : Files :=
  (fs.addAt Files.root path.toList content mode).toOption.getD fs

/-- The files of a system with these programs, at a time. -/
def files (programs : List String) (now : Int) : Files :=
  let fs : Files := { Files.empty with now := now }
  let fs := directories.foldl (fun fs d => (fs.makeDirectory Files.root d.toList
    (if d = "tmp" ∨ d = "var/tmp" ∨ d = "dev/shm" then 0o1777
      else if d = "root" then 0o700 else 0o755)).toOption.getD fs) fs
  let fs := links.foldl (fun fs (l, t) => place fs l (.link t.toList) 0o777) fs
  let fs := devices.foldl (fun fs (d, k) => place fs ("dev/" ++ d) (.device k) 0o666) fs
  let fs := programs.foldl
    (fun fs p => place fs ("usr/bin/" ++ p) (.program p.toList) 0o755) fs
  let list := users.flatMap fun line => line.toList ++ ['\n']
  place fs "etc/passwd" (.file (Octets.toBytes list)) 0o644

end Surroundings

/-- The names of the programs. -/
def programNames : List String := programs.map Prod.fst

/-- The files of a system before anything has been put there. -/
def systemFiles : Files := Surroundings.files programNames epoch

/-! ### Running a script -/

/-- The number of the process that starts the shell. -/
def starterId : Nat := 1

/-- The number of the shell. -/
def firstId : Nat := 1000

/-- A process without anything opened. -/
def taskOf (id parent directory : Nat) : Task :=
  ⟨id, parent, [], directory, 0o022, [], [], [], none⟩

/-- The state of the system when the shell begins in a directory: no input, and two pipes that lead
    out. -/
def firstKernel (files : Files) (directory : Nat) : Kernel × Nat × Nat :=
  let w : Kernel :=
    { files := files, openings := [], pipes := [], named := [],
      tasks := [taskOf starterId 0 directory, taskOf firstId starterId directory],
      current := firstId, next := firstId + 1, stirred := false }
  let (out, w) := w.addPipe true
  let (errors, w) := w.addPipe true
  let input : Opening := match files.find? Files.root "/dev/null".toList with
    | some n => ⟨.node n, 0, true, false, false⟩
    | none => Kernel.sourceOf out
  let w := ((w.connectTo 0 input).connectTo 1 (Kernel.sinkOf out)).connectTo 2
    (Kernel.sinkOf errors)
  (w, out, errors)

/-- Runs a script in a directory. -/
def runIn (env : List (Text × Text)) (files : Files) (directory : Nat) (script : Text) :
    Shell.Outcome × Files :=
  let (w, out, errors) := firstKernel files directory
  let call : Call :=
    { name := "sh".toList
      arguments := ["-c".toList, Octets.ofText script]
      environment := env.map fun (n, v) => (Octets.ofText n, Octets.ofText v) }
  let process : Process := shell (execute deepestStart) call .ended
  let now := (files.now - epoch).toNat
  let w := w.run patience [⟨now, firstId, process⟩] []
  let status := match (w.task? firstId).bind Task.ending with
    | some (.exited status) => some status
    | _ => none
  (⟨status, w.output out, w.output errors⟩, w.files)

end Console.Host
