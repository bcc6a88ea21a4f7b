import Console.Calculator.Reading
import Console.CommandLine.Help
import Console.CommandLine.Options
import Console.Screen
import Console.Settings.Manager
import Console.Shell
import Console.Text.Cluster

/-! Launching the console: the settings are loaded, the flavor is chosen, and a session is opened on
    the file of the histories. Then one expression is run, or the lines of the input one by one. -/

namespace Console.CommandLine

/-- Why the console does not come up, or stops. -/
inductive Fault where
  | settings (cause : Settings.Fault)
  | unknownFlavor (name : Text)
  | session (cause : Console.Fault)
  /-- A line of the input is no text. -/
  | input (cause : Files.Fault)

/-- The wording of a fault. -/
def Fault.message : Fault → Text
  | .settings cause => cause.message
  | .unknownFlavor name => Flavor.unknownMessage name
  | .session cause => cause.message
  | .input cause => cause.message

/-- A console that runs: its session, which nobody observes, and where it is. -/
structure Running where
  engine : Engine Empty
  place : Place
  evaluator : Evaluator Place

/-- The evaluator of a flavor. -/
def evaluatorOf (env : Environment) : Flavor.Kind → Evaluator Place
  | .calculator => .pure fun e => (Calculator.execute e).mapError Calculator.Fault.report
  | .shell => Shell.evaluator env

/-- The flavor that options or settings choose. -/
def chooseFlavor (options : Options) (settings : Settings) : Except Fault Flavor.Kind :=
  match options.flavor with
  | some kind => .ok kind
  | none =>
    match Flavor.Kind.ofName? settings.flavor with
    | some kind => .ok kind
    | none => .error (.unknownFlavor settings.flavor)

/-- A flavor with the prompt of the settings. -/
def withPrompt (flavor : Flavor) : Option Text → Flavor
  | none => flavor
  | some symbol => { flavor with prompt := symbol }

/-- Opens the session of a flavor on the file of the histories. -/
def openSession (env : Environment) (files : Files) (base : Nat) (settings : Settings)
    (kind : Flavor.Kind) : Except Fault Running × Files :=
  let place : Place := ⟨files, base, .file (settings.historyPath env)⟩
  match Session.start (withPrompt kind.flavor settings.symbol) settings.bufferSize place with
  | (.error e, place) => (.error (.session e), place.files)
  | (.ok session, place) => (.ok ⟨.ofSession session, place, evaluatorOf env kind⟩, place.files)

/-- Loads the settings and opens the session. -/
def launch (env : Environment) (files : Files) (base : Nat) (options : Options) :
    Except Fault (Settings × Running) × Files :=
  match Settings.load files env base (options.config.getD env.settingsPath) with
  | .error e => (.error (.settings e), files)
  | .ok settings =>
    match chooseFlavor options settings with
    | .error e => (.error e, files)
    | .ok kind =>
      let (r, files) := openSession env files base settings kind
      (r.map fun running => (settings, running), files)

namespace Running

/-- What is printed at the start. -/
def welcome (r : Running) : Text :=
  Screen.stripPrompt r.engine.session.transcript.text (Screen.promptText r.engine)

/-- Submits one expression, and answers what is printed. -/
def execute (r : Running) (expression : Text) : Text × Running :=
  let t := Screen.executeOnce r.evaluator r.engine r.place expression
  (t.answer ++ ['\n'], { r with engine := t.engine, place := t.store })

/-- Submits one line, and answers what is printed. -/
def submit (r : Running) (line : Text) : Text × Running :=
  let t := Screen.submit r.evaluator r.engine r.place line
  (Screen.stripPrompt t.answer (Screen.promptText t.engine),
    { r with engine := t.engine, place := t.store })

end Running

/-! ### Input -/

/-- The bytes of the lines of an input; the last one may lack its newline. -/
def byteLines : List UInt8 → List (List UInt8 × Bool)
  | [] => []
  | b :: rest =>
    if b = 10 then ([], true) :: byteLines rest
    else
      match byteLines rest with
      | [] => [([b], false)]
      | (line, complete) :: lines => (b :: line, complete) :: lines

/-- The text of a line, without the carriage return in front of its newline, and without what
    backspaces in it take back. -/
def lineText? (line : List UInt8 × Bool) : Option Text :=
  (Text.ofUtf8? ⟨line.1.toArray⟩).map fun t =>
    Text.withoutBackspaces (if line.2 then Text.dropEnding ['\r'] t else t)

/-- Submits lines up to the first that is no text. -/
def submitAll (r : Running) : List (List UInt8 × Bool) → Text × Option Fault × Running
  | [] => ([], none, r)
  | line :: lines =>
    match lineText? line with
    | none => ([], some (.input .notText), r)
    | some t =>
      let (printed, r) := r.submit t
      let (more, fault, r) := submitAll r lines
      (printed ++ more, fault, r)

/-! ### Whole runs -/

/-- What a run leaves behind. -/
structure Outcome where
  status : Nat
  printed : Text
  fault : Option Fault
  files : Files

/-- A run that prints and is done. -/
def Outcome.printing (files : Files) (t : Text) : Outcome := ⟨0, t, none, files⟩

/-- A run that ends with a fault. -/
def Outcome.faulty (files : Files) (printed : Text) (fault : Fault) : Outcome :=
  ⟨1, printed, some fault, files⟩

/-- Runs with options on the bytes of an input. -/
def runWith (env : Environment) (files : Files) (base : Nat) (options : Options)
    (input : ByteArray) : Outcome :=
  match launch env files base options with
  | (.error e, files) => .faulty files [] e
  | (.ok (settings, running), _) =>
    match options.execute with
    | some expression =>
      let (printed, running) := running.execute expression
      .printing running.place.files printed
    | none =>
      let welcome := if settings.showWelcome then running.welcome else []
      match submitAll running (byteLines input.toList) with
      | (printed, none, running) => .printing running.place.files (welcome ++ printed)
      | (printed, some e, running) => .faulty running.place.files (welcome ++ printed) e

/-- Runs with arguments on the bytes of an input. Wrong arguments end with status 2. -/
def run (env : Environment) (files : Files) (base : Nat) (arguments : List Text)
    (input : ByteArray) : Outcome :=
  match request arguments with
  | .launch options => runWith env files base options input
  | .shortHelp => .printing files shortHelpText
  | .longHelp => .printing files longHelpText
  | .version => .printing files versionText
  | .refused => ⟨2, [], none, files⟩

end Console.CommandLine
