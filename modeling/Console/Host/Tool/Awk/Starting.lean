import Console.Host.Tool.Awk.Reading
import Console.Host.Tool.Awk.Running

/-! The tool that runs scripts over records: its options, and how a script begins and ends. -/

namespace Console.Host.Tool

open Work

namespace Awk

/-- What the tool has been given. -/
structure Wish where
  /-- The files that hold the script. -/
  files : List Text
  separator : Option Text
  assignments : List (Text × Text)
  /-- The arguments behind the options. -/
  operands : List Text

/-- What is said about the use of the tool. -/
def usage : String :=
  "Usage: mawk [Options] [Program] [file ...]\n\n" ++
  "Program:\n" ++
  "    The -f option value is the name of a file containing program text.\n" ++
  "    If no -f option is given, a \"--\" ends option processing; the following\n" ++
  "    parameters are the program text.\n\n" ++
  "Options:\n" ++
  "    -f program-file  Program  text is read from file instead of from the\n" ++
  "                     command-line.  Multiple -f options are accepted.\n" ++
  "    -F value         sets the field separator, FS, to value.\n" ++
  "    -v var=value     assigns value to program variable var.\n" ++
  "    --               unambiguous end of options.\n\n" ++
  "    Implementation-specific options are prefixed with \"-W\".  They can be\n" ++
  "    abbreviated:\n\n" ++
  "    -W version       show version information and exit.\n" ++
  "    -W compat        pre-POSIX 2001.\n" ++
  "    -W dump          show assembler-like listing of program and exit.\n" ++
  "    -W help          show this message and exit.\n" ++
  "    -W interactive   set unbuffered output, line-buffered input.\n" ++
  "    -W exec file     use file as program as well as last option.\n" ++
  "    -W posix         stricter POSIX checking.\n" ++
  "    -W random=number set initial random seed.\n" ++
  "    -W sprintf=number adjust size of sprintf buffer.\n" ++
  "    -W usage         show this message and exit.\n"

/-- What is said about the version of the tool. -/
def version : String :=
  "mawk 1.3.4 20240123\n\n" ++
  "random-funcs:       arc4random_stir/arc4random\n" ++
  "regex-funcs:        internal\n\n" ++
  "compiled limits:\n" ++
  "sprintf buffer      8192\n" ++
  "maximum-integer     9223372036854775808\n"

/-- The words behind the option for everything else. -/
def specialWords : List String :=
  ["compat", "dump", "exec", "help", "interactive", "posix", "random", "repetitions", "sprintf",
    "traditional", "usage", "version"]

/-- Ends the tool because something is wrong. -/
def fail {α : Type} (t : Text) : Work α := do
  mutter t
  step (Prog.exit 2)

/-- Does what a word behind the option for everything else says. -/
def special (t : Text) : Work Unit := do
  let word := Text.lowerAscii (t.takeWhile (· != '='))
  let found := specialWords.find? fun w => word.isPrefixOf w.toList
  match found with
  | some "version" =>
    say version.toList
    stop 0
  | some "help" | some "usage" =>
    say usage.toList
    stop 0
  | some _ => pure ()
  | none => mutter ("vacuous option: -W \"".toList ++ t ++ ['"'])

/-- The words that can stand behind two hyphens. -/
def longWords : List String :=
  ["compat", "dump", "help", "interactive", "posix", "re-interval", "traditional", "usage",
    "version"]

/-- Reads the options in front of other arguments. -/
def readOptions (w : Wish) : Nat → List Text → Work Wish
  | 0, l => pure { w with operands := l }
  | fuel + 1, l => do
    match l with
    | ['-', '-'] :: rest => pure { w with operands := rest }
    | ('-' :: '-' :: name) :: rest =>
      match longWords.find? fun n => name.isPrefixOf n.toList with
      | some n =>
        if n != "re-interval" then special n.toList
        readOptions w fuel rest
      | none => fail ("not an option: --".toList ++ name)
    | ('-' :: c :: letters) :: rest =>
      if !"WvFf".toList.elem c then fail ("not an option: ".toList ++ '-' :: c :: letters)
      else
        let (value, rest) ← match letters, rest with
          | [], t :: rest => pure (t, rest)
          | [], [] => fail ("option -".toList ++ c :: " lacks argument".toList)
          | t, rest => pure (t, rest)
        match c with
        | 'W' =>
          special value
          readOptions w fuel rest
        | 'F' => readOptions { w with separator := some (withoutEscapes value) } fuel rest
        | 'f' => readOptions { w with files := w.files ++ [value] } fuel rest
        | _ =>
          match if isAssignment value then assignment? value else none with
          | none => fail ("improper assignment: -v ".toList ++ value)
          | some (name, v) =>
            let a := (name, withoutEscapes v)
            readOptions { w with assignments := w.assignments ++ [a] } fuel rest
    | l => pure { w with operands := l }
where
  /-- Whether a text is an assignment. -/
  isAssignment (t : Text) : Bool := Running.isAssignment t

/-- The texts of the files that hold a script. -/
def scriptText : List Text → Work Text
  | [] => pure []
  | file :: rest => do
    match ← contents file with
    | .error e => fail ("cannot open \"".toList ++ file ++ "\" (".toList ++ e ++ [')'])
    | .ok t => do pure (t ++ (← scriptText rest))

/-- Ends the tool because of what is wrong with its script. -/
def refuseScript {α : Type} (file : Option Text) (l : List Complaint) : Work α := do
  let front : Text := match file with
    | some f => f ++ ": ".toList
    | none => []
  l.forM fun c => mutter (front ++ c.message)
  step (Prog.exit 2)

/-- The state in which a script begins. -/
def startMachine (s : Script) (w : Wish) (arguments : List Text) (name : Text)
    (environment : List (Text × Text)) : Machine :=
  let text (t : String) : Value := .text t.toList
  let arguments := name :: arguments
  let reserved : List (Nat × Value) :=
    [(Slot.records, .ofNat 0), (Slot.fileRecords, .ofNat 0),
      (Slot.fieldSeparator, .text (w.separator.getD [' '])), (Slot.fieldJoint, text " "),
      (Slot.recordSeparator, text "\n"), (Slot.recordEnd, text "\n"), (Slot.fileName, text ""),
      (Slot.keyJoint, text "\x1c"), (Slot.matchStart, .unset), (Slot.matchLength, .unset),
      (Slot.textFormat, text "%.6g"), (Slot.printFormat, text "%.6g"),
      (Slot.argumentCount, .ofNat arguments.length)]
  let count := s.names.size
  let globals := reserved.foldl (fun (l : Array Value) (n, v) => l.setIfInBounds n v)
    (Array.replicate count .unset)
  let environmentTable := environment.foldl
    (fun (t : Table) (name, value) => t.set (.text name) (.input value)) .empty
  let (argumentTable, _) : Table × Nat := arguments.foldl
    (fun (t, n) a => (t.set (.integer n) (.input a), n + 1)) (.empty, 0)
  let tables := ((Array.replicate count Table.empty).setIfInBounds Slot.environment
    environmentTable).setIfInBounds Slot.arguments argumentTable
  let separator := ((Separator.ofFields (w.separator.getD [' '])).toOption).getD .blanks
  ⟨globals, tables, #[], .ofValue (.input []), separator, .one '\n', none, 1, false, false, [], [],
    [], 0, ∅, Array.replicate s.ranges false, 0, nextRandom 0, .ofNat 0⟩

/-- Runs a script and ends with its status. -/
def runWith (s : Script) (w : Wish) (m : Machine) : Work Unit := do
  let whole : Running (Option Text) := do
    let failure ← runScript s w.assignments
    match failure with
    | some t => Running.act (mutter t)
    | none => pure ()
    Running.closeAll
    pure failure
  let (result, m) ← (whole m).work
  match result with
  | .ok none => stop m.status
  | .ok (some _) => stop 2
  | .error (.failure t) => fail t
  | .error .exit => stop m.status

end Awk

/-- Runs a script over records. -/
def awk : Program :=
  tool (mannerOf 2) fun arguments => do
    let w ← Awk.readOptions ⟨[], none, [], []⟩ (arguments.length + 1) arguments
    let (file, text, operands) ← match w.files, w.operands with
      | [], [] => do
        step (Prog.put 2 Awk.usage.toList)
        step (Prog.exit 0)
      | [], t :: rest => pure ((none : Option Text), t, rest)
      | files, operands => do pure (files.getLast?, ← Awk.scriptText files, operands)
    match Awk.Script.read text with
    | .error l => Awk.refuseScript file l
    | .ok s =>
      Awk.runWith s w (Awk.startMachine s w operands (← name) (← environment))

end Console.Host.Tool
