import Console.Host.Builtin.Basic
import Console.Host.Field

/-! Commands of the shell that set variables, parameters and options, or tell them. -/

namespace Console.Host.Builtin

/-! ### Marks -/

/-- Variables with what stands in front of them, in the order of their names. -/
def listing (lead : Text) (l : List (Text × Variable)) : Text :=
  (l.mergeSort fun a b => Text.precedes a.1 b.1).flatMap fun (name, v) =>
    let value := match v.value with
      | some t => '=' :: singleQuoted t
      | none => []
    lead ++ name ++ value ++ ['\n']

/-- The name in front of an equals sign, and the value behind it if there is one. -/
def assignmentOf (t : Text) : Text × Option Text :=
  let name := t.takeWhile (· != '=')
  (name, match t.drop name.length with
    | [] => none
    | _ :: value => some value)

/-- Marks variables, and sets them if they have a value, or tells those that are marked. -/
def marking (name : String) (mark : Variable → Variable) (isMarked : Variable → Bool) : Builtin :=
  fun arguments => do
    let (l, arguments) ← parsed "p" arguments
    if !l.isEmpty || arguments.isEmpty then
      let marked := (← get).bindings.filter fun (_, v) => isMarked v
      answerWith (listing (name.toList ++ [' ']) marked)
    else
      for t in arguments do
        let (name, value) := assignmentOf t
        if !isName name then fail (name ++ ": bad variable name".toList)
        if let some value := value then assign name value
        modify fun m => m.putVariable name (mark ((m.binding? name).getD .unset))
    pure 0

/-- Lets other programs see variables. -/
def export_ : Builtin :=
  marking "export" (fun v => { v with isExported := true }) Variable.isExported

/-- Protects variables. -/
def readonly : Builtin :=
  marking "readonly" (fun v => { v with isReadOnly := true }) Variable.isReadOnly

/-- Restores variables, or the options, at the end of the function. -/
def local_ : Builtin := fun arguments => do
  for t in arguments do
    let m ← get
    match m.scopes with
    | [] => fail "not in a function".toList
    | scope :: others =>
      if t = ['-'] then set { m with scopes := (.options m.options :: scope) :: others }
      else
        let (name, value) := assignmentOf t
        let old := m.binding? name
        if !isName name then fail (name ++ ": bad variable name".toList)
        set { m with scopes := (.variable_ name old :: scope) :: others }
        if let some value := value then assign name value
        else if old.isNone then modify fun m => m.putVariable name .unset
  if (← get).scopes.isEmpty then fail "not in a function".toList
  pure 0

/-- Forgets variables or functions. -/
def unset : Builtin := fun arguments => do
  let (l, names) ← parsed "vf" arguments
  let functions := (l.getLast?.map Prod.fst) == some 'f'
  for name in names do
    let m ← get
    if functions then
      set { m with functions := m.functions.filter fun (n, _) => n != name }
    else
      if !isName name then fail (name ++ ": bad variable name".toList)
      if (m.binding? name).any Variable.isReadOnly then fail (name ++ ": is read only".toList)
      set (m.removeVariable name)
  pure 0

/-! ### Parameters and options -/

/-- Drops the first positional parameters. -/
def shift : Builtin := fun arguments => do
  let n ← match arguments with
    | [] => pure 1
    | t :: _ => numberOf t
  let m ← get
  if n > m.parameters.length then fail "can't shift that many".toList
  set { m with parameters := m.parameters.drop n, optionIndex := 1, optionOffset := none }
  pure 0

/-- The options by their letters and names. -/
def optionNames : List (Option Char × String) :=
  [(some 'e', "errexit"), (some 'f', "noglob"), (some 'I', "ignoreeof"), (some 'i', "interactive"),
    (some 'm', "monitor"), (some 'n', "noexec"), (some 's', "stdin"), (some 'x', "xtrace"),
    (some 'v', "verbose"), (some 'V', "vi"), (some 'E', "emacs"), (some 'C', "noclobber"),
    (some 'a', "allexport"), (some 'b', "notify"), (some 'u', "nounset"), (none, "nolog"),
    (none, "debug")]

/-- The character that stands for an option without letter. -/
def letterOf (option : Option Char × String) : Char :=
  option.1.getD (if option.2 = "nolog" then '1' else '2')

/-- The letters of the options that are on. -/
def optionLetters (m : Machine) : Text :=
  optionNames.filterMap fun o => o.1.filter m.has

/-- Turns an option on or off. -/
def setOption (on : Bool) (c : Char) : Run Unit :=
  modify fun m =>
    let others := m.options.filter (· != c)
    { m with options := if on then c :: others else others }

/-- Turns the option of a name on or off, or tells all options. -/
def namedOption (on : Bool) : Option Text → Run Unit
  | some name => do
    match optionNames.find? fun o => o.2.toList == name with
    | some o => setOption on (letterOf o)
    | none => fail ("Illegal option -o ".toList ++ name)
  | none => do
    let m ← get
    if on then
      answerWith "Current option settings\n".toList
      for o in optionNames do
        let name := o.2.toList ++ List.replicate (16 - o.2.length) ' '
        answerWith (name ++ (if m.has (letterOf o) then "on\n" else "off\n").toList)
    else
      for o in optionNames do
        answerWith ((if m.has (letterOf o) then "set -o " else "set +o ").toList ++ o.2.toList ++
          ['\n'])

/-- Turns the options of one argument on or off. The name of an option can be the next argument. -/
def setOptions (on : Bool) : Text → List Text → Run (List Text)
  | [], others => pure others
  | c :: rest, others => do
    if c = 'o' then
      namedOption on others.head?
      setOptions on rest (others.drop 1)
    else if optionNames.any fun o => o.1 == some c then
      setOption on c
      setOptions on rest others
    else fail ("Illegal option -".toList ++ [c])

/-- Sets options and positional parameters. -/
def set_ : Nat → List Text → Run Nat
  | 0, _ => pure 0
  | fuel + 1, arguments => do
    let parameters (l : List Text) : Run Nat := do
      if !l.isEmpty then
        modify fun m => { m with parameters := l, optionIndex := 1, optionOffset := none }
      pure 0
    match arguments with
    | ['-'] :: rest =>
      setOption false 'x'
      setOption false 'v'
      parameters rest
    | ['-', '-'] :: rest =>
      if rest.isEmpty then modify fun m => { m with parameters := [] }
      parameters rest
    | ('-' :: letters) :: rest => set_ fuel (← setOptions true letters rest)
    | ('+' :: letters) :: rest => set_ fuel (← setOptions false letters rest)
    | l => parameters l

/-- Sets options and parameters, or tells all variables. -/
def set : Builtin := fun arguments => do
  if arguments.isEmpty then
    answerWith (listing [] ((← get).bindings.filter fun (_, v) => v.value.isSome))
    pure 0
  else set_ (arguments.length + 1) arguments

/-! ### Options of a script -/

/-- What an option of a script comes to: its name as it is told, its value, and what is reported. -/
structure OptionRead where
  letter : Char
  value : Option Text
  report : Option Text

/-- Reads one option of arguments. -/
def readOption (letters : Text) (arguments : List Text) (index : Nat) (offset : Option Nat) :
    Option OptionRead × Nat × Option Nat :=
  let word (i : Nat) : Option Text := if i = 0 then none else arguments[i - 1]?
  let current : Option Text :=
    match offset, word (index - 1) with
    | some n, some t => if index ≤ 1 ∨ t.length ≤ n then none else some (t.drop n)
    | _, _ => none
  let (rest, index) : Option Text × Nat := match current with
    | some t => (some t, index)
    | none =>
      match word index with
      | some ('-' :: c :: t) => if c = '-' && t.isEmpty then (none, index + 1) else
          (some (c :: t), index + 1)
      | _ => (none, index)
  match rest with
  | none | some [] => (none, index, none)
  | some (c :: rest) =>
    let offsetOf (t : Text) : Option Nat :=
      some (((word (index - 1)).getD []).length - t.length)
    let silent := letters.head? = some ':'
    let behind := if c = ':' then [] else letters.dropWhile (· != c)
    match behind with
    | [] =>
      if silent then (some ⟨'?', some [c], none⟩, index, offsetOf rest)
      else
        (some ⟨'?', none, some ("Illegal option -".toList ++ [c])⟩, index, offsetOf rest)
    | _ :: ':' :: _ =>
      if !rest.isEmpty then (some ⟨c, some rest, none⟩, index, none)
      else
        match word index with
        | some t => (some ⟨c, some t, none⟩, index + 1, none)
        | none =>
          let complaint := "No arg for -".toList ++ c :: " option".toList
          if silent then (some ⟨':', some [c], none⟩, index, none)
          else (some ⟨'?', none, some complaint⟩, index, none)
    | _ => (some ⟨c, some [], none⟩, index, offsetOf rest)

/-- Reads the next option of the parameters or of other arguments into a variable. -/
def getopts : Builtin := fun arguments => do
  let (_, arguments) ← parsed "" arguments
  match arguments with
  | letters :: name :: others =>
    let m ← get
    let words := if others.isEmpty then m.parameters else others
    let isBeyond := m.optionIndex > words.length + 1
    let index := if isBeyond then 1 else m.optionIndex
    let (read, index, offset) := readOption letters words index
      (if isBeyond then none else m.optionOffset)
    if let some r := read then
      if let some t := r.report then put 2 (t ++ ['\n'])
      match r.value with
      | some t => assign "OPTARG".toList t
      | none => modify fun m => m.removeVariable "OPTARG".toList
    assign "OPTIND".toList (Text.ofNat index)
    modify fun m => { m with optionIndex := index, optionOffset := offset }
    assign name [(read.map OptionRead.letter).getD '?']
    pure (if read.isSome then 0 else 1)
  | _ => fail "Usage: getopts optstring var [arg]".toList

/-! ### Reading -/

/-- The characters of a line from descriptor zero up to its end, those behind a backslash as quoted
    ones, and whether the line has an end. Characters are read one by one, so that the others stay
    for those who read after. The pieces so far are given from the last one. -/
def lineAtoms (raw : Bool) : Nat → List Atom → Bool → Run (List Atom × Bool)
  | 0, read, _ => pure (read.reverse, false)
  | fuel + 1, read, escaped => do
    match ← (Prog.await fun w => w.read? 0 1 : Prog (Except Obstacle Text)) with
    | .ok (c :: _) =>
      if c = '\x00' then lineAtoms raw fuel read escaped
      else if escaped then
        lineAtoms raw fuel (if c = '\n' then .edge :: read else .edge :: .char c true :: read) false
      else if c = '\\' && !raw then lineAtoms raw fuel read true
      else if c = '\n' then pure (read.reverse, true)
      else lineAtoms raw fuel (.value c :: read) false
    | _ => pure (read.reverse, false)

/-- Assigns fields to names; names without field become empty. -/
def assignFields : List Text → List Text → Run Unit
  | [], _ => pure ()
  | name :: names, fields => do
    assign name (fields.headD [])
    assignFields names (fields.drop 1)

/-- Reads a line into variables. -/
def read : Builtin := fun arguments => do
  let (l, names) ← parsed "p:r" arguments
  if names.isEmpty then fail "arg count".toList
  let (atoms, complete) ← lineAtoms (l.any fun (c, _) => c == 'r') Prog.manyPieces [] false
  assignFields names (dealt (← get).separators names.length atoms)
  pure (if complete then 0 else 1)

end Console.Host.Builtin
