import Console.Flavor

/-! The options of the command line, read from the left. An option with a value has it behind an
    equals sign, in the rest of its argument, or in the next argument, which may not look like an
    option. Help and version are asked for as soon as they are read, and anything else that is wrong
    before them counts first. -/

namespace Console.CommandLine

/-- What is asked for by options. -/
structure Options where
  flavor : Option Flavor.Kind
  /-- The settings file. -/
  config : Option Text
  /-- One expression to run in place of the lines of the input. -/
  execute : Option Text
  debug : Bool
  deriving DecidableEq, Repr

/-- No options. -/
def Options.none : Options := ⟨.none, .none, .none, false⟩

/-- An option with a value. -/
inductive Valued where | flavor | config | execute
  deriving DecidableEq, Repr

/-- An option without a value. -/
inductive Plain where | debug | help | version
  deriving DecidableEq, Repr

/-- An option of either kind. -/
inductive Flag where
  | valued (o : Valued)
  | plain (o : Plain)
  deriving DecidableEq, Repr

/-- The options by their long names. -/
def longNames : List (Text × Flag) :=
  [("flavor".toList, .valued .flavor), ("config".toList, .valued .config),
    ("execute".toList, .valued .execute), ("debug".toList, .plain .debug),
    ("help".toList, .plain .help), ("version".toList, .plain .version)]

/-- The options by their letters. -/
def letters : List (Char × Flag) :=
  [('f', .valued .flavor), ('c', .valued .config), ('e', .valued .execute), ('h', .plain .help),
    ('V', .plain .version)]

/-- What the arguments ask for. -/
inductive Request where
  | launch (options : Options)
  | shortHelp
  | longHelp
  | version
  /-- The arguments are wrong. -/
  | refused
  deriving DecidableEq, Repr

/-- Takes the value of an option; it may be given only once, and has to be of its kind. -/
def Options.take (s : Options) (value : Text) : Valued → Option Options
  | .flavor =>
    if s.flavor.isSome then .none
    else (Flavor.Kind.ofExactName? value).map fun k => { s with flavor := some k }
  | .config =>
    if s.config.isSome ∨ value = [] then .none else some { s with config := some value }
  | .execute => if s.execute.isSome then .none else some { s with execute := some value }

/-- Whether an argument looks like an option. -/
def looksLikeOption (t : Text) : Bool := t.head? == some '-' && t != ['-']

/-- What one argument comes to. -/
inductive Reading where
  | goOn (options : Options)
  /-- The value of the option is the next argument. -/
  | awaits (o : Valued) (options : Options)
  | done (r : Request)

/-- Reads an option without a value. -/
def readPlain (s : Options) (isLong : Bool) : Plain → Reading
  | .debug => if s.debug then .done .refused else .goOn { s with debug := true }
  | .help => .done (if isLong then .longHelp else .shortHelp)
  | .version => .done .version

/-- Reads the value of an option. -/
def readValue (s : Options) (o : Valued) (value : Text) : Reading :=
  match s.take value o with
  | some s => .goOn s
  | none => .done .refused

/-- Reads a long option behind its two hyphens. -/
def readLong (s : Options) (t : Text) : Reading :=
  let name := t.takeWhile (· != '=')
  match longNames.lookup name, t.drop name.length with
  | some (.valued o), '=' :: value => readValue s o value
  | some (.valued o), _ => .awaits o s
  | some (.plain o), [] => readPlain s true o
  | _, _ => .done .refused

/-- Reads letters behind one hyphen. -/
def readLetters (s : Options) : Text → Reading
  | [] => .goOn s
  | c :: rest =>
    match letters.lookup c with
    | some (.valued o) =>
      match rest with
      | [] => .awaits o s
      | '=' :: value => readValue s o value
      | value => readValue s o value
    | some (.plain o) =>
      match readPlain s false o with
      | .goOn s => readLetters s rest
      | r => r
    | none => .done .refused

/-- Reads one argument. Nothing but options is taken. -/
def readArgument (s : Options) : Text → Reading
  | '-' :: '-' :: rest => readLong s rest
  | '-' :: c :: rest => readLetters s (c :: rest)
  | _ => .done .refused

/-- Reads all arguments. Two hyphens alone may end them. -/
def readAll (s : Options) : List Text → Request
  | [] => .launch s
  | [['-', '-']] => .launch s
  | t :: rest =>
    match readArgument s t, rest with
    | .done r, _ => r
    | .goOn s, rest => readAll s rest
    | .awaits _ _, [] => .refused
    | .awaits o s, value :: rest =>
      if looksLikeOption value then .refused
      else
        match s.take value o with
        | some s => readAll s rest
        | none => .refused

/-- What arguments ask for. -/
def request (arguments : List Text) : Request := readAll .none arguments

end Console.CommandLine
