import Console.Host.Numeral

/-! Options of tools: letters behind one hyphen and names behind two, of which the beginning is
    enough if no other name begins so. Options can follow operands, up to two hyphens alone. -/

namespace Console.Host.Tool

/-- Whether a value belongs to an option. -/
inductive Takes where
  | nothing
  | value
  /-- A value only if it is written without a blank in between. -/
  | maybe
  deriving DecidableEq, Repr

/-- An option, by its letter and its name. -/
structure Switch where
  letter : Option Char
  name : String
  takes : Takes
  deriving DecidableEq, Repr

namespace Switch

/-- What an option is known by: its name, or its letter if it has none. -/
def key (s : Switch) : String :=
  if s.name.isEmpty then String.ofList s.letter.toList else s.name

end Switch

/-- An option without a value. -/
def flag (letter : Char) (name : String) : Switch := ⟨some letter, name, .nothing⟩

/-- An option with a value. -/
def valued (letter : Char) (name : String) : Switch := ⟨some letter, name, .value⟩

/-- An option that has only a name. -/
def named (name : String) (takes : Takes) : Switch := ⟨none, name, takes⟩

/-- Options that have only a letter, and no value. -/
def flags (letters : String) : List Switch := letters.toList.map fun c => flag c ""

/-- The options of a tool. -/
structure Grammar where
  switches : List Switch
  /-- Whether options end where the first operand stands. -/
  endsEarly : Bool
  /-- Which arguments are operands although they have a hyphen in front. -/
  keeps : Text → Bool

/-- What a tool has been given: options in their order with their values, and operands. -/
structure Given where
  options : List (String × Text)
  operands : List Text

namespace Given

/-- Whether an option is there. -/
def has (g : Given) (key : String) : Bool := g.options.any fun (k, _) => k == key

/-- The values of an option. -/
def all (g : Given) (key : String) : List Text :=
  (g.options.filter fun (k, _) => k == key).map Prod.snd

/-- The value that an option has in the end. -/
def last? (g : Given) (key : String) : Option Text := (g.all key).getLast?

/-- The last of some options that is there. -/
def lastOf? (g : Given) (keys : List String) : Option String :=
  ((g.options.filter fun (k, _) => keys.contains k).map Prod.fst).getLast?

end Given

namespace Grammar

/-- The options that a name can stand for. -/
def matching (g : Grammar) (name : Text) : List Switch :=
  let named := g.switches.filter fun s => !s.name.isEmpty
  match named.find? fun s => s.name.toList == name with
  | some s => [s]
  | none => named.filter fun s => name.isPrefixOf s.name.toList

/-- An option by its name, with the value behind an equals sign or else the next argument. -/
def longOption (g : Grammar) (t : Text) (others : List Text) :
    Except Text ((String × Text) × List Text) :=
  let name := t.takeWhile (· != '=')
  let value : Option Text :=
    if name.length < t.length then some (t.drop (name.length + 1)) else none
  let spelled := "'--".toList ++ name ++ "'".toList
  let isSame (a b : Switch) : Bool := a.key == b.key
  match g.matching name with
  | [] => .error ("unrecognized option '--".toList ++ t ++ "'".toList)
  | s :: rest =>
    if rest.any fun r => !isSame s r then
      .error ("option '--".toList ++ t ++ "' is ambiguous; possibilities:".toList ++
        (s :: rest).flatMap fun r => " '--".toList ++ r.name.toList ++ "'".toList)
    else
      match s.takes, value, others with
      | .nothing, some _, _ =>
        .error ("option '--".toList ++ s.name.toList ++ "' doesn't allow an argument".toList)
      | .nothing, none, _ | .maybe, none, _ => .ok ((s.key, []), others)
      | _, some v, _ => .ok ((s.key, v), others)
      | .value, none, v :: others => .ok ((s.key, v), others)
      | .value, none, [] =>
        let full := if rest.isEmpty then "'--".toList ++ s.name.toList ++ "'".toList else spelled
        .error ("option ".toList ++ full ++ " requires an argument".toList)

/-- The options of the letters behind a hyphen. -/
def letters (g : Grammar) : Text → List Text → Except Text (List (String × Text) × List Text)
  | [], others => .ok ([], others)
  | c :: rest, others =>
    match g.switches.find? fun s => s.letter == some c with
    | none => .error ("invalid option -- '".toList ++ c :: "'".toList)
    | some s =>
      match s.takes, rest, others with
      | .nothing, rest, others => do
        let (l, others) ← letters g rest others
        pure ((s.key, []) :: l, others)
      | .maybe, rest, others => .ok ([(s.key, rest)], others)
      | .value, [], [] => .error ("option requires an argument -- '".toList ++ c :: "'".toList)
      | .value, [], v :: others => .ok ([(s.key, v)], others)
      | .value, rest, others => .ok ([(s.key, rest)], others)

/-- Adds an operand in front of what is given behind it, unless it ends the options. -/
def withOperand (g : Grammar) (t : Text) (rest : List Text) (given : Except Text Given) :
    Except Text Given :=
  if g.endsEarly then .ok ⟨[], t :: rest⟩
  else given.map fun given => { given with operands := t :: given.operands }

/-- Reads so many arguments at most. -/
def readMany (g : Grammar) : Nat → List Text → Except Text Given
  | 0, arguments => .ok ⟨[], arguments⟩
  | fuel + 1, arguments =>
    match arguments with
    | [] => .ok ⟨[], []⟩
    | ['-', '-'] :: rest => .ok ⟨[], rest⟩
    | ('-' :: '-' :: t) :: rest => do
      let (o, rest) ← g.longOption t rest
      let given ← readMany g fuel rest
      pure { given with options := o :: given.options }
    | t :: rest =>
      match t with
      | '-' :: c :: letters =>
        if g.keeps t then g.withOperand t rest (readMany g fuel rest)
        else do
          let (l, rest) ← g.letters (c :: letters) rest
          let given ← readMany g fuel rest
          pure { given with options := l ++ given.options }
      | _ => g.withOperand t rest (readMany g fuel rest)

/-- Reads arguments, or says what is wrong with them. -/
def read (g : Grammar) (arguments : List Text) : Except Text Given :=
  g.readMany (arguments.length + 1) arguments

/-- The grammar of options that can stand anywhere. -/
def usual (switches : List Switch) : Grammar := ⟨switches, false, fun _ => false⟩

/-- The grammar of options that stand before all operands. -/
def strict (switches : List Switch) : Grammar := ⟨switches, true, fun _ => false⟩

end Grammar

/-! ### Sizes: numbers with a letter behind them that multiplies them -/

/-- How often the unit is multiplied by itself that a letter stands for. -/
def unitPower? (letter : Char) : Option Nat :=
  match letter with
  | 'k' | 'K' => some 1
  | 'm' | 'M' => some 2
  | 'g' | 'G' => some 3
  | 't' | 'T' => some 4
  | 'P' => some 5
  | 'E' => some 6
  | 'Z' => some 7
  | 'Y' => some 8
  | 'R' => some 9
  | 'Q' => some 10
  | _ => none

/-- A number multiplied by another one so many times. -/
def scaled (unit : Nat) : Nat → Nat → Nat
  | 0, n => n
  | times + 1, n => scaled unit times (unit * n)

/-- What the letters behind a number make of it. -/
def multiplied? (n : Nat) (t : Text) : Option Nat :=
  match t with
  | [] => some n
  | ['b'] => some (512 * n)
  | ['w'] => none
  | [c] => (unitPower? c).map fun p => scaled 1024 p n
  | [c, 'B'] => (unitPower? c).map fun p => scaled 1000 p n
  | [c, 'i', 'B'] => (unitPower? c).map fun p => scaled 1024 p n
  | _ => none

/-- The size that a text stands for. A letter alone stands for one of its units. -/
def size? (t : Text) : Option Nat :=
  let t := t.dropWhile fun c => c == ' ' || ('\t' ≤ c && c ≤ '\r')
  let t := match t with
    | '+' :: rest => rest
    | t => t
  let digits := t.takeWhile Char.isDigit
  let rest := t.drop digits.length
  if digits.isEmpty then if rest.isEmpty then none else multiplied? 1 rest
  else multiplied? (Numeral.value 10 0 digits) rest

end Console.Host.Tool
