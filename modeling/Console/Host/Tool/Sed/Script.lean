import Console.Host.Regex.Matcher
import Console.Host.Numeral

/-! Scripts of the stream editor: commands with the lines for which they are meant. A script is a
    list of commands, in which blocks know their ends and labels are places. -/

namespace Console.Host.Tool.Sed

/-- Lines for which a command is meant. -/
inductive Address where
  | line (n : Nat)
  /-- Every so many lines from some line on. -/
  | step (first step : Nat)
  | last
  /-- Lines that match, by an expression or by the one that was used last. -/
  | matched (m : Option Regex.Matcher)

/-- The end of a range of lines. -/
inductive Limit where
  | line (n : Nat)
  | address (a : Address)
  /-- So many lines behind the first one. -/
  | count (n : Nat)
  /-- The next line whose number is a multiple of another one. -/
  | multiple (n : Nat)

/-- For which lines a command is meant. -/
structure Selection where
  first : Option Address
  limit : Option Limit
  isNegated : Bool

/-- What letters become in a replacement. -/
inductive Casing where
  | same
  | upper
  | lower
  deriving DecidableEq, Repr

/-- A part of a replacement: some text and what a group has matched. The first letter of a part can
    have a casing of its own. -/
structure Part where
  text : Text
  group : Option Nat
  casing : Casing
  first : Option Casing

/-- A replacement of what is matched. -/
structure Substitution where
  /-- What is matched, by an expression or by the one that was used last. -/
  expression : Option Regex.Matcher
  parts : List Part
  isGlobal : Bool
  /-- The number of the first match that is replaced. -/
  number : Nat
  /-- Whether the result is run as a command, and is written before that and after it. -/
  runs : Bool
  printsBefore : Bool
  printsAfter : Bool
  /-- A further output to which the result goes. -/
  output : Option Nat

/-- What a command does. -/
inductive Order where
  /-- Goes behind the end of a block unless it is meant for the line. -/
  | block (stop : Nat)
  | append (t : Text)
  | insert (t : Text)
  | change (t : Text)
  | number
  | delete
  | deleteFirst
  /-- Runs a command, or else the line itself. -/
  | run (command : Option Text)
  | fileName
  | getHold
  | addHold
  | hold
  | addToHold
  | list (width : Option Nat)
  | next
  | addNext
  | print
  | printFirst
  | quit (status : Nat) (prints : Bool)
  | readFile (file : Text)
  | readLine (file : Text)
  | substitute (s : Substitution)
  | branch (label : Text)
  | branchIf (label : Text)
  | branchUnless (label : Text)
  | write (output : Nat)
  | writeFirst (output : Nat)
  | exchange
  | translate (pairs : List (Char × Char))
  | clear

/-- A command. -/
structure Command where
  selection : Selection
  order : Order

/-- A script: its commands, the places of its labels, the files that it writes and whether lines are
    only written when that is asked for. -/
structure Script where
  commands : Array Command
  labels : List (Text × Nat)
  outputs : List Text
  isQuiet : Bool

/-! ### Escapes -/

/-- The octet of a number in some base in front of a text, of so many digits at most. -/
def numbered? (base most : Nat) (t : Text) : Option (Char × Text) :=
  let digits := (t.take most).takeWhile (Numeral.isDigit base)
  if digits.isEmpty then none
  else some (Char.ofNat (Numeral.value base 0 digits % 256), t.drop digits.length)

/-- The octet that an escape stands for behind its backslash, with what follows. -/
def escape? (t : Text) : Option (Char × Text) :=
  match t with
  | 'a' :: rest => some ('\x07', rest)
  | 'f' :: rest => some ('\x0c', rest)
  | 'n' :: rest => some ('\n', rest)
  | 'r' :: rest => some ('\r', rest)
  | 't' :: rest => some ('\t', rest)
  | 'v' :: rest => some ('\x0b', rest)
  | 'c' :: c :: rest =>
    let rest := if c = '\\' && rest.head? = some '\\' then rest.drop 1 else rest
    some (Char.ofNat (Nat.xor c.toUpper.toNat 64), rest)
  | 'd' :: rest => numbered? 10 3 rest
  | 'o' :: rest => numbered? 8 3 rest
  | 'x' :: rest => numbered? 16 2 rest
  | _ => none

/-- Text that is to be written: escapes are replaced, and other backslashes fall away. -/
def writtenText : Nat → Text → Text
  | 0, t => t
  | _ + 1, [] => []
  | fuel + 1, '\\' :: rest =>
    match escape? rest with
    | some (c, rest) => c :: writtenText fuel rest
    | none =>
      match rest with
      | c :: rest => c :: writtenText fuel rest
      | [] => []
  | fuel + 1, c :: rest => c :: writtenText fuel rest

/-- An expression in which escapes that stand for octets are replaced. -/
def expressionText : Nat → Text → Text
  | 0, t => t
  | _ + 1, [] => []
  | fuel + 1, '\\' :: rest =>
    match escape? rest with
    | some (c, rest) => c :: expressionText fuel rest
    | none =>
      match rest with
      | c :: rest => '\\' :: c :: expressionText fuel rest
      | [] => ['\\']
  | fuel + 1, c :: rest => c :: expressionText fuel rest

/-- The casings in a replacement: for one part, and for those behind it. -/
structure Casings where
  casing : Casing
  first : Option Casing

/-- The parts of a replacement. The text before the next part is given from its end. -/
def partsOf : Nat → Casings → Text → Text → List Part
  | 0, _, _, _ => []
  | _ + 1, k, done, [] =>
    if done.isEmpty then [] else [⟨done.reverse, none, k.casing, k.first⟩]
  | fuel + 1, k, done, '&' :: rest =>
    ⟨done.reverse, some 0, k.casing, k.first⟩ :: partsOf fuel ⟨k.casing, none⟩ [] rest
  | fuel + 1, k, done, '\\' :: rest =>
    let part (group : Option Nat) : Part := ⟨done.reverse, group, k.casing, k.first⟩
    match rest with
    | [] => partsOf fuel k ('\\' :: done) []
    | c :: more =>
      if c.isDigit then
        part (some (c.toNat - '0'.toNat)) :: partsOf fuel ⟨k.casing, none⟩ [] more
      else if c = 'L' then part none :: partsOf fuel ⟨.lower, none⟩ [] more
      else if c = 'U' then part none :: partsOf fuel ⟨.upper, none⟩ [] more
      else if c = 'E' then part none :: partsOf fuel ⟨.same, none⟩ [] more
      else if c = 'l' then part none :: partsOf fuel ⟨k.casing, some .lower⟩ [] more
      else if c = 'u' then part none :: partsOf fuel ⟨k.casing, some .upper⟩ [] more
      else
        match escape? rest with
        | some (c, rest) => partsOf fuel k (c :: done) rest
        | none => partsOf fuel k (c :: done) more
  | fuel + 1, k, done, c :: rest => partsOf fuel k (c :: done) rest

/-- The parts of the text of a replacement. -/
def replacement (t : Text) : List Part := partsOf (t.length + 1) ⟨.same, none⟩ [] t

end Console.Host.Tool.Sed
