import Console.Host.Regex.Matcher
import Console.Host.Pattern
import Console.Host.Tool.Clock
import Console.Host.Tool.Directories

/-! What `find` asks of the places that it comes by: questions with an answer that depends on the
    files alone, actions, and how both are joined. -/

namespace Console.Host.Tool.Find

/-- A place in a tree of files: its path, the operand from which it was reached in so many steps,
    and what is there. -/
structure Place where
  path : Text
  start : Text
  depth : Nat
  number : Nat
  node : Node

/-- How a number compares with another one. -/
inductive Comparison where
  | less
  | equal
  | more
  deriving DecidableEq, Repr

/-- Whether a number is as a comparison with another one says. -/
def Comparison.holds (c : Comparison) (n : Nat) (other : Nat) : Bool :=
  match c with
  | .less => n < other
  | .equal => n == other
  | .more => n > other

/-- How bits are compared with those of a mode. -/
inductive Bits where
  | exactly
  | all
  | any
  deriving DecidableEq, Repr

/-- A question about a place. -/
inductive Question where
  | always (answer : Bool)
  /-- Whether the last name is as a pattern says. -/
  | name (pattern : Text) (ignoresCase : Bool)
  /-- Whether the path is as a pattern says. -/
  | path (pattern : Text) (ignoresCase : Bool)
  /-- Whether it is a link whose path is as a pattern says. -/
  | link (pattern : Text) (ignoresCase : Bool)
  /-- Whether the path is matched as a whole. -/
  | expression (m : Regex.Matcher)
  /-- Whether its kind has one of some letters. -/
  | kind (letters : List Char)
  /-- Whether what it leads to is of a kind. -/
  | leadsTo (letters : List Char)
  | empty
  /-- The number of units that it takes. -/
  | size (c : Comparison) (n unit : Nat)
  | mode (b : Bits) (bits : Nat)
  /-- Whether some bit of a mode is set, or it is a directory. -/
  | runnable
  | links (c : Comparison) (n : Nat)
  | number (c : Comparison) (n : Nat)
  | user (c : Comparison) (n : Nat)
  /-- Whether it is the node of a number. -/
  | same (n : Nat)
  /-- Whether it was changed later than at a time. -/
  | later (time : Int)
  /-- Its age in units, which are not begun but over or else begun. -/
  | age (c : Comparison) (n : Nat) (unit : Int) (isOver : Bool)

/-- The last name of a path, without slashes behind it. -/
def lastName (path : Text) : Text :=
  match (Files.splitLast path).2 with
  | [] => if path.isEmpty then [] else ['/']
  | name => name

/-- Whether a pattern stands for a text. -/
def fits (pattern : Text) (ignoresCase : Bool) (t : Text) : Bool :=
  if ignoresCase then
    Pattern.matchesAll (Pattern.ofEscaped (Text.lowerAscii pattern)) (Text.lowerAscii t)
  else Pattern.matchesAll (Pattern.ofEscaped pattern) t

/-- The letter of the kind of a node. -/
def kindLetter (node : Node) : Char :=
  match node.content with
  | .file _ | .program _ => 'f'
  | content => Mode.kindLetter content

/-- What a place leads to if it is a link, else the place itself. -/
def Place.behind (p : Place) (fs : Files) (base : Nat) : Option Node :=
  (fs.find? base p.path).bind fs.node?

/-- Whether a directory has no entries, or a file no bytes. -/
def isEmpty (node : Node) : Bool :=
  match node.content with
  | .directory _ entries => entries.isEmpty
  | .file bytes => bytes.size == 0
  | _ => false

/-- The answer to a question about a place. -/
def Question.holds (q : Question) (fs : Files) (base : Nat) (p : Place) : Bool :=
  match q with
  | .always answer => answer
  | .name pattern ignoresCase => fits pattern ignoresCase (lastName p.path)
  | .path pattern ignoresCase => fits pattern ignoresCase p.path
  | .link pattern ignoresCase =>
    match p.node.content with
    | .link t => fits pattern ignoresCase t
    | _ => false
  | .expression m =>
    (m.findHere? none p.path).any fun found => found.stop == p.path.length
  | .kind letters => letters.contains (kindLetter p.node)
  | .leadsTo letters =>
    letters.contains (match p.behind fs base with
      | some node => kindLetter node
      | none => 'l')
  | .empty => isEmpty p.node
  | .size c n unit => c.holds ((fs.sizeOf p.number + unit - 1) / unit) n
  | .mode b bits =>
    let own := Nat.land p.node.mode Mode.allBits
    match b with
    | .exactly => own == bits
    | .all => Nat.land own bits == bits
    | .any => bits == 0 || Nat.land own bits != 0
  | .runnable => p.node.isDirectory || Nat.land p.node.mode 0o111 != 0
  | .links c n => c.holds (fs.linkCount p.number) n
  | .number c n => c.holds (p.number + 2) n
  | .user c n => c.holds 0 n
  | .same n => p.number == n
  | .later time => p.node.modified > time
  | .age c n unit isOver =>
    let age := fs.now - p.node.modified
    let units := if isOver then Int.fdiv age unit else -Int.fdiv (-age) unit
    match c with
    | .less => if isOver then units < n else age < n * unit
    | .equal => units == n
    | .more => if isOver then units > n else age > n * unit

/-- What is done at a place. -/
inductive Action where
  /-- Writes the path and a character to a descriptor. -/
  | print (descriptor : Nat) (ending : Char)
  /-- Writes what a format says to a descriptor. -/
  | format (descriptor : Nat) (t : Text)
  /-- Writes a long line to a descriptor. -/
  | list (descriptor : Nat)
  | delete
  /-- Goes no deeper. -/
  | prune
  /-- Ends the search. -/
  | quit
  /-- Runs a command, perhaps in the directory of the place, or only after a question to which
      nobody gives an answer. -/
  | run (words : List Text) (isInside asks : Bool)
  /-- Runs a command for many places at once, which are gathered under a number. -/
  | gather (n : Nat) (words : List Text) (isInside : Bool)

/-- What is asked and done at each place. -/
inductive Expression where
  | ask (q : Question)
  | act (a : Action)
  | not (e : Expression)
  | both (e f : Expression)
  | either (e f : Expression)
  /-- Both, where only the second one counts. -/
  | behind (e f : Expression)

/-! ### Formats -/

/-- A path without its last name. A slash behind that is left out, too. -/
def directoryOf (path : Text) : Text :=
  let short := (path.reverse.dropWhile (· == '/')).reverse
  if short.elem '/' then ((short.reverse.dropWhile (· != '/')).drop 1).reverse
  else if short.length < path.length then short
  else ['.']

/-- The fields of a format for a place, by their letters. -/
def field? (fs : Files) (base : Nat) (p : Place) (letter : Char) : Option Text :=
  let moment := Clock.Moment.ofNanoseconds p.node.modified
  match letter with
  | 'p' => some p.path
  | 'f' =>
    let name := (p.path.reverse.takeWhile (· != '/')).reverse
    let slash : Text := if p.path.length > 1 then ['/'] else []
    some (if name.isEmpty then lastName p.path ++ slash else name)
  | 'h' => some (directoryOf p.path)
  | 'P' =>
    let rest := p.path.drop p.start.length
    some (if rest.head? = some '/' then rest.drop 1 else rest)
  | 'H' => some p.start
  | 's' => some (Text.ofNat (fs.sizeOf p.number))
  | 'm' => some (Mode.digits 1 p.node.mode)
  | 'M' => some (Mode.kindLetter p.node.content :: Mode.letters p.node.mode)
  | 'y' => some [kindLetter p.node]
  | 'Y' =>
    some [match p.behind fs base with
      | some node => kindLetter node
      | none => 'N']
  | 'd' => some (Text.ofNat p.depth)
  | 'l' =>
    some (match p.node.content with
      | .link t => t
      | _ => [])
  | 'n' => some (Text.ofNat (fs.linkCount p.number))
  | 'u' | 'g' => some "root".toList
  | 'U' | 'G' => some ['0']
  | 'i' => some (Text.ofNat (p.number + 2))
  | 'k' => some (Text.ofNat ((fs.sizeOf p.number + 4095) / 4096 * 4))
  | 'b' => some (Text.ofNat ((fs.sizeOf p.number + 4095) / 4096 * 8))
  | 'D' => some "50".toList
  | 'F' => some "ext4".toList
  | 'S' => some "1".toList
  | 'a' | 'c' | 't' =>
    some (Clock.formatted moment "%a %b %e %H:%M:%S.%N0 %Y".toList)
  | _ => none

/-- Fills a field up as the flags and the width in front of its letter say. -/
def filled (flags width : Text) (t : Text) : Text :=
  let n := Numeral.value 10 0 (width.takeWhile Char.isDigit)
  let t := match width.dropWhile Char.isDigit with
    | '.' :: digits => t.take (Numeral.value 10 0 digits)
    | _ => t
  if flags.elem '-' then t.rightpad n ' '
  else t.leftpad n (if flags.elem '0' && t.all Char.isDigit then '0' else ' ')

/-- What a format says about a place. -/
def formatted (fs : Files) (base : Nat) (p : Place) : Nat → Text → Text
  | 0, _ => []
  | _ + 1, [] => []
  | fuel + 1, '\\' :: c :: rest =>
    if c = 'c' then []
    else if '0' ≤ c && c ≤ '7' then
      let digits := ((c :: rest).take 3).takeWhile fun c => '0' ≤ c && c ≤ '7'
      Char.ofNat (Numeral.value 8 0 digits % 256) ::
        formatted fs base p fuel ((c :: rest).drop digits.length)
    else
      let here : Text := match c with
        | 'a' => ['\x07']
        | 'b' => ['\x08']
        | 'f' => ['\x0c']
        | 'n' => ['\n']
        | 'r' => ['\r']
        | 't' => ['\t']
        | 'v' => ['\x0b']
        | '\\' => ['\\']
        | c => ['\\', c]
      here ++ formatted fs base p fuel rest
  | fuel + 1, '%' :: rest =>
    let flags := rest.takeWhile fun c => "-+ #0".toList.elem c
    let width := (rest.drop flags.length).takeWhile fun c => c.isDigit || c == '.'
    match rest.drop (flags.length + width.length) with
    | '%' :: rest => '%' :: formatted fs base p fuel rest
    | letter :: rest =>
      let moment := Clock.Moment.ofNanoseconds p.node.modified
      match letter, rest with
      | 'T', c :: rest | 'A', c :: rest | 'C', c :: rest =>
        let t := if c = '@' then
            Clock.formatted moment "%s.%N0".toList
          else if c = 'S' then Clock.formatted moment "%S.%N0".toList
          else if c = '+' then Clock.formatted moment "%Y-%m-%d+%H:%M:%S.%N0".toList
          else Clock.formatted moment ['%', c]
        filled flags width t ++ formatted fs base p fuel rest
      | letter, rest =>
        (match field? fs base p letter with
          | some t => filled flags width t
          | none => '%' :: flags ++ width ++ [letter]) ++ formatted fs base p fuel rest
    | [] => '%' :: flags ++ width
  | fuel + 1, c :: rest => c :: formatted fs base p fuel rest

/-- A long line for a place. -/
def longLine (fs : Files) (p : Place) : Text :=
  let right (n : Nat) (t : Text) : Text := t.leftpad n ' '
  let left (n : Nat) (t : Text) : Text := t.rightpad n ' '
  let moment := Clock.Moment.ofNanoseconds p.node.modified
  let size := fs.sizeOf p.number
  right 9 (Text.ofNat (p.number + 2)) ++ ' ' :: right 6 (Text.ofNat ((size + 4095) / 4096 * 4)) ++
    ' ' :: Mode.kindLetter p.node.content :: Mode.letters p.node.mode ++
    ' ' :: right 3 (Text.ofNat (fs.linkCount p.number)) ++ ' ' :: left 8 "root".toList ++
    ' ' :: left 8 "root".toList ++ ' ' :: right 8 (Text.ofNat size) ++
    ' ' :: Clock.formatted moment "%b %e %H:%M".toList ++ ' ' :: p.path ++
    (match p.node.content with
      | .link t => " -> ".toList ++ t
      | _ => []) ++ ['\n']

end Console.Host.Tool.Find
