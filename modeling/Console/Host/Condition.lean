import Console.Host.Kernel
import Console.Host.Numeral

/-! Conditions: what `test` and brackets ask about texts, numbers and files. They are read from the
    left, where an operator that cannot be one by what stands behind it is a text. -/

namespace Console.Host.Condition

/-- Why a condition has no truth value. -/
inductive Fault where
  | illegalNumber (t : Text)
  | unexpectedOperator (t : Text)
  | argumentExpected (t : Text)
  | closingExpected
  deriving DecidableEq, Repr

/-- The wording of a fault. -/
def Fault.message : Fault → Text
  | .illegalNumber t => "Illegal number: ".toList ++ t
  | .unexpectedOperator t => t ++ ": unexpected operator".toList
  | .argumentExpected t => t ++ ": argument expected".toList
  | .closingExpected => "closing paren expected".toList

/-! ### Files -/

/-- Whether some node is there and passes a check of what it is and its mode. -/
def nodeIs (w : Kernel) (path : Text) (follows : Bool) (check : Nat → Node → Bool) : Bool :=
  match w.files.locate w.self.directory path follows with
  | .ok n => (w.files.node? n).any (check n)
  | .error _ => false

/-- The time at which what a path names was last changed. -/
def modified? (w : Kernel) (path : Text) : Option Int :=
  (w.files.find? w.self.directory path).bind fun n => (w.files.node? n).map Node.modified

/-- Whether a node can be run or entered. -/
def isRunnable (node : Node) : Bool :=
  match node.content with
  | .directory _ _ => true
  | _ => Nat.land node.mode 0o111 != 0

/-- Whether an opening is a terminal, which none is. -/
def isTerminal (_ : Kernel) (_ : Int) : Bool := false

/-- The condition of an operator on one text. -/
def fileCondition? (w : Kernel) (op : Text) : Option (Text → Bool) :=
  let whether (check : Nat → Node → Bool) : Option (Text → Bool) :=
    some fun t => nodeIs w t true check
  let hasBit (bit : Nat) : Option (Text → Bool) :=
    whether fun _ node => Nat.land node.mode bit != 0
  match String.ofList op with
  | "-e" | "-r" | "-w" | "-O" | "-G" => whether fun _ _ => true
  | "-x" => whether fun _ node => isRunnable node
  | "-f" => whether fun n _ => w.files.isFile n
  | "-d" => whether fun n _ => w.files.isDirectory n
  | "-s" => whether fun n node => match node.content with
      | .file bytes => bytes.size > 0
      | .program _ => true
      | _ => w.files.isDirectory n
  | "-p" => whether fun _ node => match node.content with
      | .pipe => true
      | _ => false
  | "-c" => whether fun _ node => match node.content with
      | .device _ => true
      | _ => false
  | "-S" | "-b" => whether fun _ _ => false
  | "-u" => hasBit 0o4000
  | "-g" => hasBit 0o2000
  | "-k" => hasBit 0o1000
  | "-h" | "-L" => some fun t => nodeIs w t false fun _ node => match node.content with
      | .link _ => true
      | _ => false
  | _ => none

/-! ### Operators -/

/-- The ways in which a word can be an operator. -/
inductive Kind where
  | unary
  | binary
  | negation
  | both
  | either
  | opening
  | closing
  deriving DecidableEq, Repr

/-- The operators. -/
def kind? (t : Text) : Option Kind :=
  let unary := ["-r", "-w", "-x", "-e", "-f", "-d", "-c", "-b", "-p", "-u", "-g", "-k", "-s", "-t",
    "-z", "-n", "-h", "-O", "-G", "-L", "-S"]
  let binary := ["=", "!=", "<", ">", "-eq", "-ne", "-ge", "-gt", "-le", "-lt", "-nt", "-ot", "-ef"]
  let s := String.ofList t
  if unary.contains s then some .unary
  else if binary.contains s then some .binary
  else
    match s with
    | "!" => some .negation
    | "-a" => some .both
    | "-o" => some .either
    | "(" => some .opening
    | ")" => some .closing
    | _ => none

/-- What a condition is read as from here on: its end, an operator or an operand. -/
inductive Reading where
  | ended
  | operator (kind : Kind)
  | operand
  deriving DecidableEq, Repr

/-- Whether the word behind an operator shows that this is an operand. -/
def isOperand (behind : List Text) : Bool :=
  match behind with
  | [] => true
  | [_] => false
  | t :: _ => kind? t == some .binary

/-- How the first of some words is read. -/
def reading (l : List Text) : Reading :=
  match l with
  | [] => .ended
  | t :: behind =>
    match kind? t with
    | none => .operand
    | some k =>
      if k = .unary && isOperand behind then .operand
      else if k = .opening && behind.isEmpty then .operand
      else .operator k

/-- A number of a comparison. -/
def number (t : Text) : Except Fault Int :=
  match Numeral.whole? 10 t with
  | some n => .ok n
  | none => .error (.illegalNumber t)

/-- The truth of an operator between two texts. -/
def compare (w : Kernel) (op a b : Text) : Except Fault Bool :=
  let numbers (f : Int → Int → Bool) : Except Fault Bool := do pure (f (← number a) (← number b))
  let times (f : Int → Int → Bool) : Except Fault Bool :=
    match modified? w a, modified? w b with
    | some m, some n => .ok (f m n)
    | _, _ => .ok false
  match String.ofList op with
  | "=" => .ok (a == b)
  | "!=" => .ok (a != b)
  | "<" => .ok (a != b && Text.precedes a b)
  | ">" => .ok (a != b && Text.precedes b a)
  | "-eq" => numbers fun m n => m == n
  | "-ne" => numbers fun m n => m != n
  | "-lt" => numbers fun m n => m < n
  | "-le" => numbers fun m n => m ≤ n
  | "-gt" => numbers fun m n => m > n
  | "-ge" => numbers fun m n => m ≥ n
  | "-nt" => times fun m n => m > n
  | "-ot" => times fun m n => m < n
  | _ =>
    let find (t : Text) : Option Nat := w.files.find? w.self.directory t
    .ok ((find a).isSome && find a == find b)

/-- The truth of an operator on one text. -/
def ask (w : Kernel) (op t : Text) : Except Fault Bool :=
  match String.ofList op with
  | "-z" => .ok t.isEmpty
  | "-n" => .ok (!t.isEmpty)
  | "-t" => (number t).map (isTerminal w)
  | _ => .ok (((fileCondition? w op).map fun f => f t).getD false)

/-! ### Reading -/

/-- Reads the words of a condition. The first of those that are left is the last that was used. -/
abbrev Reader (α : Type) := StateT (List Text) (Except Fault) α

/-- Goes on to a later word, and answers how it is read. -/
def advance (count : Nat) : Reader Reading := do
  let l := (← get).drop count
  set l
  pure (reading l)

/-- How the next word is read. -/
def ahead : Reader Reading := do pure (reading ((← get).drop 1))

mutual

/-- Reads conditions joined by `-o`. -/
def disjunction (w : Kernel) : Nat → Reading → Bool → Reader Bool
  | 0, _, before => pure before
  | fuel + 1, r, before => do
    let b ← conjunction w fuel r true
    let b := before || b
    if (← ahead) = .operator .either then disjunction w fuel (← advance 2) b else pure b

/-- Reads conditions joined by `-a`. -/
def conjunction (w : Kernel) : Nat → Reading → Bool → Reader Bool
  | 0, _, before => pure before
  | fuel + 1, r, before => do
    let b ← negation w fuel r
    let b := b && before
    if (← ahead) = .operator .both then conjunction w fuel (← advance 2) b else pure b

/-- Reads a condition that may be negated. -/
def negation (w : Kernel) : Nat → Reading → Reader Bool
  | 0, _ => pure false
  | fuel + 1, r => do
    if r = .operator .negation then
      let next ← ahead
      if next ≠ .ended then
        let _ ← advance 1
      pure (!(← negation w fuel next))
    else primary w fuel r

/-- Reads one condition. -/
def primary (w : Kernel) : Nat → Reading → Reader Bool
  | 0, _ => pure false
  | fuel + 1, r => do
    let first := ((← get).head?).getD []
    match r with
    | .ended => pure false
    | .operator .opening =>
      let inner ← advance 1
      if inner = .operator .closing then pure false
      else
        let b ← disjunction w fuel inner false
        if (← advance 1) = .operator .closing then pure b else throw .closingExpected
    | .operator .unary =>
      let _ ← advance 1
      match ← get with
      | [] => throw (.argumentExpected first)
      | t :: _ => ask w first t
    | _ =>
      if (← ahead) = .operator .binary then
        match (← get).drop 1 with
        | [] => pure (!first.isEmpty)
        | op :: rest =>
          set rest
          match rest with
          | [] => throw (.argumentExpected op)
          | t :: _ => compare w op first t
      else pure (!first.isEmpty)

end

/-- The truth of a condition that is read from its first word in a given way. -/
def evaluate (w : Kernel) (r : Reading) (l : List Text) : Except Fault Bool := do
  let (b, rest) ← (disjunction w (8 * l.length + 8) r false).run l
  match rest with
  | t :: _ :: _ => throw (.unexpectedOperator t)
  | _ => pure b

/-- The truth of a condition. What one to four words mean depends on their number. -/
def holds (w : Kernel) : Nat → List Text → Except Fault Bool
  | 0, _ => .ok false
  | fuel + 1, l =>
    match l with
    | [] => .ok false
    | first :: rest =>
      let isShort := l.length = 3 || l.length = 4
      if l.length = 3 && (rest.head?.bind kind?) = some .binary then evaluate w .operand l
      else if isShort && first = ['('] && l.getLast? = some [')'] then
        evaluate w (reading rest.dropLast) rest.dropLast
      else if isShort && first = ['!'] then (holds w fuel rest).map not
      else evaluate w (reading l) l

end Console.Host.Condition
