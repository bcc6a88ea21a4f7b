import Console.Host.Condition
import Console.Host.Tool.Work

/-! Conditions as a tool asks them. What some words mean depends on their number first: only more
    than four are read from the left as a whole. -/

namespace Console.Host.Tool

open Work

/-- Reads words of a condition, or says what is wrong. The words are those that are left, behind
    the one that was used last. -/
abbrev Asker (α : Type) := StateT (Text × List Text) (Except Text) α

namespace Asker

/-- The words that are left. -/
def words : Asker (List Text) := do pure (← get).2

/-- What is said when a word is missing. -/
def missing {α : Type} : Asker α := do
  throw ("missing argument after ".toList ++ quoted (← get).1)

/-- Takes a word. -/
def word : Asker Text := do
  match ← get with
  | (_, t :: rest) =>
    set (t, rest)
    pure t
  | _ => missing

/-- Goes behind a word, where another one must stand. -/
def advance : Asker Unit := do
  let _ ← word
  if (← words).isEmpty then missing

end Asker

/-- Whether a word stands between two operands. -/
def isBetween (t : Text) : Bool :=
  ["=", "==", "!=", "-eq", "-ne", "-lt", "-le", "-gt", "-ge", "-nt", "-ot", "-ef"].contains
    (String.ofList t)

/-- Whether a word looks like a question about the next one. -/
def isQuestion (t : Text) : Bool := t.length == 2 && t.head? == some '-'

/-- A number of a comparison. -/
def comparable (t : Text) : Except Text Int :=
  let inner := t.dropWhile Numeral.isSpace
  let inner := (inner.reverse.dropWhile Numeral.isSpace).reverse
  let (negative, digits) := Numeral.sign inner
  if digits.isEmpty || !digits.all Char.isDigit then .error ("invalid integer ".toList ++ quoted t)
  else
    let n : Int := Numeral.value 10 0 digits
    .ok (if negative then -n else n)

/-- The truth of a question about a word. -/
def answer (w : Kernel) (op t : Text) : Except Text Bool :=
  match String.ofList op with
  | "-t" => (comparable t).map fun _ => false
  | "-N" => .ok false
  | "-z" => .ok t.isEmpty
  | "-n" => .ok (!t.isEmpty)
  | _ =>
    match Condition.fileCondition? w op with
    | some f => .ok (f t)
    | none => .error (quoted op ++ ": unary operator expected".toList)

/-- The truth of a comparison. -/
def compareWords (w : Kernel) (op a b : Text) : Except Text Bool :=
  let numbers (f : Int → Int → Bool) : Except Text Bool := do
    pure (f (← comparable a) (← comparable b))
  match String.ofList op with
  | "=" | "==" => .ok (a == b)
  | "!=" => .ok (a != b)
  | "-eq" => numbers fun m n => m == n
  | "-ne" => numbers fun m n => m != n
  | "-lt" => numbers fun m n => m < n
  | "-le" => numbers fun m n => m ≤ n
  | "-gt" => numbers fun m n => m > n
  | "-ge" => numbers fun m n => m ≥ n
  | _ =>
    let time (t : Text) : Option Int := Condition.modified? w t
    match String.ofList op, time a, time b with
    | "-nt", some m, some n => .ok (m > n)
    | "-nt", some _, none => .ok true
    | "-ot", some m, some n => .ok (m < n)
    | "-ot", none, some _ => .ok true
    | "-ef", _, _ => (Condition.compare w op a b).mapError Condition.Fault.message
    | _, _, _ => .ok false

namespace Asker

/-- Asks a question about the next word. -/
def question (w : Kernel) : Asker Bool := do
  let op ← word
  let t ← word
  answer w op t

/-- Compares two words. A length can stand for each of them. -/
def comparison (w : Kernel) : Asker Bool := do
  let operand : Asker Text := do
    let t ← word
    if t = "-l".toList && !((← words).head?.map isBetween).getD true then
      pure (Text.ofNat (← word).length)
    else pure t
  let a ← operand
  let op ← word
  let b ← operand
  compareWords w op a b

mutual

/-- Asks so many words. -/
def some_ (w : Kernel) : Nat → Nat → Asker Bool
  | 0, _ => pure false
  | fuel + 1, count => do
    let l ← words
    match count, l with
    | 1, _ => do pure !(← word).isEmpty
    | 2, t :: _ =>
      if t = ['!'] then
        advance
        pure (← word).isEmpty
      else if isQuestion t then question w
      else do
        throw ("missing argument after ".toList ++ quoted (l.getLast?.getD []))
    | 3, t :: op :: u :: _ =>
      if isBetween op then comparison w
      else if t = ['!'] then
        advance
        pure !(← some_ w fuel 2)
      else if t = ['('] && u = [')'] then
        let _ ← word
        let b := !(← word).isEmpty
        let _ ← word
        pure b
      else if op = "-a".toList || op = "-o".toList then disjunction w fuel false
      else throw (quoted op ++ ": binary operator expected".toList)
    | 4, t :: _ =>
      if t = ['!'] then
        advance
        pure !(← some_ w fuel 3)
      else if t = ['('] && (l.drop 3).head? = some [')'] then
        let _ ← word
        let b ← some_ w fuel 2
        let _ ← word
        pure b
      else disjunction w fuel false
    | _, _ => disjunction w fuel false

/-- Asks conditions of which one must hold. -/
def disjunction (w : Kernel) : Nat → Bool → Asker Bool
  | 0, b => pure b
  | fuel + 1, before => do
    let b ← conjunction w fuel true
    if (← words).head? = some "-o".toList then
      let _ ← word
      disjunction w fuel (before || b)
    else pure (before || b)

/-- Asks conditions that must all hold. -/
def conjunction (w : Kernel) : Nat → Bool → Asker Bool
  | 0, b => pure b
  | fuel + 1, before => do
    let b ← term w fuel
    if (← words).head? = some "-a".toList then
      let _ ← word
      conjunction w fuel (before && b)
    else pure (before && b)

/-- Asks one condition. -/
def term (w : Kernel) : Nat → Asker Bool
  | 0 => pure false
  | fuel + 1 => do
    match ← words with
    | [] => missing
    | t :: behind =>
      if t = ['!'] then
        advance
        pure !(← term w fuel)
      else if t = ['('] then
        advance
        let inner := behind.takeWhile (· != [')'])
        let count :=
          if inner.length < 4 && inner.length < behind.length then max 1 inner.length
          else if inner.length ≥ 4 then behind.length
          else inner.length
        let b ← some_ w fuel count
        match ← words with
        | [] => throw (quoted [')'] ++ " expected".toList)
        | u :: _ =>
          if u = [')'] then
            let _ ← word
            pure b
          else throw (quoted [')'] ++ " expected, found ".toList ++ quoted u)
      else
        let isLength := t = "-l".toList && behind.length ≥ 3 &&
          ((behind.drop 1).head?.map isBetween).getD false
        let isDyadic := behind.length ≥ 2 && (behind.head?.map isBetween).getD false
        if isLength || isDyadic then comparison w
        else if isQuestion t then question w
        else do pure !(← word).isEmpty

end

end Asker

/-- Asks a condition. -/
def ask (arguments : List Text) : Work Unit := do
  let w ← step (Prog.see id)
  let asked : Asker Bool := do
    if arguments.isEmpty then pure false
    else
      let b ← Asker.some_ w (8 * arguments.length + 8) arguments.length
      match ← Asker.words with
      | [] => pure b
      | t :: _ => throw ("extra argument ".toList ++ quoted t)
  match asked.run ([], arguments) with
  | .ok (b, _) => if !b then atLeast 1
  | .error e => giveUp e

/-- Asks whether a condition holds. -/
def test : Program := tool (mannerOf 2) ask

/-- Asks whether a condition in brackets holds. -/
def bracket : Program :=
  tool (mannerOf 2) fun arguments =>
    if arguments.getLast? = some [']'] then ask arguments.dropLast
    else giveUp "missing ']'".toList

end Console.Host.Tool
