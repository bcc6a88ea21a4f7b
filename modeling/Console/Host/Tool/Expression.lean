import Console.Host.Regex.Matcher
import Console.Host.Numeral
import Console.Host.Tool.Work

/-! Expressions of integers and texts whose parts are arguments. All operators are left associative,
    and a text that is an integer counts as one. -/

namespace Console.Host.Tool

open Work

namespace Expression

/-- Why an expression has no value. -/
inductive Fault where
  | missing (behind : Text)
  | unexpected (t : Text)
  | unexpectedClosing
  | noClosing (behind : Text)
  | otherThanClosing (t : Text)
  | noInteger
  | divisionByZero
  | pattern (e : Regex.Fault)
  deriving DecidableEq, Repr

/-- The wording of a fault. -/
def Fault.message : Fault → Text
  | .missing t => "syntax error: missing argument after ".toList ++ quoted t
  | .unexpected t => "syntax error: unexpected argument ".toList ++ quoted t
  | .unexpectedClosing => "syntax error: unexpected ')'".toList
  | .noClosing t => "syntax error: expecting ')' after ".toList ++ quoted t
  | .otherThanClosing t => "syntax error: expecting ')' instead of ".toList ++ quoted t
  | .noInteger => "non-integer argument".toList
  | .divisionByZero => "division by zero".toList
  | .pattern e => e.message.toList

/-- An expression while it is read: what is left of the arguments, and the one read last. -/
structure Reading where
  rest : List Text
  last : Text

/-- Reads from the left. -/
abbrev Reader (α : Type) := StateT Reading (Except Fault) α

/-- The integer that a text is. -/
def integer? (t : Text) : Option Int :=
  match t with
  | '-' :: digits => (Text.toNat? digits).map fun n => -(n : Int)
  | digits => (Text.toNat? digits).map Int.ofNat

/-- Whether a text counts as false: it is empty or a zero. -/
def isNull (t : Text) : Bool :=
  t.isEmpty ||
    let digits := match t with
      | '-' :: rest => rest
      | t => t
    !digits.isEmpty && digits.all (· == '0')

/-- Takes the next argument if it is one of some words. -/
def accept (words : List String) : Reader (Option String) := do
  let st ← get
  match st.rest with
  | t :: rest =>
    match words.find? fun w => w.toList == t with
    | some w =>
      set ({ rest := rest, last := t } : Reading)
      pure (some w)
    | none => pure none
  | [] => pure none

/-- Takes the next argument. -/
def next : Reader Text := do
  let st ← get
  match st.rest with
  | t :: rest =>
    set ({ rest := rest, last := t } : Reading)
    pure t
  | [] => throw (.missing st.last)

/-- What a pattern at the start of a text matches: its first group, or the number of characters. -/
def matched (t pattern : Text) : Except Fault Text :=
  match Regex.compile .basic true pattern with
  | .error e => .error (.pattern e)
  | .ok m =>
    match m.findHere? none t with
    | some f =>
      if m.groups > 0 then
        .ok (match f.group? 1 with
          | some (a, b) => Regex.slice t a b
          | none => [])
      else .ok (Text.ofNat f.stop)
    | none => .ok (if m.groups > 0 then [] else ['0'])

/-- The truth of a condition as a number. -/
def truth (b : Bool) : Text := if b then ['1'] else ['0']

/-- The order of two values: as integers if both are, otherwise as texts. -/
def compared (op : String) (s t : Text) : Text :=
  let o : Ordering := match integer? s, integer? t with
    | some a, some b => compare a b
    | _, _ => if s = t then .eq else if Text.precedes s t then .lt else .gt
  truth (match op with
    | "<" => o == .lt
    | "<=" => o != .gt
    | "=" | "==" => o == .eq
    | "!=" => o != .eq
    | ">=" => o != .lt
    | _ => o == .gt)

/-- The value of an operator of arithmetic. -/
def calculated (op : String) (s t : Text) : Except Fault Text :=
  match integer? s, integer? t with
  | some a, some b =>
    match op with
    | "+" => .ok (Text.ofInt (a + b))
    | "-" => .ok (Text.ofInt (a - b))
    | "*" => .ok (Text.ofInt (a * b))
    | op =>
      if b = 0 then .error .divisionByZero
      else .ok (Text.ofInt (if op = "/" then Int.tdiv a b else Int.tmod a b))
  | _, _ => .error .noInteger

/-- The part of a text from a position on, with a length. -/
def part (t position length : Text) : Text :=
  match integer? position, integer? length with
  | some p, some n => if p < 1 || n < 1 then [] else (t.drop (p.toNat - 1)).take n.toNat
  | _, _ => []

/-- The position of the first character that is one of some; zero if there is none. -/
def position (t chars : Text) : Text :=
  match t.findIdx? fun c => chars.elem c with
  | some n => Text.ofNat (n + 1)
  | none => ['0']

mutual

/-- Reads an expression. Where its value does not count, nothing is calculated. -/
def either : Nat → Bool → Reader Text
  | 0, _ => pure []
  | fuel + 1, counts => do
    let first ← both fuel counts
    eitherMore fuel counts first

/-- Reads alternatives behind a value. -/
def eitherMore : Nat → Bool → Text → Reader Text
  | 0, _, t => pure t
  | fuel + 1, counts, t => do
    match ← accept ["|"] with
    | none => pure t
    | some _ =>
      let other ← both fuel (counts && isNull t)
      eitherMore fuel counts
        (if !isNull t then t else if isNull other then ['0'] else other)

/-- Reads values of which both have to count as true. -/
def both : Nat → Bool → Reader Text
  | 0, _ => pure []
  | fuel + 1, counts => do
    let first ← comparison fuel counts
    bothMore fuel counts first

/-- Reads more of such values. -/
def bothMore : Nat → Bool → Text → Reader Text
  | 0, _, t => pure t
  | fuel + 1, counts, t => do
    match ← accept ["&"] with
    | none => pure t
    | some _ =>
      let other ← comparison fuel (counts && !isNull t)
      bothMore fuel counts (if isNull t || isNull other then ['0'] else t)

/-- Reads comparisons. -/
def comparison : Nat → Bool → Reader Text
  | 0, _ => pure []
  | fuel + 1, counts => do
    let first ← chain fuel counts 1
    comparisonMore fuel counts first

/-- Reads more comparisons. -/
def comparisonMore : Nat → Bool → Text → Reader Text
  | 0, _, t => pure t
  | fuel + 1, counts, t => do
    match ← accept ["<", "<=", "=", "==", "!=", ">=", ">"] with
    | none => pure t
    | some op =>
      let other ← chain fuel counts 1
      comparisonMore fuel counts (compared op t other)

/-- Reads sums, products or matches: the tighter, the higher the level is. -/
def chain : Nat → Bool → Nat → Reader Text
  | 0, _, _ => pure []
  | fuel + 1, counts, level => do
    let first ← if level ≥ 4 then operand fuel counts else chain fuel counts (level + 1)
    chainMore fuel counts level first

/-- Reads more of them. -/
def chainMore : Nat → Bool → Nat → Text → Reader Text
  | 0, _, _, t => pure t
  | fuel + 1, counts, level, t => do
    let ops := match level with
      | 1 => ["+", "-"]
      | 2 => ["*", "/", "%"]
      | 3 => [":"]
      | _ => []
    match ← accept ops with
    | none => pure t
    | some op =>
      let other ← chain fuel counts (level + 1)
      if !counts then chainMore fuel counts level t
      else
        let value : Except Fault Text :=
          if op = ":" then matched t other else calculated op t other
        let value ← value
        chainMore fuel counts level value

/-- Reads an operand: an argument, an expression in brackets, or a function of texts. -/
def operand : Nat → Bool → Reader Text
  | 0, _ => pure []
  | fuel + 1, counts => do
    match ← accept ["+", "match", "substr", "index", "length", "(", ")"] with
    | none => next
    | some "+" => next
    | some "match" =>
      let t ← operand fuel counts
      let p ← operand fuel counts
      if counts then (matched t p : Except Fault Text) else pure t
    | some "substr" =>
      let t ← operand fuel counts
      let p ← operand fuel counts
      let n ← operand fuel counts
      pure (part t p n)
    | some "index" =>
      let t ← operand fuel counts
      let chars ← operand fuel counts
      pure (position t chars)
    | some "length" =>
      let t ← operand fuel counts
      pure (Text.ofNat t.length)
    | some "(" =>
      let t ← either fuel counts
      match ← accept [")"] with
      | some _ => pure t
      | none =>
        let st ← get
        match st.rest with
        | [] => throw (.noClosing st.last)
        | other :: _ => throw (.otherThanClosing other)
    | some _ => throw .unexpectedClosing

end

/-- The value of an expression. -/
def value (arguments : List Text) : Except Fault Text := do
  let (t, st) ← (either (16 * arguments.length + 32) true).run ⟨arguments, []⟩
  match st.rest with
  | [] => pure t
  | extra :: _ => throw (.unexpected extra)

end Expression

/-- Writes the value of an expression. -/
def expr : Program :=
  tool (mannerOf 2) fun arguments => do
    let arguments := match arguments with
      | ['-', '-'] :: rest => rest
      | l => l
    if arguments.isEmpty then misuse "missing operand".toList
    match Expression.value arguments with
    | .error e => giveUp e.message
    | .ok t =>
      sayLine t
      atLeast (if Expression.isNull t then 1 else 0)

end Console.Host.Tool
