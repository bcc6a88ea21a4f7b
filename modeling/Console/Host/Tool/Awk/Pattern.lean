import Console.Host.Regex.Matcher
import Console.Host.Numeral

/-! Patterns of scripts over records. They are regular expressions with escapes for octets, in which
    anchors hold only at the ends of a text and a closing parenthesis without an opening one stands
    for itself. -/

namespace Console.Host.Tool.Awk.Pattern

/-- Why a text is no pattern. -/
inductive Fault where
  | unclosedGroup
  | badClass
  | missingOperand
  | exhausted
  | repeatedStart
  | badInterval
  deriving DecidableEq, Repr

/-- The wording of a fault. -/
def Fault.message : Fault → String
  | .unclosedGroup => "missing ')'"
  | .badClass => "bad class -- [], [^] or ["
  | .missingOperand => "missing operand"
  | .exhausted => "resource exhaustion -- regular expression too large"
  | .repeatedStart => "syntax error ^* or ^+"
  | .badInterval => "bad interval expression"

/-- The octet of an escape behind its backslash, with what follows. -/
def escape (t : Text) : Char × Text :=
  let numbered (base most : Nat) (t : Text) : Option (Char × Text) :=
    let digits := (t.take most).takeWhile (Numeral.isDigit base)
    if digits.isEmpty then none
    else some (Char.ofNat (Numeral.value base 0 digits % 256), t.drop digits.length)
  match t with
  | [] => ('\\', [])
  | 'a' :: rest => ('\x07', rest)
  | 'b' :: rest => ('\x08', rest)
  | 'f' :: rest => ('\x0c', rest)
  | 'n' :: rest => ('\n', rest)
  | 'r' :: rest => ('\r', rest)
  | 't' :: rest => ('\t', rest)
  | 'v' :: rest => ('\x0b', rest)
  | 'x' :: rest => (numbered 16 2 rest).getD ('x', rest)
  | c :: rest => (numbered 8 3 t).getD (c, rest)

/-! ### Classes -/

/-- One character of a class, with what follows. -/
def member? (t : Text) : Option (Char × Text) :=
  match t with
  | [] => none
  | ['\\'] => none
  | '\\' :: rest => some (escape rest)
  | c :: rest => some (c, rest)

/-- The ranges of a class up to the closing bracket, which can be the first character. -/
def members : Nat → Bool → Text → Except Fault (List (Char × Char) × Text)
  | 0, _, _ => .error .badClass
  | fuel + 1, isFirst, t =>
    let more (ranges : List (Char × Char)) (rest : Text) :
        Except Fault (List (Char × Char) × Text) :=
      (members fuel false rest).map fun (l, rest) => (ranges ++ l, rest)
    let named : Option (Text × Text) := match t with
      | '[' :: ':' :: rest => Regex.named? ':' rest
      | _ => none
    match named, t with
    | some (name, rest), _ =>
      match Host.Pattern.classRanges? name with
      | some ranges => more ranges rest
      | none => .error .badClass
    | none, ']' :: rest => if isFirst then more [(']', ']')] rest else .ok ([], rest)
    | none, t =>
      match member? t with
      | none => .error .badClass
      | some (low, '-' :: rest) =>
        if rest.head? = some ']' then more [(low, low)] ('-' :: rest)
        else
          match member? rest with
          | none => .error .badClass
          | some (high, rest) =>
            if high < low then more [(low, low), ('-', '-'), (high, high)] rest
            else more [(low, high)] rest
      | some (c, rest) => more [(c, c)] rest

/-- The class behind an opening bracket. -/
def charset (t : Text) : Except Fault (Regex × Text) :=
  let (isNegated, t) : Bool × Text := match t with
    | '^' :: rest => (true, rest)
    | t => (false, t)
  (members (t.length + 1) true t).map fun (ranges, rest) => (.one ⟨isNegated, ranges⟩, rest)

/-! ### Signs -/

/-- A sign between, behind or around expressions. -/
inductive Sign where
  | either
  | join
  | times (least : Nat) (most : Option Nat) (inBraces : Bool)
  | open_

/-- How tightly a sign binds. -/
def Sign.level (s : Sign) : Nat :=
  match s with
  | .open_ => 0
  | .either => 1
  | .join => 2
  | .times .. => 3

/-- Does what a sign says with the last expressions. They need not be those beside it, as a group
    may lack one. -/
def Sign.apply (s : Sign) (l : List Regex) : Except Fault (List Regex) :=
  match s, l with
  | .either, b :: a :: rest => .ok (.either a b :: rest)
  | .join, b :: a :: rest => .ok (.seq a b :: rest)
  | .join, [a] => .ok [a]
  | .times least most _, a :: rest => .ok (.times a least most :: rest)
  | .times _ _ true, [] => .error .exhausted
  | .open_, a :: rest => .ok (a :: rest)
  | _, _ => .error .missingOperand

/-- Does what the signs say that bind so tightly at least, and answers the others and the
    expressions. -/
def settled (level : Nat) :
    List Sign → List Regex → Except Fault (List Sign × List Regex)
  | [], l => .ok ([], l)
  | s :: rest, l =>
    if s.level < level then .ok (s :: rest, l) else do settled level rest (← s.apply l)

/-- The limits of a count. If something is there twice at least, a larger limit has no effect. -/
def limits (least : Option Nat) (most : Option (Option Nat)) :
    Except Fault (Nat × Option Nat) :=
  match least, most with
  | none, none => .error .badInterval
  | some n, none => .ok (n, some n)
  | least, some most =>
    let n := least.getD 0
    if most.any fun m => m < n then .error .badInterval
    else .ok (n, if n < 2 then most else some n)

/-! ### Reading -/

/-- A pattern while it is read, with the last sign and the last expression first. -/
structure Reading where
  signs : List Sign
  operands : List Regex
  /-- How many groups are open. -/
  opened : Nat
  /-- Whether an expression ends here, and whether it is the start of a text. -/
  isBehind : Bool
  isBehindStart : Bool

namespace Reading

/-- Adds a sign. -/
def sign (s : Sign) (isBehind : Bool) (r : Reading) : Except Fault Reading := do
  let (signs, operands) ← settled s.level r.signs r.operands
  pure { r with
    signs := s :: signs, operands := operands, isBehind := isBehind, isBehindStart := false }

/-- Prepares an expression that stands directly behind another one. -/
def joined (r : Reading) : Except Fault Reading :=
  if r.isBehind then r.sign .join false else .ok r

/-- Adds an expression. -/
def operand (isStart : Bool) (x : Regex) (r : Reading) : Except Fault Reading := do
  let r ← r.joined
  pure { r with operands := x :: r.operands, isBehind := true, isBehindStart := isStart }

/-- Opens a group. -/
def opening (r : Reading) : Except Fault Reading := do
  let r ← r.joined
  pure { r with signs := .open_ :: r.signs, opened := r.opened + 1, isBehind := false }

/-- Closes a group. -/
def closing (r : Reading) : Except Fault Reading := do
  let (signs, operands) ← settled Sign.either.level r.signs r.operands
  let operands ← Sign.open_.apply operands
  pure { r with
    signs := signs.drop 1, operands := operands, opened := r.opened - 1, isBehind := true
    isBehindStart := false }

/-- The whole expression. -/
def result (r : Reading) : Except Fault Regex := do
  match ← settled Sign.either.level r.signs r.operands with
  | ([], [a]) => pure a
  | ([], _) => throw .missingOperand
  | _ => throw .unclosedGroup

end Reading

/-- The expression of a character. -/
def ofChar (c : Char) : Regex := .one ⟨false, [(c, c)]⟩

/-- A count in braces behind the opening one. Another text in braces is no count. -/
def interval? (t : Text) : Option (Option Nat × Option (Option Nat) × Text) :=
  let low := t.takeWhile Char.isDigit
  match t.drop low.length with
  | '\x7d' :: rest => some (Text.toNat? low, none, rest)
  | ',' :: rest =>
    let high := rest.takeWhile Char.isDigit
    match rest.drop high.length with
    | '\x7d' :: rest => some (Text.toNat? low, some (Text.toNat? high), rest)
    | _ => none
  | _ => none

/-- Reads a pattern from the left, so many parts at most. -/
def read : Nat → Text → Reading → Except Fault Reading
  | 0, _, r | _, [], r => .ok r
  | fuel + 1, c :: rest, r => do
    let again (least : Nat) (most : Option Nat) : Except Fault Reading :=
      r.sign (.times least most false) true
    match c with
    | '(' => read fuel rest (← r.opening)
    | ')' =>
      if r.opened > 0 then read fuel rest (← r.closing)
      else read fuel rest (← r.operand false (ofChar c))
    | '|' => read fuel rest (← r.sign .either false)
    | '*' => if r.isBehindStart then throw .repeatedStart else read fuel rest (← again 0 none)
    | '+' => if r.isBehindStart then throw .repeatedStart else read fuel rest (← again 1 none)
    | '?' => read fuel rest (← again 0 (some 1))
    | '\x7b' =>
      match interval? rest with
      | none => read fuel rest (← r.operand false (ofChar c))
      | some (least, most, rest) =>
        let (least, most) ← limits least most
        read fuel rest (← r.sign (.times least most true) true)
    | '[' =>
      let r ← r.joined
      let (x, rest) ← charset rest
      read fuel rest (← r.operand false x)
    | '.' => read fuel rest (← r.operand false (.one ⟨true, []⟩))
    | '^' => read fuel rest (← r.operand true (.at_ .textStart))
    | '$' => read fuel rest (← r.operand false (.at_ .textEnd))
    | '\\' =>
      let (c, rest) := escape rest
      read fuel rest (← r.operand false (ofChar c))
    | c => read fuel rest (← r.operand false (ofChar c))

/-- The matcher of a pattern. -/
def matcher (t : Text) : Except Fault Regex.Matcher := do
  if t.isEmpty then pure (Regex.matcher .empty 0 false)
  else
    let r ← read t.length t ⟨[], [], 0, false, false⟩
    pure (Regex.matcher (← r.result) 0 false)

end Console.Host.Tool.Awk.Pattern
