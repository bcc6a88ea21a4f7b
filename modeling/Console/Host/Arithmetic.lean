import Console.Host.Machine
import Console.Host.Numeral

/-! Arithmetic of the command language: signed integers of 64 bits that wrap around, with the
    operators of C. An expression is evaluated while it is read, from the left, so that of two
    faults the first one counts. Operands that `&&`, `||` and `?:` leave out are read but not
    evaluated. -/

namespace Console.Host.Arithmetic

/-- Why an expression has no value. -/
inductive Fault where
  | expectingPrimary
  | expectingEnd
  | expectingColon
  | expectingParenthesis
  | divisionByZero
  | illegalNumber (t : Text)
  | readOnly (name : Text)
  /-- The quotient of the least number and minus one, which a process does not survive. -/
  | noQuotient
  deriving DecidableEq, Repr

/-- The wording of a fault of an expression. -/
def Fault.message (expression : Text) : Fault → Text
  | .illegalNumber t => "Illegal number: ".toList ++ t
  | .readOnly name => name ++ ": is read only".toList
  | fault =>
    let what := match fault with
      | .expectingPrimary => "expecting primary"
      | .expectingEnd => "expecting EOF"
      | .expectingColon => "expecting ':'"
      | .expectingParenthesis => "expecting ')'"
      | _ => "division by zero"
    "arithmetic expression: ".toList ++ what.toList ++ ": \"".toList ++ expression ++ ['"']

/-- The signed 64-bit integer that agrees with a number modulo `2 ^ 64`. -/
def wrap (n : Int) : Int := Int.bmod n Word.limit

/-! ### Lexemes -/

/-- A lexeme. -/
inductive Token where
  | number (n : Int)
  | name (t : Text)
  | sign (t : String)
  /-- A character that begins no lexeme. -/
  | unknown
  deriving DecidableEq, Repr

/-- The signs, longer ones first. -/
def signs : List String :=
  ["<<=", ">>=", "<<", ">>", "<=", ">=", "==", "!=", "&&", "||", "+=", "-=", "*=", "/=", "%=", "&=",
    "|=", "^=", "<", ">", "=", "!", "&", "|", "^", "+", "-", "*", "/", "%", "~", "?", ":", "(", ")"]

/-- The lexemes of a text. -/
def tokens : Nat → Text → List Token
  | 0, _ => []
  | _ + 1, [] => []
  | fuel + 1, t@(c :: rest) =>
    if c == ' ' || c == '\t' || c == '\n' then tokens fuel rest
    else if c.isDigit then
      match Numeral.natural? 0 t with
      | some (n, rest) => .number (Numeral.clamp n) :: tokens fuel rest
      | none => [.unknown]
    else if isNameStart c then
      let name := t.takeWhile isNameChar
      .name name :: tokens fuel (t.drop name.length)
    else
      match signs.find? fun s => s.toList.isPrefixOf t with
      | some s => .sign s :: tokens fuel (t.drop s.length)
      | none => [.unknown]

/-! ### Operators -/

/-- The operators by how tightly they bind, the loosest first. -/
def levels : List (List String) :=
  [["|"], ["^"], ["&"], ["==", "!="], ["<", "<=", ">", ">="], ["<<", ">>"], ["+", "-"],
    ["*", "/", "%"]]

/-- The operator with which a sign assigns: that of plain assignment is empty. -/
def assigningOperator? (s : String) : Option String :=
  if s = "=" then some ""
  else if s.length > 1 && s.endsWith "=" && !(["==", "!=", "<=", ">="].contains s) then
    some (String.ofList s.toList.dropLast)
  else none

/-- One for true and zero for false. -/
def truth (b : Bool) : Int := if b then 1 else 0

/-- A bitwise operation on the two's complement of two numbers. -/
def bitwise (f : Nat → Nat → Nat) (a b : Int) : Int :=
  wrap (f (a % Word.limit).toNat (b % Word.limit).toNat)

/-- The value of an operator on two numbers. -/
def applyBinary (op : String) (a b : Int) : Except Fault Int :=
  let quotient (n : Int) : Except Fault Int :=
    if b = 0 then .error .divisionByZero
    else if a = -Word.half ∧ b = -1 then .error .noQuotient
    else .ok n
  match op with
  | "+" => .ok (wrap (a + b))
  | "-" => .ok (wrap (a - b))
  | "*" => .ok (wrap (a * b))
  | "/" => quotient (a.tdiv b)
  | "%" => quotient (a.tmod b)
  | "==" => .ok (truth (a == b))
  | "!=" => .ok (truth (a != b))
  | "<" => .ok (truth (a < b))
  | "<=" => .ok (truth (a ≤ b))
  | ">" => .ok (truth (a > b))
  | ">=" => .ok (truth (a ≥ b))
  | "<<" => .ok (wrap (a * twoTo (b % 64).toNat))
  | ">>" => .ok (a / twoTo (b % 64).toNat)
  | "&" => .ok (bitwise Nat.land a b)
  | "|" => .ok (bitwise Nat.lor a b)
  | _ => .ok (bitwise Nat.xor a b)

/-! ### Evaluation -/

/-- What is left of an expression, and the variables. -/
structure State where
  rest : List Token
  machine : Machine

/-- Reads and evaluates from the left. -/
abbrev Evaluation (α : Type) := StateT State (Except Fault) α

/-- Takes the next lexeme if it is a given sign. -/
def accept (s : String) : Evaluation Bool := do
  match (← get).rest with
  | .sign t :: rest =>
    if t = s then
      modify fun st => { st with rest := rest }
      pure true
    else pure false
  | _ => pure false

/-- The value of a variable; one without value counts as zero. -/
def valueOf (name : Text) : Evaluation Int := do
  let t := ((← get).machine.value? name).getD []
  if t.all Numeral.isSpace then pure 0
  else
    match Numeral.whole? 0 t with
    | some n => pure n
    | none => throw (.illegalNumber t)

/-- Assigns a number to a variable. -/
def assign (name : Text) (n : Int) : Evaluation Unit := do
  let st ← get
  if (st.machine.binding? name).any Variable.isReadOnly then throw (.readOnly name)
  set { st with machine := st.machine.setVariable name (Text.ofInt n) }

mutual

/-- Reads an assignment or what binds more tightly. -/
def assignment : Nat → Bool → Evaluation Int
  | 0, _ => throw .expectingPrimary
  | fuel + 1, evaluates => do
    let st ← get
    match st.rest with
    | .name name :: .sign s :: rest =>
      match assigningOperator? s with
      | none => conditional fuel evaluates
      | some op =>
        set { st with rest := rest }
        let n ← assignment fuel evaluates
        if !evaluates then return n
        let n ← if op = "" then pure n else do
          let old ← valueOf name
          applyBinary op old n
        assign name n
        pure n
    | _ => conditional fuel evaluates

/-- Reads a choice between two values. -/
def conditional : Nat → Bool → Evaluation Int
  | 0, _ => throw .expectingPrimary
  | fuel + 1, evaluates => do
    let a ← disjunction fuel evaluates
    if !(← accept "?") then return a
    let b ← assignment fuel (evaluates && a != 0)
    if !(← accept ":") then throw .expectingColon
    let c ← conditional fuel (evaluates && a == 0)
    pure (if a ≠ 0 then b else c)

/-- Reads operands of `||`. -/
def disjunction : Nat → Bool → Evaluation Int
  | 0, _ => throw .expectingPrimary
  | fuel + 1, evaluates => do
    let a ← conjunction fuel evaluates
    if !(← accept "||") then return a
    let b ← disjunction fuel (evaluates && a == 0)
    pure (truth (a != 0 || b != 0))

/-- Reads operands of `&&`. -/
def conjunction : Nat → Bool → Evaluation Int
  | 0, _ => throw .expectingPrimary
  | fuel + 1, evaluates => do
    let a ← operand fuel 0 evaluates
    if !(← accept "&&") then return a
    let b ← conjunction fuel (evaluates && a != 0)
    pure (truth (a != 0 && b != 0))

/-- Reads operands of the operators of a level. -/
def operand : Nat → Nat → Bool → Evaluation Int
  | 0, _, _ => throw .expectingPrimary
  | fuel + 1, level, evaluates =>
    match levels[level]? with
    | none => primary fuel evaluates
    | some ops => do
      let a ← operand fuel (level + 1) evaluates
      chain fuel level ops a evaluates

/-- Goes on behind an operand as long as operators of the level follow, which bind to the left. -/
def chain : Nat → Nat → List String → Int → Bool → Evaluation Int
  | 0, _, _, _, _ => throw .expectingPrimary
  | fuel + 1, level, ops, a, evaluates => do
    let st ← get
    match st.rest with
    | .sign s :: rest =>
      if ops.contains s then
        set { st with rest := rest }
        let b ← operand fuel (level + 1) evaluates
        let a ← if evaluates then applyBinary s a b else pure b
        chain fuel level ops a evaluates
      else pure a
    | _ => pure a

/-- Reads a number, a variable, parentheses, or one of these behind signs. -/
def primary : Nat → Bool → Evaluation Int
  | 0, _ => throw .expectingPrimary
  | fuel + 1, evaluates => do
    let st ← get
    match st.rest with
    | .number n :: rest =>
      set { st with rest := rest }
      pure n
    | .name name :: rest =>
      set { st with rest := rest }
      if evaluates then valueOf name else pure 1
    | .sign "(" :: rest =>
      set { st with rest := rest }
      let n ← assignment fuel evaluates
      if !(← accept ")") then throw .expectingParenthesis
      pure n
    | .sign s :: rest =>
      set { st with rest := rest }
      match s with
      | "+" => primary fuel evaluates
      | "-" => do pure (wrap (-(← primary fuel evaluates)))
      | "!" => do pure (truth ((← primary fuel evaluates) == 0))
      | "~" => do pure (-(← primary fuel evaluates) - 1)
      | _ => throw .expectingPrimary
    | _ => throw .expectingPrimary

end

/-- The value of a text, and the variables after it. -/
def evaluate (m : Machine) (t : Text) : Except Fault (Int × Machine) := do
  let l := tokens (t.length + 1) t
  let (n, st) ← (assignment (20 * l.length + 20) true).run ⟨l, m⟩
  if st.rest.isEmpty then pure (n, st.machine) else throw .expectingEnd

end Console.Host.Arithmetic
