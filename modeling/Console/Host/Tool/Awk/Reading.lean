import Console.Host.Tool.Awk.Syntax
import Console.Host.Tool.Awk.Token
import Std.Data.HashMap

/-! Reading of scripts over records. What a name stands for shows where it is used first; where it
    is only handed to a function, the parameter of that function tells whether it is a table. -/

namespace Console.Host.Tool.Awk

/-- What a name stands for. -/
inductive Kind where
  | unknown
  | value
  | table
  deriving DecidableEq, Repr

/-- The word for what a variable stands for. -/
def Kind.wording (k : Kind) (v : Variable) : Text :=
  let scope := match v with
    | .own _ => "local "
    | .global _ => ""
  scope.toList ++ (if k = .table then "array" else "variable").toList

/-- A function while scripts are read. Without parameters it is not yet defined. -/
structure Signature where
  name : Text
  parameters : Option (List Text)
  kinds : Array Kind
  body : Statement

/-- A call: which function it stands in and which one it is of, and the arguments that are names. -/
structure CallSite where
  line : Nat
  caller : Option Nat
  callee : Nat
  arguments : List (Option Variable)

/-- What a statement belongs to. -/
inductive Setting where
  | before
  | rule
  | behind
  | function
  deriving DecidableEq, Repr

/-- A script while it is read. -/
structure Reading where
  rest : List Spotted
  parens : Nat
  braces : Nat
  globals : Std.HashMap Text Nat
  names : Array Text
  kinds : Array Kind
  functions : Array Signature
  /-- The function that is read, and its parameters. -/
  current : Option Nat
  parameters : List Text
  setting : Setting
  loops : Nat
  ranges : Nat
  calls : List CallSite
  /-- What is wrong, the last first. -/
  complaints : List Complaint

/-- Reads from the left. -/
abbrev Reader (α : Type) := StateT Reading (Except (List Complaint)) α

namespace Reader

/-! ### Tokens -/

/-- The tokens from the next one on that has a meaning, with what is wrong before it. -/
def settled (complaints : List Complaint) :
    List Spotted → Except (List Complaint) (List Spotted × List Complaint)
  | [] => .ok ([], complaints)
  | s :: rest =>
    match s.token with
    | .wrong f =>
      let complaints := ⟨s.line, f⟩ :: complaints
      match f with
      | .extra _ => settled complaints rest
      | .overflow _ => .ok ({ s with token := .number .zero } :: rest, complaints)
      | _ => .error complaints.reverse
    | _ => .ok (s :: rest, complaints)

/-- The next token. -/
def head : Reader Spotted := do
  pure ((← get).rest.head?.getD ⟨.finish, 1, "end of file".toList⟩)

/-- The token behind the next one. -/
def second : Reader Token := do
  match (← get).rest with
  | _ :: s :: _ => pure s.token
  | _ => pure .finish

/-- Goes behind the next token. -/
def advance : Reader Unit := do
  let st ← get
  let (parens, braces) : Nat × Nat := match (← head).token with
    | .sign "(" => (st.parens + 1, st.braces)
    | .sign ")" => (st.parens - 1, st.braces)
    | .sign "\x7b" => (st.parens, st.braces + 1)
    | .sign "\x7d" => (st.parens, st.braces - 1)
    | _ => (st.parens, st.braces)
  match settled st.complaints (st.rest.drop 1) with
  | .error l => throw l
  | .ok (rest, complaints) =>
    set { st with rest := rest, complaints := complaints, parens := parens, braces := braces }

/-- Notes something that is wrong. -/
def complain (line : Nat) (f : Fault) : Reader Unit :=
  modify fun st => { st with complaints := ⟨line, f⟩ :: st.complaints }

/-- Notes something that is wrong in the line of the next token. -/
def complainHere (f : Fault) : Reader Unit := do complain (← head).line f

/-- Gives up at the next token. -/
def refuse {α : Type} : Reader α := do
  let st ← get
  let s ← head
  let endsStatement := match s.token with
    | .finish | .newline | .semicolon _ => true
    | token => token.isSign "\x7d"
  let endsRule := match s.token with
    | .finish => true
    | token => token.isWord "BEGIN" || token.isWord "END"
  let fault : Fault :=
    if st.parens > 0 && endsStatement then .missing ')' s.spelling
    else if st.braces > 0 && endsRule then .missing '\x7d' s.spelling
    else .near s.spelling
  throw (⟨s.line, fault⟩ :: st.complaints).reverse

/-- Whether the next token is a sign. -/
def seesSign (s : String) : Reader Bool := do pure ((← head).token.isSign s)

/-- Whether the next token is a word. -/
def seesWord (w : String) : Reader Bool := do pure ((← head).token.isWord w)

/-- Takes a sign if it is the next token. -/
def accept (s : String) : Reader Bool := do
  let isThere ← seesSign s
  if isThere then advance
  pure isThere

/-- Takes a sign, which has to be there. -/
def expect (s : String) : Reader Unit := do
  if !(← accept s) then refuse

/-- Takes a word, which has to be there. -/
def expectWord (w : String) : Reader Unit := do
  if ← seesWord w then advance else refuse

/-- Takes a newline if there is one. -/
def skipNewline : Reader Unit := do
  match (← head).token with
  | .newline => advance
  | _ => pure ()

/-- Whether a statement ends here. -/
def seesSeparator : Reader Bool := do
  match (← head).token with
  | .newline | .semicolon _ => pure true
  | _ => pure false

/-- Takes what ends a statement. -/
def separator : Reader Unit := do
  if ← seesSeparator then advance else refuse

/-! ### Names -/

/-- The number of a function, if a name is one of a function. -/
def function? (name : Text) : Reader (Option Nat) := do
  pure ((← get).functions.findIdx? fun f => f.name == name)

/-- The function of a name, which may be defined later. -/
def functionOf (name : Text) : Reader Nat := do
  match ← function? name with
  | some n => pure n
  | none =>
    let st ← get
    set { st with functions := st.functions.push ⟨name, none, #[], .block []⟩ }
    pure st.functions.size

/-- The variable of a name. -/
def variableOf (name : Text) : Reader Variable := do
  let st ← get
  match st.parameters.idxOf? name, st.globals.get? name with
  | some n, _ => pure (.own n)
  | none, some n => pure (.global n)
  | none, none =>
    let n := st.names.size
    set { st with
      globals := st.globals.insert name n, names := st.names.push name,
      kinds := st.kinds.push .unknown }
    pure (.global n)

/-- What a variable stands for. In a function its own variables are meant. -/
def kindOf (caller : Option Nat) (v : Variable) : Reader Kind := do
  let st ← get
  match v with
  | .global n => pure (st.kinds.getD n .unknown)
  | .own n => pure ((caller.bind fun f => st.functions[f]?).elim .unknown fun f =>
      f.kinds.getD n .unknown)

/-- Notes what a variable stands for. -/
def setKind (caller : Option Nat) (v : Variable) (k : Kind) : Reader Unit :=
  modify fun st =>
    match v, caller with
    | .global n, _ => { st with kinds := st.kinds.setIfInBounds n k }
    | .own n, some f =>
      { st with functions := st.functions.modify f fun f =>
          { f with kinds := f.kinds.setIfInBounds n k } }
    | .own _, none => st

/-- Uses a name as something. -/
def useAs (line : Nat) (k : Kind) (name : Text) : Reader Variable := do
  let v ← variableOf name
  let caller := (← get).current
  let known ← kindOf caller v
  if known = .unknown then setKind caller v k
  else if known ≠ k then complain line (.reference (known.wording v) name)
  pure v

/-- Whether a word can be the name of a variable. -/
def isVariable (name : Text) : Reader Bool := do
  let w := String.ofList name
  if keywords.contains w || builtinNames.contains w then pure false
  else if (← get).parameters.elem name then pure true
  else pure (← function? name).isNone

/-- The name that the next token is, if it is one of a variable. -/
def seesName : Reader (Option Text) := do
  match (← head).token with
  | .word name isCalled =>
    let isKnown := (← get).globals.contains name || (← get).parameters.elem name
    if (← isVariable name) && (!isCalled || isKnown) then pure (some name) else pure none
  | _ => pure none

/-- Takes the name of a table. -/
def tableName : Reader Variable := do
  match ← seesName with
  | none => refuse
  | some name =>
    let line := (← head).line
    advance
    useAs line .table name

/-- A name that is alone between commas and parentheses can also be one of a table. -/
def bareName : Reader (Option Text) := do
  match ← seesName, ← second with
  | some name, .sign s => pure (if s == "," || s == ")" then some name else none)
  | _, _ => pure none

/-! ### Patterns -/

/-- The expression of a pattern. -/
def patternOf (source : Text) : Reader Expr := do
  match Pattern.matcher source with
  | .ok m => pure (.pattern m)
  | .error f =>
    complainHere (.pattern f source)
    pure (.constant .unset)

/-- An expression where a pattern is wanted. A text is a pattern there. -/
def asPattern (e : Expr) : Reader Expr :=
  match e with
  | .constant (.text t) => patternOf t
  | e => pure e

/-! ### Operators -/

/-- An operator between expressions. -/
inductive Infix where
  | choose
  | either
  | both
  | contains
  | matches (isNegated : Bool)
  | compare (r : Relation)

/-- An operator, and how tightly it binds. -/
def infixOf? (token : Token) : Option (Nat × Infix) :=
  match token with
  | .word ['i', 'n'] _ => some (4, .contains)
  | .sign s =>
    match s with
    | "?" => some (1, .choose)
    | "||" => some (2, .either)
    | "&&" => some (3, .both)
    | "~" => some (5, .matches false)
    | "!~" => some (5, .matches true)
    | "<" => some (6, .compare .less)
    | "<=" => some (6, .compare .lessOrEqual)
    | "==" => some (6, .compare .equal)
    | "!=" => some (6, .compare .unequal)
    | ">=" => some (6, .compare .greaterOrEqual)
    | ">" => some (6, .compare .greater)
    | _ => none
  | _ => none

/-- The operation of an assignment, if a token is the sign of one. -/
def assignment? (token : Token) : Option (Option Operation) :=
  match token with
  | .sign s =>
    match s with
    | "=" => some none
    | "+=" => some (some .plus)
    | "-=" => some (some .minus)
    | "*=" => some (some .times)
    | "/=" => some (some .over)
    | "%=" => some (some .modulo)
    | "^=" => some (some .power)
    | _ => none
  | _ => none

/-- Whether an operand that can follow another one without a sign begins with a token. -/
def beginsOperand (token : Token) : Bool :=
  match token with
  | .number _ | .text _ | .pattern _ => true
  | .word name _ =>
    let w := String.ofList name
    w == "getline" || !keywords.contains w
  | .sign s => s == "(" || s == "$" || s == "!" || s == "++" || s == "--"
  | _ => false

/-- Whether a token is a sign in front of an operand. -/
def isUnary (token : Token) : Bool :=
  match token with
  | .sign s => s == "!" || s == "-" || s == "+"
  | _ => false

/-- The direction of a sign that counts, if a token is one. -/
def counting? (token : Token) : Option Bool :=
  match token with
  | .sign "++" => some true
  | .sign "--" => some false
  | _ => none

/-- The field whose number is what is counted afterwards. -/
def countedField (t : Target) (isUp : Bool) : Reader Expr := do
  advance
  pure (.get (.field (.count t isUp true)))

mutual

/-- Reads an expression. -/
def expression : Nat → Reader Expr
  | 0 => refuse
  | fuel + 1 => climb fuel 1

/-- Reads operands with operators between them that bind so tightly at least. -/
def climb : Nat → Nat → Reader Expr
  | 0, _ => refuse
  | fuel + 1, least => do
    let e ← joined fuel
    climbFrom fuel least e

/-- Reads operators and operands behind an operand. -/
def climbFrom : Nat → Nat → Expr → Reader Expr
  | 0, _, e => pure e
  | fuel + 1, least, e => do
    match infixOf? (← head).token with
    | none => pure e
    | some (level, operator) =>
      if level < least then pure e
      else
        advance
        match operator with
        | .contains =>
          let v ← tableName
          climbFrom fuel least (.contains v [e])
        | .choose =>
          let a ← climb fuel 1
          expect ":"
          let b ← climb fuel 1
          climbFrom fuel least (.choose e a b)
        | .either => climbFrom fuel least (.either e (← climb fuel (level + 1)))
        | .both => climbFrom fuel least (.both e (← climb fuel (level + 1)))
        | .matches isNegated =>
          let p ← asPattern (← climb fuel (level + 1))
          climbFrom fuel least (.matches isNegated e p)
        | .compare r => climbFrom fuel least (.compare r e (← climb fuel (level + 1)))

/-- Reads operands one behind the other, or an assignment. -/
def joined : Nat → Reader Expr
  | 0 => refuse
  | fuel + 1 => do
    let e ← sum fuel
    match e, assignment? (← head).token with
    | .get t, some operation =>
      advance
      pure (.assign t operation (← climb fuel 1))
    | e, _ => joinedFrom fuel e

/-- Reads operands behind another one. -/
def joinedFrom : Nat → Expr → Reader Expr
  | 0, e => pure e
  | fuel + 1, e => do
    if beginsOperand (← head).token then joinedFrom fuel (.join e (← sum fuel)) else pure e

/-- Reads a sum. -/
def sum : Nat → Reader Expr
  | 0 => refuse
  | fuel + 1 => do sumFrom fuel (← product fuel)

/-- Reads the rest of a sum. -/
def sumFrom : Nat → Expr → Reader Expr
  | 0, e => pure e
  | fuel + 1, e => do
    if ← accept "+" then sumFrom fuel (.calculate .plus e (← product fuel))
    else if ← accept "-" then sumFrom fuel (.calculate .minus e (← product fuel))
    else pure e

/-- Reads a product. -/
def product : Nat → Reader Expr
  | 0 => refuse
  | fuel + 1 => do productFrom fuel (← unary fuel)

/-- Reads the rest of a product. -/
def productFrom : Nat → Expr → Reader Expr
  | 0, e => pure e
  | fuel + 1, e => do
    if ← accept "*" then productFrom fuel (.calculate .times e (← unary fuel))
    else if ← accept "/" then productFrom fuel (.calculate .over e (← unary fuel))
    else if ← accept "%" then productFrom fuel (.calculate .modulo e (← unary fuel))
    else pure e

/-- Reads an operand with signs in front of it. -/
def unary : Nat → Reader Expr
  | 0 => refuse
  | fuel + 1 => do
    if ← accept "!" then pure (.not (← unary fuel))
    else if ← accept "-" then pure (.negate (← unary fuel))
    else if ← accept "+" then pure (.positive (← unary fuel))
    else pipedFrom fuel (← power fuel)

/-- Reads what takes records from the command that an expression names. -/
def pipedFrom : Nat → Expr → Reader Expr
  | 0, e => pure e
  | fuel + 1, e => do
    if ← accept "|" then
      expectWord "getline"
      let t ← target? fuel
      pipedFrom fuel (.read (.command e) t)
    else pure e

/-- Reads a power. -/
def power : Nat → Reader Expr
  | 0 => refuse
  | fuel + 1 => do
    let e ← counted fuel
    if ← accept "^" then
      let exponent ← if isUnary (← head).token then unary fuel else power fuel
      pure (.calculate .power e exponent)
    else pure e

/-- Reads an operand that may be counted afterwards. -/
def counted : Nat → Reader Expr
  | 0 => refuse
  | fuel + 1 => do
    let e ← primary fuel
    match e, counting? (← head).token with
    | .get t, some isUp =>
      advance
      pure (.count t isUp true)
    | e, _ => pure e

/-- Reads a target, if there is one. -/
def target? : Nat → Reader (Option Target)
  | 0 => pure none
  | fuel + 1 => do
    let isThere := (← seesName).isSome || (← seesSign "$") || (← seesSign "(")
    if isThere then pure (some (← target fuel)) else pure none

/-- Reads a target. -/
def target : Nat → Reader Target
  | 0 => refuse
  | fuel + 1 => do
    if (← seesName).isSome || (← seesSign "$") then
      match ← primary fuel with
      | .get t => pure t
      | _ => refuse
    else
      expect "("
      fieldTarget fuel

/-- Reads a field behind an opening parenthesis. -/
def fieldTarget : Nat → Reader Target
  | 0 => refuse
  | fuel + 1 => do
    let isField := (← seesSign "$") || (← seesSign "(") || (← seesWord "NF")
    if !isField then refuse
    let t ← target fuel
    expect ")"
    pure t

/-- Reads an operand. -/
def primary : Nat → Reader Expr
  | 0 => refuse
  | fuel + 1 => do
    let s ← head
    match s.token, counting? s.token with
    | _, some isUp =>
      advance
      pure (.count (← target fuel) isUp false)
    | .number x, _ =>
      advance
      pure (.constant (.number x))
    | .text t, _ =>
      advance
      pure (.constant (.text t))
    | .pattern source, _ =>
      let e ← patternOf source
      advance
      pure e
    | .sign "$", _ =>
      advance
      let e ← if isUnary (← head).token then unary fuel else primary fuel
      match e, counting? (← head).token with
      | .get (.field e), some isUp => countedField (.field e) isUp
      | .get .fieldCount, some isUp => countedField .fieldCount isUp
      | e, _ => pure (.get (.field e))
    | .sign "(", _ =>
      advance
      let e ← expression fuel
      if ← accept ")" then
        match e with
        | .get (.field _) | .get .fieldCount => pure e
        | e => pure (.group e)
      else
        let l ← moreValues fuel [e]
        expect ")"
        expectWord "in"
        pure (.contains (← tableName) l)
    | .word name _, _ => word fuel name
    | _, _ => refuse

/-- Reads further values behind commas. Those before are given from the last one. -/
def moreValues : Nat → List Expr → Reader (List Expr)
  | 0, done => pure done.reverse
  | fuel + 1, done => do
    if ← accept "," then
      let e ← expression fuel
      moreValues fuel (e :: done)
    else pure done.reverse

/-- Reads at least one value. -/
def values : Nat → Reader (List Expr)
  | 0 => pure []
  | fuel + 1 => do
    let e ← expression fuel
    moreValues fuel [e]

/-- Reads what begins with a word. -/
def word : Nat → Text → Reader Expr
  | 0, _ => refuse
  | fuel + 1, name => do
    let w := String.ofList name
    if w == "getline" then
      advance
      let t ← target? fuel
      if ← accept "<" then pure (.read (.file (← power fuel)) t) else pure (.read .main t)
    else if builtinNames.contains w then
      advance
      builtin fuel name
    else
      match ← seesName with
      | some name =>
        let line := (← head).line
        advance
        if w == "NF" then pure (.get .fieldCount)
        else if ← accept "[" then
          let v ← useAs line .table name
          let keys ← values fuel
          expect "]"
          pure (.get (.element v keys))
        else pure (.get (.variable_ (← useAs line .value name)))
      | none =>
        if keywords.contains w then refuse
        else
          advance
          call fuel name

/-- Reads the arguments of a function. -/
def call : Nat → Text → Reader Expr
  | 0, _ => refuse
  | fuel + 1, name => do
    let line := (← head).line
    let f ← functionOf name
    expect "("
    let l ← if ← seesSign ")" then pure [] else arguments fuel []
    expect ")"
    modify fun st =>
      { st with calls := ⟨line, st.current, f, l.map Prod.snd⟩ :: st.calls }
    pure (.call f (l.map Prod.fst))

/-- Reads arguments, and which of them are only names. -/
def arguments : Nat → List (Expr × Option Variable) → Reader (List (Expr × Option Variable))
  | 0, done => pure done.reverse
  | fuel + 1, done => do
    let e ← match ← bareName with
      | some name => do
        advance
        if name == "NF".toList then pure (Expr.get .fieldCount, none)
        else
          let v ← variableOf name
          pure (.get (.variable_ v), some v)
      | none => do pure (← expression fuel, none)
    if ← accept "," then arguments fuel (e :: done) else pure (e :: done).reverse

/-- Reads the arguments of a function that every script has. -/
def builtin : Nat → Text → Reader Expr
  | 0, _ => refuse
  | fuel + 1, name => do
    let line := (← head).line
    match String.ofList name with
    | "length" =>
      if !(← accept "(") then pure (.builtin .length [])
      else if ← accept ")" then pure (.builtin .length [])
      else
        let e ← match ← bareName with
          | some n => do
            advance
            if n == "NF".toList then pure (Expr.builtin .length [.get .fieldCount])
            else pure (.size (← variableOf n))
          | none => do pure (.builtin .length [← expression fuel])
        expect ")"
        pure e
    | "split" =>
      expect "("
      let e ← expression fuel
      expect ","
      let v ← tableName
      let separator ← if ← accept "," then pure (some (← expression fuel)) else pure none
      expect ")"
      pure (.split e v separator)
    | "match" =>
      expect "("
      let e ← expression fuel
      expect ","
      let p ← asPattern (← expression fuel)
      expect ")"
      pure (.find e p)
    | "sub" => substitution fuel false
    | "gsub" => substitution fuel true
    | w =>
      expect "("
      let l ← if ← seesSign ")" then pure [] else values fuel
      expect ")"
      match Builtin.ofName? w with
      | none => refuse
      | some (f, least, most) =>
        if l.length < least || l.length > most then complain line (.wrongNumber name)
        pure (.builtin f l)

/-- Reads the arguments of a substitution. -/
def substitution : Nat → Bool → Reader Expr
  | 0, _ => refuse
  | fuel + 1, isGlobal => do
    expect "("
    let p ← asPattern (← expression fuel)
    expect ","
    let e ← expression fuel
    let t ← if ← accept "," then target fuel else pure (.field (.constant (.number .zero)))
    expect ")"
    pure (.substitute isGlobal p e t)

end

/-! ### Statements -/

/-- How deep expressions can be. -/
def depth : Reader Nat := do pure (16 * (← get).rest.length + 64)

/-- Reads an expression of a statement. -/
def wholeExpression : Reader Expr := do expression (← depth)

/-- Reads an expression unless the statement ends here. -/
def expression? : Reader (Option Expr) := do
  if ← seesSeparator then pure none else pure (some (← wholeExpression))

/-- Reads values in parentheses that are all that is printed. -/
def enclosedValues? : Reader (Option (List Expr)) := do
  let st ← get
  if !(← accept "(") then pure none
  else
    let e ← wholeExpression
    if !(← seesSign ",") then
      set st
      pure none
    else
      let l ← moreValues (← depth) [e]
      expect ")"
      if ← seesWord "in" then
        set st
        pure none
      else pure (some l)

/-- Reads what is printed, and where that goes. -/
def printed : Reader (List Expr × Option (Way × Expr)) := do
  let isOver ← match (← head).token with
    | .output _ => pure true
    | _ => seesSeparator
  let l ← if isOver then pure [] else
    match ← enclosedValues? with
    | some l => pure l
    | none => values (← depth)
  match (← head).token with
  | .output s =>
    advance
    let way : Way := match s with
      | ">" => .file
      | ">>" => .append
      | _ => .command
    pure (l, some (way, ← wholeExpression))
  | _ => pure (l, none)

/-- Reads a condition in parentheses. -/
def condition : Reader Expr := do
  expect "("
  let e ← wholeExpression
  expect ")"
  pure e

/-- Does some reading inside a loop. -/
def inLoop {α : Type} (r : Reader α) : Reader α := do
  modify fun st => { st with loops := st.loops + 1 }
  let a ← r
  modify fun st => { st with loops := st.loops - 1 }
  pure a

/-- Reads a statement that is one word. -/
def plain (isAllowed : Reading → Bool) (fault : Fault) (s : Statement) : Reader Statement := do
  if !isAllowed (← get) then complainHere fault
  advance
  separator
  pure s

/-- Reads the removal of an element or of a whole table. -/
def deletion : Reader Statement := do
  advance
  let v ← tableName
  let keys ← if ← accept "[" then do
      let keys ← values (← depth)
      expect "]"
      pure keys
    else pure []
  separator
  pure (.delete v keys)

/-- Whether the keys of a table are gone through here, with the name that takes them. -/
def eachName? : Reader (Option Text) := do
  match ← seesName, ← second with
  | some name, .word ['i', 'n'] _ => pure (some name)
  | _, _ => pure none

mutual

/-- Reads a statement. -/
def statement : Nat → Reader Statement
  | 0 => refuse
  | fuel + 1 => do
    let s ← head
    match s.token with
    | .newline | .semicolon _ =>
      advance
      pure (.block [])
    | .sign "\x7b" => block fuel
    | .word name _ =>
      let isInLoop (st : Reading) : Bool := st.loops > 0
      let isInRule (st : Reading) : Bool := st.setting == .rule
      match String.ofList name with
      | "print" =>
        advance
        let (l, output) ← printed
        separator
        pure (.print l output)
      | "printf" =>
        advance
        let (l, output) ← printed
        if l.isEmpty then complainHere (.noArguments name)
        separator
        pure (.printf l output)
      | "if" =>
        advance
        let c ← condition
        skipNewline
        let a ← statement fuel
        if ← seesWord "else" then
          advance
          pure (.choose c a (← statement fuel))
        else pure (.choose c a (.block []))
      | "while" =>
        advance
        let c ← condition
        skipNewline
        pure (.loop (some c) none (← inLoop (statement fuel)))
      | "do" =>
        advance
        let body ← inLoop (statement fuel)
        expectWord "while"
        let c ← condition
        separator
        pure (.atLeastOnce body c)
      | "for" =>
        advance
        expect "("
        match ← eachName? with
        | some name => each fuel name
        | none => counting fuel
      | "break" => plain isInLoop (.loopOutside name) .leave
      | "continue" => plain isInLoop (.loopOutside name) .again
      | "next" => plain isInRule (.misplaced name) .next
      | "nextfile" => plain isInRule (.misplaced name) .nextFile
      | "exit" =>
        advance
        let e ← expression?
        separator
        pure (.exit e)
      | "return" =>
        advance
        let e ← expression?
        separator
        if (← get).setting ≠ .function then complain s.line .returnOutside
        pure (.return_ e)
      | "delete" => deletion
      | _ => simple
    | _ => simple

/-- Reads a loop over the keys of a table. -/
def each : Nat → Text → Reader Statement
  | 0, _ => refuse
  | fuel + 1, name => do
    let v ← useAs (← head).line .value name
    advance
    advance
    let table ← tableName
    expect ")"
    skipNewline
    pure (.each v table (← inLoop (statement fuel)))

/-- Reads a loop with a beginning, a condition and a step. -/
def counting : Nat → Reader Statement
  | 0 => refuse
  | fuel + 1 => do
    let first ← expression?
    separator
    let c ← expression?
    separator
    let step ← if ← seesSign ")" then pure none else pure (some (← wholeExpression))
    expect ")"
    skipNewline
    let body ← inLoop (statement fuel)
    pure (.block (first.toList.map Statement.evaluate ++ [.loop c step body]))

/-- Reads an expression as a statement. -/
def simple : Reader Statement := do
  let e ← wholeExpression
  separator
  pure (.evaluate e)

/-- Reads a block. -/
def block : Nat → Reader Statement
  | 0 => refuse
  | fuel + 1 => do
    expect "\x7b"
    statements fuel []

/-- Reads statements up to the end of a block. -/
def statements : Nat → List Statement → Reader Statement
  | 0, _ => refuse
  | fuel + 1, done => do
    if ← accept "\x7d" then pure (.block done.reverse)
    else
      let s ← statement fuel
      statements fuel (s :: done)

end

/-- Reads a block of a rule or a function. -/
def wholeBlock (setting : Setting) : Reader Statement := do
  modify fun st => { st with setting := setting }
  block (← depth)

/-! ### Functions -/

/-- Reads the names of parameters up to the closing parenthesis. -/
def parametersFrom (function : Text) : Nat → List Text → Reader (List Text)
  | 0, done => pure done.reverse
  | fuel + 1, done => do
    let s ← head
    match s.token with
    | .word name _ =>
      let w := String.ofList name
      if keywords.contains w || builtinNames.contains w then refuse
      if name == function then complain s.line .ownParameter
      if done.elem name then complain s.line (.duplicated name)
      advance
      if ← accept "," then parametersFrom function fuel (name :: done)
      else
        expect ")"
        pure (name :: done).reverse
    | _ => refuse

/-- Reads the definition of a function. -/
def definition : Reader Unit := do
  advance
  let s ← head
  match s.token with
  | .word name _ =>
    let w := String.ofList name
    if keywords.contains w || builtinNames.contains w then refuse
    if (← get).globals.contains name then
      throw (⟨s.line, .reference "variable".toList name⟩ :: (← get).complaints).reverse
    advance
    expect "("
    let l ← if ← accept ")" then pure [] else parametersFrom name (← depth) []
    skipNewline
    let f ← functionOf name
    match (← get).functions[f]? with
    | some ⟨_, some _, _, _⟩ => complain s.line (.redefined name)
    | _ => pure ()
    modify fun st => { st with
      current := some f
      parameters := l
      functions := st.functions.modify f fun f =>
        { f with parameters := some l, kinds := Array.replicate l.length .unknown } }
    let body ← wholeBlock .function
    modify fun st => { st with
      current := none
      parameters := []
      functions := st.functions.modify f fun f => { f with body := body } }
  | _ => refuse

/-! ### Scripts -/

/-- The statement of a rule without one. -/
def printRecord : Statement := .print [] none

/-- Reads what is done with records. -/
def rule : Reader Rule := do
  if ← seesSign "\x7b" then pure ⟨.always, ← wholeBlock .rule⟩
  else
    let e ← wholeExpression
    let c ← if ← accept "," then do
        let last ← wholeExpression
        let n := (← get).ranges
        modify fun st => { st with ranges := n + 1 }
        pure (Condition.between e last n)
      else pure (.when e)
    if ← seesSign "\x7b" then pure ⟨c, ← wholeBlock .rule⟩
    else
      separator
      pure ⟨c, printRecord⟩

/-- Reads the parts of a script, so many at most. -/
def items : Nat → Script → Reader Script
  | 0, s => pure s
  | fuel + 1, s => do
    match (← head).token with
    | .finish => pure s
    | .word ['B', 'E', 'G', 'I', 'N'] _ =>
      advance
      let b ← wholeBlock .before
      items fuel { s with before := b :: s.before }
    | .word ['E', 'N', 'D'] _ =>
      advance
      let b ← wholeBlock .behind
      items fuel { s with behind := b :: s.behind }
    | .word name _ =>
      if name == "function".toList then
        definition
        items fuel s
      else
        let r ← rule
        items fuel { s with rules := r :: s.rules }
    | _ =>
      let r ← rule
      items fuel { s with rules := r :: s.rules }

/-- Lets an argument and a parameter tell each other whether they are tables. -/
def matchKinds (c : CallSite) : Nat → List (Option Variable) → Reader Unit
  | _, [] => pure ()
  | n, none :: rest => matchKinds c (n + 1) rest
  | n, some v :: rest => do
    let actual ← kindOf c.caller v
    let formal ← kindOf (some c.callee) (.own n)
    if actual = .unknown && formal ≠ .unknown then setKind c.caller v formal
    if formal = .unknown && actual ≠ .unknown then setKind (some c.callee) (.own n) actual
    matchKinds c (n + 1) rest

/-- Complains about arguments that are not what a parameter is. -/
def checkKinds (c : CallSite) (name : Text) : Nat → List (Option Variable) → Reader Unit
  | _, [] => pure ()
  | n, a :: rest => do
    let actual ← match a with
      | some v => kindOf c.caller v
      | none => pure .value
    let formal ← kindOf (some c.callee) (.own n)
    if actual ≠ formal && actual ≠ .unknown && formal ≠ .unknown then
      let wording (k : Kind) : Text := k.wording (.own 0)
      complain c.line (.argument (n + 1) name (wording actual) (wording formal))
    checkKinds c name (n + 1) rest

/-- Finds out what names stand for that are only handed on. -/
def inferKinds : Nat → Reader Unit
  | 0 => pure ()
  | fuel + 1 => do
    (← get).calls.reverse.forM fun c => matchKinds c 0 c.arguments
    inferKinds fuel

/-- Checks all calls when everything is read. -/
def checkCalls : Reader Unit := do
  let st ← get
  let calls := st.calls.reverse
  calls.forM fun c => do
    match st.functions[c.callee]? with
    | some ⟨name, some l, _, _⟩ =>
      if c.arguments.length > l.length then complain c.line (.tooMany name)
    | _ => pure ()
  let line := (← head).line
  st.functions.toList.reverse.forM fun f => do
    if f.parameters.isNone then complain line (.neverDefined f.name)
  inferKinds (calls.length + 1)
  calls.forM fun c => do
    match st.functions[c.callee]? with
    | some f => checkKinds c f.name 0 c.arguments
    | none => pure ()

/-- Reads a whole script. -/
def script : Reader Script := do
  let s ← items ((← get).rest.length + 1) ⟨#[], #[], #[], [], [], [], 0⟩
  checkCalls
  let st ← get
  if !st.complaints.isEmpty then throw st.complaints.reverse
  let functions := st.functions.map fun f =>
    (⟨f.name, f.kinds.map (· == .table), f.body⟩ : Function)
  pure ⟨st.names, st.kinds.map (· == .table), functions, s.before.reverse, s.rules.reverse,
    s.behind.reverse, st.ranges⟩

end Reader

/-- Reads a script, or says what is wrong with it. -/
def Script.read (t : Text) : Except (List Complaint) Script := do
  let (rest, complaints) ← Reader.settled [] (tokens t)
  let names := reservedNames.map String.toList
  let kindOf (name : String) : Kind := if reservedTables.contains name then .table else .value
  let start : Reading :=
    ⟨rest, 0, 0, Std.HashMap.ofList (names.zip (List.range names.length)), names.toArray,
      (reservedNames.map kindOf).toArray, #[], none, [], .rule, 0, 0, [], complaints⟩
  let (s, _) ← Reader.script.run start
  pure s

end Console.Host.Tool.Awk
