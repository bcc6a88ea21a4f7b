import Console.Host.Tool.Find.Expression
import Console.Host.Tool.Identity

/-! Reading of what is asked and done at each place: words become questions, actions and operators,
    and these become one expression. Negation binds closest, then come `-a`, `-o` and the comma. -/

namespace Console.Host.Tool.Find

open Work

/-- What holds for a search as a whole. -/
structure Settings where
  follows : Bool
  /-- Whether links are followed that are operands. -/
  followsOperands : Bool
  least : Nat
  most : Option Nat
  /-- Whether directories come behind what is in them. -/
  isDeep : Bool
  dialect : Option Regex.Dialect
  /-- Whether a place is written without being asked for. -/
  isPlain : Bool
  gathered : Nat
  /-- Whether the last question was one about a name, and how it was written. -/
  last : Option Text

/-- The settings without options. -/
def Settings.usual : Settings := ⟨false, false, 0, none, false, none, true, 0, none⟩

/-- Reads words, of which the settings may change. -/
abbrev Reader (α : Type) := StateT (Settings × List Text) Work α

/-- A word as an expression is put together from it. -/
inductive Token where
  | primary (e : Expression)
  | negation (name : Text)
  | binary (name : Text)
  | opening
  | closing

/-! ### Words -/

/-- Whether a word begins an expression. -/
def beginsExpression (isFirst : Bool) (t : Text) : Bool :=
  match t with
  | '-' :: _ :: _ => true
  | ['('] | ['!'] => true
  | [')'] | [','] => !isFirst
  | _ => false

/-- A name in messages. -/
def spelled (t : Text) : Text := '\x60' :: t ++ ['\'']

/-- Ends the search because of its words. -/
def refuse {α : Type} (t : Text) : Reader α := fun _ => giveUp t

/-- Does some work while words are read. -/
def work {α : Type} (w : Work α) : Reader α := fun st => do pure (← w, st)

/-- Takes the argument of a word. -/
def argument (name : Text) : Reader Text := do
  match ← get with
  | (s, t :: rest) =>
    set (s, rest)
    pure t
  | (_, []) => refuse ("missing argument to ".toList ++ spelled name)

/-- Changes the settings. -/
def setting (f : Settings → Settings) : Reader Unit := modify fun (s, l) => (f s, l)

/-- A number with a sign in front that says how it compares. -/
def compared? (t : Text) : Option (Comparison × Nat) :=
  let (c, digits) : Comparison × Text := match t with
    | '+' :: rest => (.more, rest)
    | '-' :: rest => (.less, rest)
    | t => (.equal, t)
  (Text.toNat? digits).map fun n => (c, n)

/-- Takes a number that compares. -/
def comparedArgument (name : Text) : Reader (Comparison × Nat) := do
  let t ← argument name
  match compared? t with
  | some r => pure r
  | none => refuse ("invalid argument ".toList ++ spelled t ++ " to ".toList ++ spelled name)

/-- Takes a number of levels. -/
def levels (name : Text) : Reader Nat := do
  let t ← argument name
  match Text.toNat? t with
  | some n => pure n
  | none =>
    refuse ("Expected a positive decimal integer argument to ".toList ++ name ++
      ", but got ".toList ++ quoted t)

/-- Takes the size in units. -/
def sizeArgument : Reader Question := do
  let t ← argument "-size".toList
  match t.getLast? with
  | none => refuse "invalid null argument to -size".toList
  | some c =>
    let unit : Option Nat := match c with
      | 'b' => some 512
      | 'c' => some 1
      | 'w' => some 2
      | 'k' => some 1024
      | 'M' => some 1048576
      | 'G' => some 1073741824
      | c => if c.isDigit then some 512 else none
    match unit, compared? (if c.isDigit then t else t.dropLast) with
    | none, _ => refuse ("invalid -size type ".toList ++ spelled [c])
    | some unit, some (c, n) => pure (.size c n unit)
    | some _, none => refuse ("Invalid argument ".toList ++ spelled t ++ " to -size".toList)

/-- Takes letters of kinds with commas between them. -/
def kindArgument (name : Text) : Reader (List Char) := do
  let t ← argument name
  let rec go (seen : List Char) : Text → Reader (List Char)
    | [] => refuse ("Arguments to ".toList ++ name ++ " should contain at least one letter".toList)
    | c :: rest => do
      if !"bcdpflsD".toList.elem c then
        refuse ("Unknown argument to ".toList ++ name ++ ": ".toList ++ [c])
      if seen.contains c then
        refuse ("Duplicate file type '".toList ++ [c] ++
          "' in the argument list to ".toList ++ name ++ ['.'])
      match rest with
      | [] => pure (c :: seen)
      | [','] =>
        refuse ("Last file type in list argument to ".toList ++ name ++
          " is missing, i.e., list is ending on: ','".toList)
      | ',' :: rest => go (c :: seen) rest
      | _ =>
        refuse ("Must separate multiple arguments to ".toList ++ name ++ " using: ','".toList)
  go [] t

/-- Takes a mode with a sign in front that says how bits compare. -/
def modeArgument : Reader Question := do
  let t ← argument "-perm".toList
  let (b, rest) : Bits × Text := match t with
    | '-' :: rest => (.all, rest)
    | '/' :: rest => (.any, rest)
    | t => (.exactly, t)
  match Mode.change? rest with
  | some f => pure (.mode b (f false 0 0))
  | none => refuse ("invalid mode ".toList ++ quoted t)

/-- Takes a file, and answers its node. -/
def fileArgument (name : Text) : Reader (Nat × Node) := do
  let t ← argument name
  let follows := (← get).1.follows
  match ← work (if follows then nodeBehind t else nodeAt t) with
  | .ok found => pure found
  | .error e => refuse (quoted t ++ ": ".toList ++ e.wording)

/-- Takes a file to be written, and answers its descriptor. -/
def outputArgument (name : Text) : Reader Nat := do
  let t ← argument name
  match ← work (step (Prog.open_ 3 t .writing Prog.openMode)) with
  | .ok d => pure d
  | .error e => refuse (quoted t ++ ": ".toList ++ e.wording)

/-- The dialects of regular expressions. The first of them has its own groups and counts. -/
def dialects : List (String × Option Regex.Dialect) :=
  let basic : Option Regex.Dialect := some Regex.Dialect.basic
  let extended : Option Regex.Dialect := some { Regex.Dialect.basic with extended := true }
  [("findutils-default", none), ("ed", basic), ("emacs", none), ("gnu-awk", extended),
    ("grep", basic), ("posix-awk", extended), ("awk", extended), ("posix-basic", basic),
    ("posix-egrep", extended), ("egrep", extended), ("posix-extended", extended),
    ("posix-minimal-basic", basic), ("sed", basic)]

/-- A regular expression with backslashes in front of groups and alternatives, but not of signs for
    repetition, in the extended form. -/
def extendedForm : Nat → Text → Text
  | 0, t => t
  | _ + 1, [] => []
  | fuel + 1, '\\' :: c :: rest =>
    (if "()|".toList.elem c then [c] else ['\\', c]) ++ extendedForm fuel rest
  | fuel + 1, '[' :: rest =>
    let (front, inner) : Text × Text := match rest with
      | '^' :: ']' :: rest => ("[^]".toList, rest)
      | '^' :: rest => ("[^".toList, rest)
      | ']' :: rest => ("[]".toList, rest)
      | rest => ("[".toList, rest)
    let set := inner.takeWhile (· != ']')
    front ++ set ++ inner.drop set.length |>.take (front.length + set.length + 1)
      |> (· ++ extendedForm fuel (inner.drop (set.length + 1)))
  | fuel + 1, c :: rest =>
    (if "()|\x7b\x7d".toList.elem c then ['\\', c] else [c]) ++ extendedForm fuel rest

/-- Takes a regular expression. -/
def expressionArgument (name : Text) (ignoresCase : Bool) : Reader Question := do
  let t ← argument name
  let compiled := match (← get).1.dialect with
    | some d => Regex.compile { d with ignoresCase := ignoresCase } false t
    | none =>
      Regex.compile { Regex.Dialect.basic with extended := true, ignoresCase := ignoresCase } false
        (extendedForm (t.length + 1) t)
  match compiled with
  | .ok m => pure (.expression m)
  | .error e =>
    refuse ("failed to compile regular expression ".toList ++ quoted t ++ ": ".toList ++
      e.message.toList)

/-- What is said about a format: what it has that means nothing, or that it cannot be used. -/
def formatReports : Nat → Text → Except Text (List Text)
  | 0, _ => .ok []
  | _ + 1, [] => .ok []
  | fuel + 1, '\\' :: c :: rest => do
    if c = 'c' then pure []
    else
      let l ← formatReports fuel rest
      pure (if "abfnrtv\\01234567".toList.elem c then l
        else ("warning: unrecognized escape ".toList ++ spelled ['\\', c]) :: l)
  | fuel + 1, '%' :: rest =>
    match rest.dropWhile fun c => "-+ #0.".toList.elem c || c.isDigit with
    | [] => .error "error: % at end of format string".toList
    | c :: rest =>
      if "ACT".toList.elem c then
        match rest with
        | [] =>
          .ok ["warning: format directive ".toList ++ spelled ['%', c] ++
            " should be followed by another character".toList]
        | _ :: rest => formatReports fuel rest
      else do
        let l ← formatReports fuel rest
        pure (if "%pfhPHsmMyYdlnugUGikbDFSact".toList.elem c then l
          else ("warning: unrecognized format directive ".toList ++ spelled ['%', c]) :: l)
  | fuel + 1, _ :: rest => formatReports fuel rest

/-- Takes a format. -/
def formatArgument (name : Text) : Reader Text := do
  let t ← argument name
  match formatReports (t.length + 1) t with
  | .error e => refuse e
  | .ok l =>
    work (l.forM mutter)
    pure t

/-- The braces for which a path is put in. -/
def braces : Text := ['\x7b', '\x7d']

/-- Takes a command up to its end, and whether it is for many places at once. -/
def commandArgument (name : Text) (canGather : Bool) : Reader (List Text × Bool) := do
  let (s, l) ← get
  let rec go (before : Option Text) : List Text → List Text → Option (List Text × Bool × List Text)
    | _, [] => none
    | words, t :: rest =>
      if t = [';'] then some (words.reverse, false, rest)
      else if canGather && t = ['+'] && before == some braces then some (words.reverse, true, rest)
      else go (some t) (t :: words) rest
  match go none [] l with
  | none | some ([], _, _) => refuse ("missing argument to ".toList ++ spelled name)
  | some (words, gathers, rest) =>
    if gathers && (words.filter fun w => Text.contains braces w).length > 1 then
      refuse ("Only one instance of \x7b\x7d is supported with ".toList ++ name ++ " ... +".toList)
    set (s, rest)
    pure (words, gathers)

/-! ### Tokens -/

/-- An action that writes or changes something, so that a place is not written without being asked
    for. -/
def acting (a : Action) : Reader Token := do
  setting fun s => { s with isPlain := false }
  pure (.primary (.act a))

/-- Something that always holds. -/
def nothing : Token := .primary (.ask (.always true))

/-- A command as a token. -/
def commandToken (name : Text) (isInside asks : Bool) : Reader Token := do
  let (words, gathers) ← commandArgument name (!asks)
  if gathers then
    let n := (← get).1.gathered
    setting fun s => { s with gathered := n + 1 }
    acting (.gather n words.dropLast isInside)
  else acting (.run words isInside asks)

/-- A question whether a place was changed later than something. -/
def laterToken (name : Text) : Reader Token := do
  match name.drop "-newer".length with
  | [] => do
    let (_, node) ← fileArgument name
    pure (.primary (.ask (.later node.modified)))
  | [x, y] =>
    if !"aBcm".toList.elem x || !"aBcmt".toList.elem y then
      refuse ("invalid predicate ".toList ++ spelled name)
    else if y = 't' then do
      let t ← argument name
      match Clock.ofText? (← work (look fun fs _ => fs.now)) t with
      | some time => pure (.primary (.ask (.later time)))
      | none =>
        refuse ("I cannot figure out how to interpret ".toList ++ quoted t ++
          " as a date or time".toList)
    else do
      let (_, node) ← fileArgument name
      pure (.primary (.ask (.later node.modified)))
  | _ => refuse ("invalid predicate ".toList ++ spelled name)

/-- A question about the age of a place. -/
def ageToken (name : Text) : Reader Token := do
  let (c, n) ← comparedArgument name
  let isDay := name.drop 2 == "time".toList
  pure (.primary (.ask (.age c n ((if isDay then 86400 else 60) * Clock.second) isDay)))

/-- A question about the user or the group of a place. -/
def userToken (name : Text) (isGroup : Bool) : Reader Token := do
  let t ← argument name
  let known : Option Nat := if isGroup then
      (users.find? fun (_, _, group, _) => group.toList == t).map fun (_, _, _, n) => n
    else (users.find? fun (user, _) => user.toList == t).map fun (_, n, _) => n
  match known.orElse fun _ => Text.toNat? t with
  | some n => pure (.primary (.ask (.user .equal n)))
  | none =>
    refuse (quoted t ++ (if isGroup then " is not the name of an existing group".toList
      else " is not the name of a known user".toList))

/-- The questions that are patterns. -/
def patternQuestions : List (String × (Text → Question)) :=
  [("-name", fun t => .name t false), ("-iname", fun t => .name t true),
    ("-path", fun t => .path t false), ("-wholename", fun t => .path t false),
    ("-ipath", fun t => .path t true), ("-iwholename", fun t => .path t true),
    ("-lname", fun t => .link t false), ("-ilname", fun t => .link t true)]

/-- The token of a word. -/
def token (name : Text) : Reader Token := do
  let ask (q : Question) : Reader Token := pure (.primary (.ask q))
  match patternQuestions.lookup (String.ofList name) with
  | some f => do ask (f (← argument name))
  | none =>
  match String.ofList name with
  | "(" => pure .opening
  | ")" => pure .closing
  | "!" | "-not" => pure (.negation name)
  | "-a" | "-and" | "-o" | "-or" | "," => pure (.binary name)
  | "-true" => ask (.always true)
  | "-false" | "-nouser" | "-nogroup" => ask (.always false)
  | "-readable" | "-writable" => ask (.always true)
  | "-executable" => ask .runnable
  | "-empty" => ask .empty
  | "-regex" => do ask (← expressionArgument name false)
  | "-iregex" => do ask (← expressionArgument name true)
  | "-type" => do ask (.kind (← kindArgument name))
  | "-xtype" => do ask (.leadsTo (← kindArgument name))
  | "-size" => do ask (← sizeArgument)
  | "-perm" => do ask (← modeArgument)
  | "-links" => do
    let (c, n) ← comparedArgument name
    ask (.links c n)
  | "-inum" => do
    let (c, n) ← comparedArgument name
    ask (.number c n)
  | "-uid" | "-gid" => do
    let (c, n) ← comparedArgument name
    ask (.user c n)
  | "-user" => userToken name false
  | "-group" => userToken name true
  | "-fstype" => do ask (.always ((← argument name) == "ext4".toList))
  | "-samefile" => do
    let (n, _) ← fileArgument name
    ask (.same n)
  | "-newer" | "-anewer" | "-cnewer" => do
    let (_, node) ← fileArgument name
    ask (.later node.modified)
  | "-mtime" | "-atime" | "-ctime" | "-mmin" | "-amin" | "-cmin" => ageToken name
  | "-used" => do
    let (c, n) ← comparedArgument name
    ask (.always (c.holds 0 n))
  | "-maxdepth" => do
    let n ← levels name
    setting fun s => { s with most := some n }
    pure nothing
  | "-mindepth" => do
    let n ← levels name
    setting fun s => { s with least := n }
    pure nothing
  | "-depth" | "-d" => do
    setting fun s => { s with isDeep := true }
    pure nothing
  | "-follow" => do
    setting fun s => { s with follows := true }
    pure nothing
  | "-xdev" | "-mount" | "-noleaf" | "-daystart" | "-warn" | "-nowarn" | "-ignore_readdir_race" |
    "-noignore_readdir_race" => pure nothing
  | "-regextype" => do
    let t ← argument name
    match dialects.lookup (String.ofList t) with
    | some d =>
      setting fun s => { s with dialect := d }
      pure nothing
    | none =>
      refuse ("Unknown regular expression type ".toList ++ quoted t ++
        "; valid types are ".toList ++
        Text.join [',', ' '] (dialects.map fun (name, _) => quoted name.toList) ++ ['.'])
  | "-print" => acting (.print 1 '\n')
  | "-print0" => acting (.print 1 '\x00')
  | "-printf" => do acting (.format 1 (← formatArgument name))
  | "-ls" => acting (.list 1)
  | "-fprint" => do acting (.print (← outputArgument name) '\n')
  | "-fprint0" => do acting (.print (← outputArgument name) '\x00')
  | "-fprintf" => do
    let d ← outputArgument name
    acting (.format d (← formatArgument name))
  | "-fls" => do acting (.list (← outputArgument name))
  | "-delete" => do
    setting fun s => { s with isDeep := true }
    acting .delete
  | "-prune" => pure (.primary (.act .prune))
  | "-quit" => pure (.primary (.act .quit))
  | "-exec" => commandToken name false false
  | "-execdir" => commandToken name true false
  | "-ok" => commandToken name false true
  | "-okdir" => commandToken name true true
  | _ =>
    if "-newer".toList.isPrefixOf name then laterToken name
    else refuse ("unknown predicate ".toList ++ spelled name)

/-- Reads so many tokens at most. -/
def tokens : Nat → Reader (List Token)
  | 0 => pure []
  | fuel + 1 => do
    let (s, l) ← get
    match l with
    | [] => pure []
    | t :: rest =>
      if !beginsExpression false t then
        let isThere ← work (look fun fs base => (fs.find? base t).isSome)
        work (mutter ("paths must precede expression: ".toList ++ spelled t))
        match s.last with
        | some name =>
          if isThere then
            refuse ("possible unquoted pattern after predicate ".toList ++ spelled name ++ ['?'])
        | none => pure ()
        work (stop 1)
      else
        let isPattern := (patternQuestions.lookup (String.ofList t)).isSome
        set ({ s with last := if isPattern then some t else none }, rest)
        let first ← token t
        pure (first :: (← tokens fuel))

/-! ### Expressions -/

/-- Puts in the operators that are left out. -/
def withOperators : List Token → List Token
  | a :: b :: rest =>
    let ends := match a with
      | .primary _ | .closing => true
      | _ => false
    let begins := match b with
      | .primary _ | .opening | .negation _ => true
      | _ => false
    if ends && begins then a :: .binary "-a".toList :: withOperators (b :: rest)
    else a :: withOperators (b :: rest)
  | l => l

/-- How closely an operator binds. -/
def binding (name : Text) : Nat :=
  match String.ofList name with
  | "," => 1
  | "-o" | "-or" => 2
  | _ => 3

/-- Two expressions with an operator between them. -/
def joined (name : Text) (a b : Expression) : Expression :=
  match binding name with
  | 1 => .behind a b
  | 2 => .either a b
  | _ => .both a b

mutual

/-- Takes an expression whose operators bind more closely than a number says. Behind an operator
    its name is known. -/
def expression (isPlain : Bool) : Nat → Nat → Option Text → List Token →
    Except Text (Expression × List Token)
  | 0, _, _, _ => .error "invalid expression".toList
  | fuel + 1, least, before, l => do
    let (first, rest) ← operand isPlain fuel before l
    operators isPlain fuel least first rest

/-- Takes an operand of an operator. -/
def operand (isPlain : Bool) : Nat → Option Text → List Token →
    Except Text (Expression × List Token)
  | 0, _, _ => .error "invalid expression".toList
  | fuel + 1, before, l => do
    match l with
    | [] =>
      match before with
      | some name =>
        throw (if isPlain then "expected an expression after ".toList ++ quoted name
          else "invalid expression".toList)
      | none => throw "invalid expression".toList
    | .primary e :: rest => pure (e, rest)
    | .negation name :: rest =>
      let (e, rest) ← expression isPlain fuel 4 (some name) rest
      pure (.not e, rest)
    | .binary name :: _ =>
      throw ("invalid expression; you have used a binary operator ".toList ++ quoted name ++
        " with nothing before it.".toList)
    | .closing :: _ =>
      match before with
      | some name =>
        throw ("expected an expression between ".toList ++ quoted name ++ " and ')'".toList)
      | none => throw "invalid expression; you have too many ')'".toList
    | .opening :: rest =>
      match rest with
      | [] =>
        throw ("invalid expression; expected to find a ')' but didn't see one. ".toList ++
          "Perhaps you need an extra predicate after '('".toList)
      | .closing :: _ =>
        throw "invalid expression; empty parentheses are not allowed.".toList
      | rest =>
        let (e, rest) ← expression isPlain fuel 0 none rest
        match rest with
        | .closing :: rest => pure (e, rest)
        | _ =>
          throw ("invalid expression; I was expecting to find a ')' somewhere ".toList ++
            "but did not see one.".toList)

/-- Takes operators behind an expression as long as they bind closely enough. -/
def operators (isPlain : Bool) : Nat → Nat → Expression → List Token →
    Except Text (Expression × List Token)
  | 0, _, e, l => .ok (e, l)
  | fuel + 1, least, e, l => do
    match l with
    | .binary name :: rest =>
      if binding name > least then
        let (f, rest) ← expression isPlain fuel (binding name) (some name) rest
        operators isPlain fuel least (joined name e f) rest
      else pure (e, l)
    | l => pure (e, l)

end

/-- The expression of some tokens. A place is written if nothing else is done. -/
def expressionOf (isPlain : Bool) (l : List Token) : Except Text Expression := do
  let print : Expression := .act (.print 1 '\n')
  let l := withOperators l
  if l.isEmpty then pure print
  else
    let (e, rest) ← expression isPlain (8 * l.length + 8) 0 none l
    if rest.isEmpty then pure (if isPlain then .both e print else e)
    else throw "you have too many ')'".toList

/-- Reads the options in front of the paths. -/
def leadingOptions : Settings → List Text → Work (Settings × List Text)
  | s, [] => pure (s, [])
  | s, t :: rest => do
    match String.ofList t with
    | "-L" => leadingOptions { s with follows := true, followsOperands := true } rest
    | "-H" => leadingOptions { s with follows := false, followsOperands := true } rest
    | "-P" => leadingOptions { s with follows := false, followsOperands := false } rest
    | "--" => pure (s, rest)
    | "-D" =>
      match rest with
      | [] => misuse "Missing argument after the -D option.".toList
      | _ :: rest => leadingOptions s rest
    | _ =>
      match t with
      | '-' :: 'O' :: level =>
        if level.isEmpty || !level.all Char.isDigit then
          giveUp "Please specify a decimal number immediately after -O".toList
        else leadingOptions s rest
      | _ => pure (s, t :: rest)

end Console.Host.Tool.Find
