import Console.Host.Script

/-! The text of a script while it is read: what is left of it, on which line that is, and the texts
    of aliases that have been put in front of it. Tokens are the words and signs of the grammar. -/

namespace Console.Host

/-- A word or sign. -/
inductive Token where
  | endOfText
  | newline
  /-- A sign such as a semicolon. -/
  | sign (t : Text)
  /-- The beginning of a redirection, which the word behind it completes. -/
  | redirection (descriptor : Nat) (sign : Text)
  | word (w : Word)
  /-- A word with a meaning of its own, where one can stand. -/
  | keyword (t : Text)

namespace Token

/-- Whether a token is a sign. -/
def isSign (token : Token) (s : String) : Bool :=
  match token with
  | .sign t => t == s.toList
  | _ => false

/-- Whether a token is a reserved word. -/
def isKeyword (token : Token) (s : String) : Bool :=
  match token with
  | .keyword t => t == s.toList
  | _ => false

/-- How a token is named in a message. -/
def name : Token → Text
  | .endOfText => "end of file".toList
  | .newline => "newline".toList
  | .sign t | .keyword t => '"' :: t ++ ['"']
  | .redirection _ _ => "redirection".toList
  | .word _ => "word".toList

/-- Whether a list of commands ends before a token. -/
def endsList : Token → Bool
  | .endOfText => true
  | .sign t => t == [')'] || t == ";;".toList
  | .keyword t =>
    !(["!", "case", "for", "if", "in", "until", "while", "\x7b"].map String.toList).contains t
  | _ => false

end Token

/-- Why a script cannot be read. -/
inductive Misreading where
  | unexpected (found : Text) (wanted : Option Text)
  | unterminatedQuote
  | unterminatedBackquote
  | missing (mark : Text)
  | badLoopVariable
  | badFunctionName
  deriving DecidableEq, Repr

/-- The wording of a misreading. -/
def Misreading.message : Misreading → Text
  | .unexpected found none => found ++ " unexpected".toList
  | .unexpected found (some wanted) =>
    found ++ " unexpected (expecting ".toList ++ wanted ++ ")".toList
  | .unterminatedQuote => "Unterminated quoted string".toList
  | .unterminatedBackquote => "EOF in backquote substitution".toList
  | .missing mark => "Missing '".toList ++ mark ++ "'".toList
  | .badLoopVariable => "Bad for loop variable".toList
  | .badFunctionName => "Bad function name".toList

/-- A misreading with the line on which it was noticed. -/
structure SyntaxFault where
  cause : Misreading
  line : Nat

/-- The text of an alias that is being read. -/
structure Inset where
  name : Text
  /-- How much is left when the text of the alias has been read. -/
  ends : Nat
  /-- Whether the text ends with a blank, so that the next word can be an alias too. -/
  endsBlank : Bool

/-- A document that begins on the next line. -/
structure Awaited where
  number : Nat
  mark : Text
  dropsTabs : Bool
  /-- Whether parameters in it are replaced. -/
  expands : Bool

/-- A script while it is read. -/
structure Source where
  rest : Text
  /-- The length of the rest. -/
  left : Nat
  line : Nat
  aliases : List (Text × Text)
  insets : List Inset
  /-- The aliases that surround the text as a whole. -/
  blocked : List Text
  /-- Whether the end of an alias lets the next word be an alias. -/
  aliasNext : Bool
  /-- The token that was read last, and whether it is to be read again. -/
  last : Token
  isBack : Bool
  /-- The word that was read last. -/
  lastWord : Word
  awaited : List Awaited
  documents : List (Nat × List Part)
  nextDocument : Nat

/-- Reads from the left. -/
abbrev Reader (α : Type) := StateT Source (Except SyntaxFault) α

/-- A text that is to be read. -/
def Source.ofText (t : Text) (aliases : List (Text × Text)) (nextDocument : Nat) : Source where
  rest := t
  left := t.length
  line := 1
  aliases := aliases
  insets := []
  blocked := []
  aliasNext := false
  last := .endOfText
  isBack := false
  lastWord := []
  awaited := []
  documents := []
  nextDocument := nextDocument

namespace Reader

/-- Stops with a misreading on the line that is read. -/
def fail {α : Type} (cause : Misreading) : Reader α := do throw ⟨cause, (← get).line⟩

/-- The next character, which is not yet taken. -/
def peek : Reader (Option Char) := do
  let s ← get
  if s.insets.any fun i => i.ends == s.left && i.endsBlank then set { s with aliasNext := true }
  pure s.rest.head?

/-- Takes the next character. -/
def skip : Reader Unit := modify fun s =>
  match s.rest with
  | [] => s
  | c :: rest => { s with
      rest := rest
      left := s.left - 1
      line := if c = '\n' then s.line + 1 else s.line
      insets := if s.insets.isEmpty then [] else s.insets.filter fun i => i.ends < s.left }

/-- Drops lines that a backslash continues, and answers the next character. -/
def peekJoined : Nat → Reader (Option Char)
  | 0 => peek
  | fuel + 1 => do
    match (← get).rest with
    | '\\' :: '\n' :: _ =>
      skip
      skip
      peekJoined fuel
    | _ => peek

/-- Takes characters as long as they pass a check. -/
def takeWhile (check : Char → Bool) : Nat → Reader Text
  | 0 => pure []
  | fuel + 1 => do
    match ← peekJoined fuel with
    | some c =>
      if check c then
        skip
        pure (c :: (← takeWhile check fuel))
      else pure []
    | none => pure []

/-- Takes characters up to the first of a kind, without joining lines; that one stays. -/
def takeUntil (stops : Char → Bool) : Reader Text := do
  let t := (← get).rest.takeWhile fun c => !stops c
  t.forM fun _ => skip
  pure t

/-- Puts the text of an alias in front of the rest. -/
def inset (name value : Text) : Reader Unit := modify fun s =>
  let endsBlank := value.getLast?.any fun c => c == ' ' || c == '\t'
  { s with
    rest := value ++ s.rest
    left := s.left + value.length
    insets := ⟨name, s.left, endsBlank⟩ :: s.insets }

/-- The value of an alias, unless its own text is being read. -/
def aliasValue? (name : Text) : Reader (Option Text) := do
  let s ← get
  if s.blocked.contains name || s.insets.any (fun i => i.name == name) then pure none
  else pure (s.aliases.lookup name)

/-- Keeps the token that was read last for the next time. -/
def giveBack : Reader Unit := modify fun s => { s with isBack := true }

/-- Stops because of the token that was read last. -/
def unexpected {α : Type} (wanted : Option Text) : Reader α := do
  fail (.unexpected (← get).last.name wanted)

/-- Stops because another reserved word or sign was wanted. -/
def expecting {α : Type} (s : String) : Reader α := unexpected (some ('"' :: s.toList ++ ['"']))

end Reader

end Console.Host
