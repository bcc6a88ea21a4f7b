import Console.Text.Basic

/-! Scripts of the command language as trees. A word is a list of parts, and what is quoted in it is
    told apart, because only what is not quoted is split into fields and matched against files. -/

namespace Console.Host

mutual

/-- A part of a word. -/
inductive Part where
  /-- Characters outside quotes. -/
  | plain (t : Text)
  /-- Characters in quotes; with none of them there is a field all the same. -/
  | quoted (t : Text)
  /-- The value of a parameter. -/
  | parameter (name : Text) (use : Use) (inQuotes : Bool)
  /-- The output of a script. -/
  | output (script : List Command) (inQuotes : Bool)
  /-- The value of an arithmetic expression. -/
  | arithmetic (expression : List Part) (inQuotes : Bool)

/-- What is made of the value of a parameter. With `filled`, an empty value counts as unset. -/
inductive Use where
  | value
  | length
  | orElse (filled : Bool) (other : List Part)
  | orAssign (filled : Bool) (other : List Part)
  | orFail (filled : Bool) (message : List Part)
  | ifSet (filled : Bool) (other : List Part)
  /-- What no rule allows. -/
  | malformed
  /-- The value without the shortest or longest beginning or end that matches a pattern. -/
  | without (atEnd longest : Bool) (pattern : List Part)

/-- What becomes of a descriptor. -/
inductive Redirection where
  | input (descriptor : Nat) (path : List Part)
  /-- The file is made empty, even where files are protected if `forced`. -/
  | output (descriptor : Nat) (path : List Part) (forced : Bool)
  | append (descriptor : Nat) (path : List Part)
  /-- The file is read and written from its beginning. -/
  | update (descriptor : Nat) (path : List Part)
  /-- The descriptor becomes a copy of another, or is closed. -/
  | copy (descriptor : Nat) (source : List Part)
  /-- The descriptor reads text of the script, which is found by its number. -/
  | document (descriptor number : Nat)

/-- A command. -/
inductive Command where
  /-- Assignments, words and redirections, and the line on which they stand. -/
  | simple (line : Nat) (assignments : List (Text × List Part)) (words : List (List Part))
      (redirections : List Redirection)
  | negated (command : Command)
  | pipeline (commands : List Command)
  | both (first second : Command)
  | either (first second : Command)
  | background (line : Nat) (command : Command)
  | group (commands : List Command)
  | subshell (line : Nat) (commands : List Command) (redirections : List Redirection)
  | redirected (line : Nat) (command : Command) (redirections : List Redirection)
  | branch (condition yes no : List Command)
  /-- Repeats while the condition succeeds, or until it does. -/
  | loop (inverted : Bool) (condition body : List Command)
  /-- Runs the body for each word, or for each positional parameter. -/
  | each (line : Nat) (name : Text) (words : Option (List (List Part))) (body : List Command)
  | choice (line : Nat) (word : List Part) (clauses : List (List (List Part) × List Command))
  | function (line : Nat) (name : Text) (body : Command)

end

/-- A word of a script. -/
abbrev Word := List Part

/-- The text of a word without quotes and parameters. -/
def plainText? : Word → Option Text
  | [] => some []
  | .plain t :: rest => (plainText? rest).map (t ++ ·)
  | _ :: _ => none

/-- Whether something in a word is quoted. -/
def hasQuotes (w : Word) : Bool :=
  w.any fun
    | .quoted _ => true
    | _ => false

/-! ### Names -/

/-- The characters that can begin a name. -/
def isNameStart (c : Char) : Bool := c.isAlpha || c == '_'

/-- The characters of a name. -/
def isNameChar (c : Char) : Bool := c.isAlphanum || c == '_'

/-- Whether a text is a name. -/
def isName (t : Text) : Bool := t.head?.any isNameStart && t.all isNameChar

/-- The name and the value of a word that assigns. -/
def assignment? (w : Word) : Option (Text × Word) :=
  match w with
  | .plain t :: rest =>
    let name := t.takeWhile isNameChar
    match t.drop name.length with
    | '=' :: value =>
      if isName name then some (name, if value.isEmpty then rest else .plain value :: rest)
      else none
    | _ => none
  | _ => none

/-- The parameters of one sign. -/
def isSpecial (c : Char) : Bool := "@*#?-$!".toList.contains c

/-- The words with a meaning of their own where a command can begin. -/
def reserved : List Text :=
  ["!", "case", "do", "done", "elif", "else", "esac", "fi", "for", "if", "in", "then", "until",
    "while", "\x7b", "\x7d"].map String.toList

/-- The commands whose assignments last, and whose failures end the script. -/
def specialNames : List Text :=
  [":", ".", "break", "continue", "eval", "exec", "exit", "export", "local", "readonly", "return",
    "set", "shift", "times", "trap", "unset"].map String.toList

end Console.Host
