import Console.Text.Basic

/-! TOML strings as they are written. The plainest of the forms that can hold a text is taken: one
    line between double quotes, one line between single quotes, and the two forms of several lines,
    all without escapes but for the tab. A text that fits none of them is escaped. -/

namespace Console.Toml

/-- The characters that only an escape can write; tabs and newlines are not among them. -/
def isControl (c : Char) : Bool := (c < ' ' && c != '\t' && c != '\n') || c == '\x7f'

/-- Whether three of these quotes follow each other. -/
def hasTriple (quote : Char) (t : Text) : Bool := Text.contains (List.replicate 3 quote) t

/-! ### Escapes -/

/-- A hexadecimal numeral with upper-case digits. -/
def hexUpper (n : Nat) : Text := (Nat.toDigits 16 n).map Char.toUpper

/-- An escape by four hexadecimal digits. -/
def unicodeEscape (n : Nat) : Text :=
  let digits := hexUpper n
  ['\\', 'u'] ++ List.replicate (4 - digits.length) '0' ++ digits

/-- A character between double quotes; `raw` are the characters that need no escape there. -/
def escapeChar (raw : Char → Bool) (c : Char) : Text :=
  if raw c then [c]
  else if c = '\x08' then ['\\', 'b']
  else if c = '\t' then ['\\', 't']
  else if c = '\n' then ['\\', 'n']
  else if c = '\x0c' then ['\\', 'f']
  else if c = '\r' then ['\\', 'r']
  else if c = '"' then ['\\', '"']
  else if c = '\\' then ['\\', '\\']
  else if isControl c then unicodeEscape c.toNat
  else [c]

/-- A text in one line between double quotes. -/
def escapeLine (t : Text) : Text := t.flatMap (escapeChar fun _ => false)

/-- A text of several lines between double quotes, where newlines stand as they are and of three
    quotes in a row the last is escaped. `marks` is the number of quotes just written. -/
def escapeLines (marks : Nat) : Text → Text
  | [] => []
  | '"' :: rest =>
    if marks < 2 then '"' :: escapeLines (marks + 1) rest else '\\' :: '"' :: escapeLines 0 rest
  | c :: rest => escapeChar (· == '\n') c ++ escapeLines 0 rest

/-! ### Forms -/

/-- The ways to write a string. -/
inductive Form where
  | basic
  | literal
  | basicLines
  | literalLines
  deriving DecidableEq, Repr

/-- Whether a form can hold a text without escapes, a tab between double quotes apart. -/
def Form.holds (t : Text) : Form → Bool
  | .basic => t.all fun c => !isControl c && c != '\n' && c != '\\' && c != '"'
  | .literal => t.all fun c => !isControl c && c != '\n' && c != '\''
  | .basicLines => t.all (fun c => !isControl c && c != '\\') && !hasTriple '"' t
  | .literalLines => t.all (fun c => !isControl c) && !hasTriple '\'' t

/-- The form in which a text is written: the first that can hold it, and else one with escapes. -/
def Form.choose (t : Text) : Form :=
  ([Form.basic, .literal, .basicLines, .literalLines].find? (Form.holds t)).getD
    (if t.any (· == '\n') then .basicLines else .basic)

/-- The newline behind three opening quotes, which is there if the text has newlines. -/
def leadIn (t : Text) : Text := if t.any (· == '\n') then ['\n'] else []

/-- A text in a form. -/
def Form.write (t : Text) : Form → Text
  | .basic => '"' :: escapeLine t ++ ['"']
  | .literal => '\'' :: t ++ ['\'']
  | .basicLines => "\"\"\"".toList ++ leadIn t ++ escapeLines 0 t ++ "\"\"\"".toList
  | .literalLines => "'''".toList ++ leadIn t ++ t ++ "'''".toList

/-- A string of a document. -/
def quote (t : Text) : Text := (Form.choose t).write t

end Console.Toml
