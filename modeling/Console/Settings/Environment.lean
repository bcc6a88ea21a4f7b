import Console.Binary64.Basic
import Console.Settings.Data
import Console.Text.Blank
import Console.Toml.Scalar

/-! Settings in the environment. A variable whose name begins with `REPLINE_` sets the value at the
    path that the rest of its name spells, with two underscores or a point between the keys. Its
    text is read as a value where it is one as a whole, and is taken as it stands otherwise. -/

namespace Console

/-- The variables with their values, in the order in which they take effect. -/
abbrev Environment := List (Text × Text)

namespace Environment

open Settings

/-! ### Numbers -/

/-- An unsigned number of 64 bits, which may have a plus sign. -/
def natural? (t : Text) : Option Nat :=
  let digits := match t with
    | '+' :: rest => rest
    | t => t
  (Text.toNat? digits).bind fun n => if n < Word.limit then some n else none

/-- A signed number of 64 bits. -/
def integer? (t : Text) : Option Int :=
  let (negative, digits) : Bool × Text := match t with
    | '-' :: rest => (true, rest)
    | '+' :: rest => (false, rest)
    | t => (false, t)
  (Text.toNat? digits).bind fun n =>
    let value : Int := if negative then -n else n
    if -Word.half ≤ value ∧ value < Word.half then some value else none

/-- An exponent: a sign, if any, and digits to the end of the text. -/
def exponent? (t : Text) : Option Int :=
  match t with
  | '-' :: rest => (Text.toNat? rest).map fun n => -(n : Int)
  | '+' :: rest => (Text.toNat? rest).map fun n => (n : Int)
  | t => (Text.toNat? t).map fun n => (n : Int)

/-- A double in decimal notation, with a digit before or behind its point. -/
def float? (t : Text) : Option Float :=
  let (negative, t) : Bool × Text := match t with
    | '-' :: rest => (true, rest)
    | '+' :: rest => (false, rest)
    | t => (false, t)
  let whole := t.takeWhile Char.isDigit
  let (places, rest) : Text × Text := match t.dropWhile Char.isDigit with
    | '.' :: rest => (rest.takeWhile Char.isDigit, rest.dropWhile Char.isDigit)
    | rest => ([], rest)
  if whole.isEmpty && places.isEmpty then none
  else
    let shift : Option Int := match rest with
      | [] => some 0
      | c :: rest => if c = 'e' ∨ c = 'E' then exponent? rest else none
    shift.map fun shift =>
      Binary64.ofScientific negative (Nat.ofDigitChars 10 (whole ++ places) 0)
        (shift - places.length)

/-! ### Values -/

/-- The five blanks of ASCII. -/
def isSpace (c : Char) : Bool :=
  c == ' ' || c == '\t' || c == '\n' || c == '\x0c' || c == '\r'

/-- Drops blanks. -/
def skipSpaces (t : Text) : Text := t.dropWhile isSpace

/-- The characters that end a plain value. -/
def isSeparator (c : Char) : Bool :=
  c == ',' || c == '\x7b' || c == '\x7d' || c == '[' || c == ']'

/-- A plain value: a number if it is one, else text. Only a number with a point is a double. -/
def plainValue (t : Text) : Data :=
  match if t.any (· == '.') then float? t else none with
  | some x => .float x
  | none =>
    match natural? t, integer? t with
    | some n, _ => .natural n
    | none, some n => .integer n
    | none, none => .text t

/-- The characters of a key that needs no quotes. -/
def isBare (c : Char) : Bool := c.isAlphanum || c == '_' || c == '-'

/-- A key of a dictionary, in double quotes or of letters, digits, underscores and hyphens. -/
def keyOf (t : Text) : Option (Text × Text) :=
  match t with
  | '"' :: rest => Toml.basicBody rest
  | t =>
    let bare := t.takeWhile isBare
    if bare.isEmpty then none else some (bare, t.dropWhile isBare)

mutual

/-- A value with the blanks around it. Every step of `fuel` takes a character at least. -/
def valueOf : Nat → Text → Option (Data × Text)
  | 0, _ => none
  | fuel + 1, t =>
    let read : Option (Data × Text) := match skipSpaces t with
      | 't' :: 'r' :: 'u' :: 'e' :: rest => some (.boolean true, rest)
      | 'f' :: 'a' :: 'l' :: 's' :: 'e' :: rest => some (.boolean false, rest)
      | '\x7b' :: rest => (entriesOf fuel [] rest).map fun (l, rest) => (.dict l, rest)
      | '[' :: rest => (itemsOf fuel rest).map fun (l, rest) => (.list l, rest)
      | '"' :: rest => (Toml.basicBody rest).map fun (s, rest) => (.text s, rest)
      | '\'' :: rest =>
        match rest with
        | c :: '\'' :: rest => some (.text [c], rest)
        | _ => none
      | t =>
        some (plainValue (Text.trim (t.takeWhile fun c => !isSeparator c)),
          t.dropWhile fun c => !isSeparator c)
    read.map fun (v, rest) => (v, skipSpaces rest)

/-- The items of a list behind its opening bracket; a comma may stand behind the last. -/
def itemsOf : Nat → Text → Option (List Data × Text)
  | 0, _ => none
  | _ + 1, ']' :: rest => some ([], rest)
  | fuel + 1, t => do
    match ← valueOf fuel t with
    | (v, ',' :: rest) =>
      let (vs, rest) ← itemsOf fuel rest
      pure (v :: vs, rest)
    | (v, ']' :: rest) => pure ([v], rest)
    | _ => none

/-- The entries of a dictionary behind its opening brace, put into those so far. -/
def entriesOf : Nat → List (Text × Data) → Text → Option (List (Text × Data) × Text)
  | 0, _, _ => none
  | _ + 1, l, '\x7d' :: rest => some (l, rest)
  | fuel + 1, l, t => do
    let (key, t) ← keyOf (skipSpaces t)
    let (v, t) ← valueOf fuel (← Toml.mark '=' (skipSpaces t))
    let l := Entries.put key v l
    match t with
    | ',' :: rest => entriesOf fuel l rest
    | '\x7d' :: rest => pure (l, rest)
    | _ => none

end

/-- What the text of a variable stands for. -/
def valueOfText (t : Text) : Data :=
  match valueOf (2 * t.length + 2) t with
  | some (v, []) => v
  | _ => .text t

/-! ### Names -/

/-- How the names of settings begin, in any letter case. -/
def lead : Text := "repline_".toList

/-- Reads two underscores as a point. -/
def pointed : Text → Text
  | '_' :: '_' :: rest => '.' :: pointed rest
  | c :: rest => c :: pointed rest
  | [] => []

/-- The keys that the name of a variable spells; a name with an empty key spells none. -/
def keys? (name : Text) : Option (List Text) :=
  match lead.isPrefixOf? (Text.lowerAscii (Text.trim name)) with
  | none => none
  | some rest =>
    let keys := Text.splitOn '.' (Text.trim (pointed rest))
    if keys.any List.isEmpty then none else some keys

/-- A value at the end of a path of keys. -/
def nest (v : Data) : List Text → Data
  | [] => v
  | key :: keys => .dict [(key, nest v keys)]

/-- The settings in the environment, later variables before earlier ones. -/
def settings (env : Environment) : Data :=
  env.foldl (fun d (name, value) =>
    match keys? name with
    | none => d
    | some keys => d.merge (nest (valueOfText value) keys)) (.dict [])

end Environment

end Console
