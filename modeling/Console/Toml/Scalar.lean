import Console.Binary64.Basic
import Console.Json.Reader
import Console.Toml.Value

/-! The scalars of TOML: strings in their four forms, numbers, and dates and times. A scanner takes
    text and gives what it has read with the rest, or nothing if the text is malformed. -/

namespace Console.Toml

/-- A scanner of text. -/
abbrev Scanner (α : Type) := Text → Option (α × Text)

/-- Drops spaces and tabs. -/
def skipSpaces (t : Text) : Text := t.dropWhile fun c => c == ' ' || c == '\t'

/-- The text behind a newline, if one stands here. -/
def newline? : Text → Option Text
  | '\n' :: rest => some rest
  | '\r' :: '\n' :: rest => some rest
  | _ => none

/-- The characters that stand for themselves in strings and comments: no controls but the tab. -/
def isPlain (c : Char) : Bool := c == '\t' || (' ' ≤ c && c != '\x7f')

/-! ### Strings -/

/-- The character of a one-letter escape. -/
def escape? : Char → Option Char
  | 'b' => some '\x08'
  | 't' => some '\t'
  | 'n' => some '\n'
  | 'f' => some '\x0c'
  | 'r' => some '\r'
  | '"' => some '"'
  | '\\' => some '\\'
  | _ => none

/-- The character whose code point is written in hexadecimal digits. -/
def hexChar? (digits : Text) : Option Char :=
  (digits.foldlM (fun n c => (Json.hexDigit? c).map (n * 16 + ·)) 0).bind fun n =>
    if h : n.isValidChar then some (Char.ofNatAux n h) else none

/-- Puts a character before a string that is read. -/
def withChar (c : Char) (r : Option (Text × Text)) : Option (Text × Text) :=
  r.map fun (s, rest) => (c :: s, rest)

/-- The rest of a string in one line between double quotes. -/
def basicBody : Scanner Text
  | '"' :: rest => some ([], rest)
  | '\\' :: 'u' :: a :: b :: c :: d :: rest => do
    withChar (← hexChar? [a, b, c, d]) (basicBody rest)
  | '\\' :: 'U' :: a :: b :: c :: d :: e :: f :: g :: h :: rest => do
    withChar (← hexChar? [a, b, c, d, e, f, g, h]) (basicBody rest)
  | '\\' :: c :: rest => do withChar (← escape? c) (basicBody rest)
  | c :: rest => if isPlain c && c != '\\' then withChar c (basicBody rest) else none
  | [] => none

/-- The rest of a string in one line between single quotes, where nothing is escaped. -/
def literalBody : Scanner Text
  | '\'' :: rest => some ([], rest)
  | c :: rest => if isPlain c then withChar c (literalBody rest) else none
  | [] => none

/-- What a backslash at the end of a line does to the text behind it. -/
inductive Fold where
  | none
  /-- The newline is still to come. -/
  | pending
  /-- Blanks and newlines are dropped. -/
  | trimming

/-- The rest of a string of several lines. `marks` quotes have just been read: one or two of them
    belong to the string, three end it, and up to two more in front of the end belong to it. -/
def multiBody (quote : Char) (escapes : Bool) : Fold → Nat → Scanner Text
  | .pending, marks, c :: rest =>
    if c == ' ' || c == '\t' then multiBody quote escapes .pending marks rest
    else if c == '\n' then multiBody quote escapes .trimming marks rest
    else if c == '\r' then
      match rest with
      | '\n' :: rest => multiBody quote escapes .trimming marks rest
      | _ => none
    else none
  | .trimming, marks, '\r' :: '\n' :: rest => multiBody quote escapes .trimming marks rest
  | fold, marks, c :: rest =>
    let trims := match fold with
      | .trimming => c == ' ' || c == '\t' || c == '\n'
      | _ => false
    let flush (r : Option (Text × Text)) : Option (Text × Text) :=
      r.map fun (s, rest) => (List.replicate marks quote ++ s, rest)
    if trims then multiBody quote escapes .trimming marks rest
    else if c = quote then
      if marks < 5 then multiBody quote escapes .none (marks + 1) rest else none
    else if 3 ≤ marks then some (List.replicate (marks - 3) quote, c :: rest)
    else if c = '\\' && escapes then
      match rest with
      | 'u' :: a :: b :: c :: d :: rest => do
        flush (withChar (← hexChar? [a, b, c, d]) (multiBody quote escapes .none 0 rest))
      | 'U' :: a :: b :: c :: d :: e :: f :: g :: h :: rest => do
        flush (withChar (← hexChar? [a, b, c, d, e, f, g, h])
          (multiBody quote escapes .none 0 rest))
      | e :: rest =>
        match escape? e with
        | some e => flush (withChar e (multiBody quote escapes .none 0 rest))
        | none =>
          if e == ' ' || e == '\t' then flush (multiBody quote escapes .pending 0 rest)
          else if e == '\n' then flush (multiBody quote escapes .trimming 0 rest)
          else if e == '\r' then
            match rest with
            | '\n' :: rest => flush (multiBody quote escapes .trimming 0 rest)
            | _ => none
          else none
      | [] => none
    else if c = '\r' then
      match rest with
      | '\n' :: rest => flush (withChar '\n' (multiBody quote escapes .none 0 rest))
      | _ => none
    else if c = '\n' || isPlain c then
      flush (withChar c (multiBody quote escapes .none 0 rest))
    else none
  | .none, marks, [] => if 3 ≤ marks then some (List.replicate (marks - 3) quote, []) else none
  | _, _, [] => none

/-- A string in any of its four forms. A newline right behind three opening quotes is dropped. -/
def string : Scanner Text
  | '"' :: '"' :: '"' :: rest => multiBody '"' true .none 0 ((newline? rest).getD rest)
  | '\'' :: '\'' :: '\'' :: rest => multiBody '\'' false .none 0 ((newline? rest).getD rest)
  | '"' :: rest => basicBody rest
  | '\'' :: rest => literalBody rest
  | _ => none

/-! ### Numbers -/

/-- A run of digits in which single underscores may stand between two digits, without them. -/
def digitRun (isDigit : Char → Bool) : Scanner Text
  | c :: '_' :: d :: rest =>
    if isDigit c && isDigit d then withChar c (digitRun isDigit (d :: rest)) else none
  | [c, '_'] => if isDigit c then none else none
  | c :: d :: rest =>
    if !isDigit c then none
    else if isDigit d then withChar c (digitRun isDigit (d :: rest))
    else some ([c], d :: rest)
  | [c] => if isDigit c then some ([c], []) else none
  | [] => none

/-- An integer in the range of 64 bits. -/
def integer? (n : Int) : Option Value :=
  if -Word.half ≤ n ∧ n < Word.half then some (.integer n) else none

/-- An integer in another base, behind its lead. -/
def radixInteger (base : Nat) : Scanner Value := fun t => do
  let isDigit (c : Char) : Bool := (Json.hexDigit? c).any fun d => d < base
  let (digits, rest) ← digitRun isDigit t
  let n := digits.foldl (fun n c => n * base + (Json.hexDigit? c).getD 0) 0
  pure (← integer? n, rest)

/-- A float; one that is too large is malformed. -/
def float? (negative : Bool) (digits : Text) (exponent : Int) : Option Value :=
  let x := Binary64.ofScientific negative (Nat.ofDigitChars 10 digits 0) exponent
  if !negative && x.isInf then none else some (.float x)

/-- The exponent of a float behind its letter. -/
def exponent : Scanner Int
  | '-' :: rest => (digitRun Char.isDigit rest).map fun (ds, rest) =>
    (-(Nat.ofDigitChars 10 ds 0 : Int), rest)
  | '+' :: rest => (digitRun Char.isDigit rest).map fun (ds, rest) =>
    ((Nat.ofDigitChars 10 ds 0 : Int), rest)
  | t => (digitRun Char.isDigit t).map fun (ds, rest) => ((Nat.ofDigitChars 10 ds 0 : Int), rest)

/-- A decimal number behind its sign. A leading zero stands alone. -/
def decimal (negative : Bool) : Scanner Value := fun t => do
  let (whole, rest) ← digitRun Char.isDigit t
  if whole.head? = some '0' && whole.length > 1 then none
  match rest with
  | '.' :: rest =>
    let (places, rest) ← digitRun Char.isDigit rest
    let digits := whole ++ places
    match rest with
    | 'e' :: rest | 'E' :: rest =>
      let (shift, rest) ← exponent rest
      pure (← float? negative digits (shift - places.length), rest)
    | _ => pure (← float? negative digits (-places.length), rest)
  | 'e' :: rest | 'E' :: rest =>
    let (shift, rest) ← exponent rest
    pure (← float? negative whole shift, rest)
  | _ =>
    let n : Int := Nat.ofDigitChars 10 whole 0
    pure (← integer? (if negative then -n else n), rest)

/-- A number behind its sign. -/
def unsigned (negative : Bool) : Scanner Value
  | 'i' :: 'n' :: 'f' :: rest =>
    some (.float (if negative then -1.0 / 0.0 else 1.0 / 0.0), rest)
  | 'n' :: 'a' :: 'n' :: rest => some (.float (0.0 / 0.0), rest)
  | t => decimal negative t

/-- A number. -/
def number : Scanner Value
  | '0' :: 'x' :: rest => radixInteger 16 rest
  | '0' :: 'o' :: rest => radixInteger 8 rest
  | '0' :: 'b' :: rest => radixInteger 2 rest
  | '+' :: rest => unsigned false rest
  | '-' :: rest => unsigned true rest
  | t => unsigned false t

/-! ### Dates and times -/

/-- A number of exactly `count` digits that is within bounds. -/
def fixed (count low high : Nat) : Scanner Nat := fun t =>
  let digits := t.take count
  if digits.length = count && digits.all Char.isDigit then
    let n := Nat.ofDigitChars 10 digits 0
    if low ≤ n && n ≤ high then some (n, t.drop count) else none
  else none

/-- Reads one character. -/
def mark (c : Char) : Text → Option Text
  | d :: rest => if c = d then some rest else none
  | [] => none

/-- The number of days of a month. -/
def daysIn (year month : Nat) : Nat :=
  if month = 2 then
    (if year % 4 = 0 && (year % 100 != 0 || year % 400 == 0) then 29 else 28)
  else if month = 4 || month = 6 || month = 9 || month = 11 then 30
  else 31

/-- Reads a date. -/
def date (t : Text) : Option Text := do
  let (year, t) ← fixed 4 0 9999 t
  let (month, t) ← fixed 2 1 12 (← mark '-' t)
  let (_, t) ← fixed 2 1 (daysIn year month) (← mark '-' t)
  pure t

/-- Reads a time of day. -/
def time (t : Text) : Option Text := do
  let (_, t) ← fixed 2 0 23 t
  let (_, t) ← fixed 2 0 59 (← mark ':' t)
  let (_, t) ← fixed 2 0 60 (← mark ':' t)
  match t with
  | '.' :: places =>
    if places.head?.any Char.isDigit then pure (places.dropWhile Char.isDigit) else none
  | _ => pure t

/-- Reads an offset from universal time, if there is one. -/
def offset (t : Text) : Option Text :=
  match t with
  | 'Z' :: rest | 'z' :: rest => some rest
  | '+' :: rest | '-' :: rest => do
    let (_, t) ← fixed 2 0 23 rest
    let (_, t) ← fixed 2 0 59 (← mark ':' t)
    pure t
  | _ => some t

/-- Whether a run of `count` digits stands here, and this character behind it. -/
def startsWith (count : Nat) (c : Char) (t : Text) : Bool :=
  (t.take count).length = count && (t.take count).all Char.isDigit && (t.drop count).head? = some c

/-- Reads a date, a time, or a date with a time. -/
def moment (t : Text) : Option Text :=
  if startsWith 4 '-' t then do
    let rest ← date t
    match rest with
    | c :: behind =>
      if (c = 'T' || c = 't' || c = ' ') && startsWith 2 ':' behind then (time behind).bind offset
      else pure rest
    | [] => pure rest
  else time t

/-- Whether a date or a time begins here. -/
def isMoment (t : Text) : Bool := startsWith 4 '-' t || startsWith 2 ':' t

/-- A scalar. -/
def scalar : Scanner Value
  | 't' :: 'r' :: 'u' :: 'e' :: rest => some (.boolean true, rest)
  | 'f' :: 'a' :: 'l' :: 's' :: 'e' :: rest => some (.boolean false, rest)
  | t =>
    match t.head? with
    | some '"' | some '\'' => (string t).map fun (s, rest) => (.string s, rest)
    | _ =>
      if isMoment t then
        (moment t).map fun rest => (.moment (t.take (t.length - rest.length)), rest)
      else number t

end Console.Toml
