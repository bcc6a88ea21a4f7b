import Console.Text.Utf8
import Console.Binary64.Basic

/-! Reading JSON in one pass from the left, towards a known shape. The first problem decides: the
    text is malformed, it ends too early, or a value is of another kind than the shape asks for.
    A value that the shape does not know is skipped, and skipping is looser than reading: it takes
    lone surrogates and numbers of any size. -/

namespace Console.Json

/-- What is wrong with a text. -/
inductive Fault where
  | malformed
  | unfinished
  | mistyped
  deriving DecidableEq, Repr

/-- Text that is read from the left yields a value and the rest. -/
abbrev Reader (α : Type) := Text → Except Fault (α × Text)

/-- Drops the four blanks of JSON. -/
def skipBlanks (t : Text) : Text :=
  t.dropWhile fun c => c == ' ' || c == '\n' || c == '\t' || c == '\r'

/-! ### Words -/

/-- Reads the letters of a word that has begun. -/
def word : Text → Text → Except Fault Text
  | [], t => .ok t
  | _ :: _, [] => .error .unfinished
  | expected :: letters, c :: rest => if c = expected then word letters rest else .error .malformed

/-! ### Strings -/

/-- The value of a hexadecimal digit. -/
def hexDigit? (c : Char) : Option Nat :=
  if c.isDigit then some (c.toNat - '0'.toNat)
  else if 'a' ≤ c && c ≤ 'f' then some (c.toNat - 'a'.toNat + 10)
  else if 'A' ≤ c && c ≤ 'F' then some (c.toNat - 'A'.toNat + 10)
  else none

/-- The value of four hexadecimal digits. -/
def hexFour? (a b c d : Char) : Option Nat := do
  let a ← hexDigit? a
  let b ← hexDigit? b
  let c ← hexDigit? c
  let d ← hexDigit? d
  pure (((a * 16 + b) * 16 + c) * 16 + d)

/-- Why four hexadecimal digits cannot be read here: less than four bytes are left, or other
    characters stand there. -/
def hexFault (t : Text) : Fault := if t.byteCount < 4 then .unfinished else .malformed

/-- The character of an escape by one letter. -/
def escaped? : Char → Option Char
  | '"' => some '"'
  | '\\' => some '\\'
  | '/' => some '/'
  | 'b' => some '\x08'
  | 'f' => some '\x0c'
  | 'n' => some '\n'
  | 'r' => some '\r'
  | 't' => some '\t'
  | _ => none

/-- Puts a character before a string that is read. -/
def consChar (c : Char) (r : Except Fault (Text × Text)) : Except Fault (Text × Text) :=
  r.map fun (s, rest) => (c :: s, rest)

/-- Whether a unit is the first half of a pair. -/
def isHighHalf (n : Nat) : Bool := 0xD800 ≤ n && n ≤ 0xDBFF

/-- Whether a unit is the second half of a pair. -/
def isLowHalf (n : Nat) : Bool := 0xDC00 ≤ n && n ≤ 0xDFFF

/-- The character of a pair of halves. -/
def pairChar (high low : Nat) : Char :=
  Char.ofNat ((high - 0xD800) * 0x400 + (low - 0xDC00) + 0x10000)

/-- Reads the rest of a string behind its opening quote. -/
def stringBody : Reader Text
  | [] => .error .unfinished
  | '"' :: rest => .ok ([], rest)
  | ['\\'] => .error .unfinished
  | '\\' :: 'u' :: a :: b :: c :: d :: rest =>
    match hexFour? a b c d with
    | none => .error (hexFault (a :: b :: c :: d :: rest))
    | some n =>
      if isLowHalf n then .error .malformed
      else if !isHighHalf n then consChar (Char.ofNat n) (stringBody rest)
      else
        match rest with
        | [] | ['\\'] => .error .unfinished
        | '\\' :: 'u' :: e :: f :: g :: h :: rest =>
          match hexFour? e f g h with
          | none => .error (hexFault (e :: f :: g :: h :: rest))
          | some m =>
            if isLowHalf m then consChar (pairChar n m) (stringBody rest) else .error .malformed
        | '\\' :: 'u' :: rest => .error (hexFault rest)
        | _ => .error .malformed
  | '\\' :: 'u' :: rest => .error (hexFault rest)
  | '\\' :: c :: rest =>
    match escaped? c with
    | none => .error .malformed
    | some e => consChar e (stringBody rest)
  | c :: rest => if c < ' ' then .error .malformed else consChar c (stringBody rest)

/-- Skips the rest of a string behind its opening quote. -/
def skipString : Text → Except Fault Text
  | [] => .error .unfinished
  | '"' :: rest => .ok rest
  | ['\\'] => .error .unfinished
  | '\\' :: 'u' :: a :: b :: c :: d :: rest =>
    match hexFour? a b c d with
    | none => .error (hexFault (a :: b :: c :: d :: rest))
    | some _ => skipString rest
  | '\\' :: 'u' :: rest => .error (hexFault rest)
  | '\\' :: c :: rest => if (escaped? c).isNone then .error .malformed else skipString rest
  | c :: rest => if c < ' ' then .error .malformed else skipString rest

/-! ### Numbers -/

/-- Skips a number whose minus sign, if any, is already behind. -/
def skipNumber (t : Text) : Except Fault Text :=
  let exponent (t : Text) : Except Fault Text :=
    match t with
    | e :: rest =>
      if e = 'e' ∨ e = 'E' then
        let digits := match rest with
          | '+' :: digits | '-' :: digits => digits
          | digits => digits
        if digits.head?.any Char.isDigit then .ok (digits.dropWhile Char.isDigit)
        else .error .malformed
      else .ok t
    | [] => .ok t
  let places (t : Text) : Except Fault Text :=
    match t with
    | '.' :: digits =>
      if digits.head?.any Char.isDigit then exponent (digits.dropWhile Char.isDigit)
      else .error .malformed
    | _ => exponent t
  match t with
  | [] => .error .malformed
  | '0' :: rest => if rest.head?.any Char.isDigit then .error .malformed else places rest
  | c :: rest => if c.isDigit then places (rest.dropWhile Char.isDigit) else .error .malformed

/-- Naturals up to here are read as they are. -/
def naturalLimit : Nat := Word.limit

/-- The number of a run of digits as far as it stays below the limit, and the digits behind. -/
def keptDigits (digits : Text) (value : Nat) : Nat × Text :=
  match digits with
  | [] => (value, [])
  | d :: rest =>
    let grown := value * 10 + (d.toNat - '0'.toNat)
    if grown < naturalLimit then keptDigits rest grown else (value, digits)

/-- Whether `kept * 10 ^ exponent` is beyond the doubles, computed on doubles. -/
def overflows (kept : Nat) (exponent : Int) : Bool :=
  kept != 0 && (exponent > 308 || (exponent ≥ 0 &&
    (Binary64.ofRatio false kept 1 * Binary64.ofDecimal false 1 exponent).isInf))

/-- Ends a number `kept * 10 ^ exponent` that is none to be answered. -/
def finishNumber (kept : Nat) (exponent : Int) : Reader (Option Nat) := fun rest =>
  if overflows kept exponent then .error .malformed else .ok (none, rest)

/-- Whether the sign in front of digits is a minus, and what stands behind the sign, if any. -/
def exponentSign : Text → Bool × Text
  | '+' :: digits => (false, digits)
  | '-' :: digits => (true, digits)
  | digits => (false, digits)

/-- Reads the exponent of a number, if there is one, and ends the number. -/
def withExponent (kept : Nat) (exponent : Int) : Reader (Option Nat)
  | e :: rest =>
    if e = 'e' ∨ e = 'E' then
      let (negative, rest) := exponentSign rest
      match rest.takeWhile Char.isDigit with
      | [] => .error (if rest = [] then .unfinished else .malformed)
      | digits =>
        let shift : Int := Nat.ofDigitChars 10 digits 0
        finishNumber kept (if negative then exponent - shift else exponent + shift)
          (rest.dropWhile Char.isDigit)
    else finishNumber kept exponent (e :: rest)
  | [] => finishNumber kept exponent []

/-- Reads a number whose minus sign, if any, is already behind. A natural below the limit, written
    without point and exponent, is answered; every other number is none. -/
def number (t : Text) : Except Fault (Option Nat × Text) :=
  match t with
  | [] => .error .unfinished
  | c :: _ =>
    if !c.isDigit then .error .malformed
    else
      let digits := t.takeWhile Char.isDigit
      let rest := t.dropWhile Char.isDigit
      if c = '0' && digits.length > 1 then .error .malformed
      else
        let (kept, more) := keptDigits digits 0
        match rest with
        | '.' :: rest =>
          let places := rest.takeWhile Char.isDigit
          if places = [] then .error (if rest = [] then .unfinished else .malformed)
          else
            -- Places count only as long as the kept digits can grow.
            let (grown, cut) := keptDigits places kept
            withExponent grown ((more.length : Int) - (places.length - cut.length))
              (rest.dropWhile Char.isDigit)
        | 'e' :: _ | 'E' :: _ => withExponent kept more.length rest
        | _ => if more = [] then .ok (some kept, rest) else finishNumber kept more.length rest

/-! ### Kinds -/

/-- The fault of a value that is not of the kind asked for. A scalar is read first and may be
    malformed itself. -/
def otherKind : Text → Fault
  | [] => .unfinished
  | c :: rest =>
    let after {α : Type} (r : Except Fault α) : Fault :=
      match r with
      | .ok _ => .mistyped
      | .error e => e
    match c with
    | 'n' => after (word "ull".toList rest)
    | 't' => after (word "rue".toList rest)
    | 'f' => after (word "alse".toList rest)
    | '-' => after (number rest)
    | '"' => after (stringBody rest)
    | '[' | '{' => .mistyped
    | _ => if c.isDigit then after (number (c :: rest)) else .malformed

/-- Reads a string value. -/
def string : Reader Text := fun t =>
  match skipBlanks t with
  | '"' :: rest => stringBody rest
  | t => .error (otherKind t)

/-- Reads a natural below the limit. -/
def natural : Reader Nat := fun t =>
  match skipBlanks t with
  | '-' :: rest =>
    match number rest with
    | .ok _ => .error .mistyped
    | .error e => .error e
  | t =>
    if t.head?.any Char.isDigit then
      match number t with
      | .ok (some n, rest) => .ok (n, rest)
      | .ok (none, _) => .error .mistyped
      | .error e => .error e
    else .error (otherKind t)

/-- Reads a value or `null`. -/
def optional {α : Type} (value : Reader α) : Reader (Option α) := fun t =>
  match skipBlanks t with
  | 'n' :: rest => (word "ull".toList rest).map (none, ·)
  | t => (value t).map fun (a, rest) => (some a, rest)

/-! ### Lists and objects -/

/-- The text of the next item of an open list, or none at its end. -/
def nextItem (first : Bool) (t : Text) : Except Fault (Option Text) :=
  match skipBlanks t with
  | [] => .error .unfinished
  | ']' :: _ => .ok none
  | c :: rest =>
    if first then .ok (some (c :: rest))
    else if c = ',' then
      match skipBlanks rest with
      | [] => .error .unfinished
      | ']' :: _ => .error .malformed
      | t => .ok (some t)
    else .error .malformed

/-- Closes a list after its last item. -/
def endList (t : Text) : Except Fault Text :=
  match skipBlanks t with
  | [] => .error .unfinished
  | ']' :: rest => .ok rest
  | _ => .error .malformed

/-- The next key of an open object with the text behind it, or none at its end. -/
def nextKey (first : Bool) (t : Text) : Except Fault (Option (Text × Text)) :=
  match skipBlanks t with
  | [] => .error .unfinished
  | '}' :: _ => .ok none
  | c :: rest =>
    if first then
      if c = '"' then (stringBody rest).map some else .error .malformed
    else if c = ',' then
      match skipBlanks rest with
      | [] => .error .unfinished
      | '"' :: rest => (stringBody rest).map some
      | _ => .error .malformed
    else .error .malformed

/-- Closes an object after its last member. -/
def endObject (t : Text) : Except Fault Text :=
  match skipBlanks t with
  | [] => .error .unfinished
  | '}' :: rest => .ok rest
  | _ => .error .malformed

/-- Reads the colon behind a key. -/
def colon (t : Text) : Except Fault Text :=
  match skipBlanks t with
  | [] => .error .unfinished
  | ':' :: rest => .ok rest
  | _ => .error .malformed

/-- Reads at most `fuel` items of an open list and closes it. -/
def items {α : Type} (item : Reader α) : Nat → Bool → Reader (List α)
  | 0, _, _ => .error .unfinished
  | fuel + 1, first, t => do
    match ← nextItem first t with
    | none => pure ([], ← endList t)
    | some t =>
      let (a, t) ← item t
      let (as, t) ← items item fuel false t
      pure (a :: as, t)

/-- Reads a list; every item takes a character at least. -/
def list {α : Type} (item : Reader α) : Reader (List α) := fun t =>
  match skipBlanks t with
  | '[' :: rest => items item (rest.length + 1) true rest
  | t => .error (otherKind t)

/-- Reads at most `fuel` members of an open object and closes it. A member is read from the text
    behind its key, into what the members before it made. -/
def members {σ : Type} (member : σ → Text → Reader σ) : Nat → Bool → σ → Reader σ
  | 0, _, _, _ => .error .unfinished
  | fuel + 1, first, s, t => do
    match ← nextKey first t with
    | none => pure (s, ← endObject t)
    | some (key, t) =>
      let (s, t) ← member s key t
      members member fuel false s t

/-- Reads an object whose brace is open; every member takes a character at least. -/
def objectBody {σ : Type} (member : σ → Text → Reader σ) (s : σ) : Reader σ := fun t =>
  members member (t.length + 1) true s t

/-! ### Skipping -/

/-- What encloses a skipped value. -/
inductive Bracket where | list | object
  deriving DecidableEq

/-- Skips a key and its colon. -/
def skipKey (t : Text) : Except Fault Text :=
  match skipBlanks t with
  | [] => .error .unfinished
  | '"' :: rest => (skipString rest).bind colon
  | _ => .error .malformed

mutual

/-- Skips a value and then closes the brackets that enclose it. -/
def skipFrom : Nat → List Bracket → Text → Except Fault Text
  | 0, _, _ => .error .unfinished
  | fuel + 1, open_, t =>
    match skipBlanks t with
    | [] => .error .unfinished
    | c :: rest =>
      match c with
      | 'n' => (word "ull".toList rest).bind (skipAfter fuel true open_)
      | 't' => (word "rue".toList rest).bind (skipAfter fuel true open_)
      | 'f' => (word "alse".toList rest).bind (skipAfter fuel true open_)
      | '-' => (skipNumber rest).bind (skipAfter fuel true open_)
      | '"' => (skipString rest).bind (skipAfter fuel true open_)
      | '[' => skipAfter fuel false (.list :: open_) rest
      | '{' => skipAfter fuel false (.object :: open_) rest
      | _ =>
        if c.isDigit then (skipNumber (c :: rest)).bind (skipAfter fuel true open_)
        else .error .malformed

/-- Goes on behind a value, or behind an opening bracket when nothing is inside yet. -/
def skipAfter : Nat → Bool → List Bracket → Text → Except Fault Text
  | _, _, [], t => .ok t
  | 0, _, _ :: _, _ => .error .unfinished
  | fuel + 1, filled, bracket :: open_, t =>
    let inside (t : Text) : Except Fault Text :=
      match bracket with
      | .list => skipFrom fuel (bracket :: open_) t
      | .object => (skipKey t).bind (skipFrom fuel (bracket :: open_))
    match bracket, skipBlanks t with
    | _, [] => .error .unfinished
    | .list, ']' :: rest => skipAfter fuel true open_ rest
    | .object, '}' :: rest => skipAfter fuel true open_ rest
    | _, c :: rest =>
      if filled then (if c = ',' then inside rest else .error .malformed)
      else inside (c :: rest)

end

/-- Skips a value; every turn takes a character at least. -/
def skipValue (t : Text) : Except Fault Text := skipFrom (2 * t.length + 2) [] t

/-! ### Whole texts -/

/-- Reads a text that holds one value and blanks. -/
def readAll {α : Type} (value : Reader α) (t : Text) : Except Fault α := do
  let (a, rest) ← value t
  if skipBlanks rest = [] then pure a else .error .malformed

end Console.Json
