import Console.Binary64.Basic
import Console.Text.Basic

/-! Numerals at the beginning of a text: integers in a base that their first characters can name,
    and numbers with a point and an exponent. What stands behind a numeral is left over. -/

namespace Console.Host.Numeral

/-- The six blanks that can stand in front of a numeral. -/
def isSpace (c : Char) : Bool := c == ' ' || ('\t' ≤ c && c ≤ '\r')

/-- Drops blanks. -/
def skipSpaces (t : Text) : Text := t.dropWhile isSpace

/-- Takes a sign. -/
def sign : Text → Bool × Text
  | '-' :: rest => (true, rest)
  | '+' :: rest => (false, rest)
  | t => (false, t)

/-! ### Digits -/

/-- The value of a digit, of which letters are those above nine. -/
def digit? (c : Char) : Option Nat :=
  if c.isDigit then some (c.toNat - '0'.toNat)
  else if c.isAlpha then some (c.toLower.toNat - 'a'.toNat + 10)
  else none

/-- Whether a character is a digit of a base. -/
def isDigit (base : Nat) (c : Char) : Bool := (digit? c).any fun d => d < base

/-- The value of digits behind others. -/
def value (base : Nat) (before : Nat) (digits : Text) : Nat :=
  digits.foldl (fun n c => n * base + (digit? c).getD 0) before

/-- Digits of a base and what follows them. -/
def digits? (base : Nat) (t : Text) : Option (Nat × Text) :=
  let digits := t.takeWhile (isDigit base)
  if digits.isEmpty then none else some (value base 0 digits, t.drop digits.length)

/-! ### Integers -/

/-- A number without sign. With base zero, `0x` stands before hexadecimal digits, `0b` before binary
    ones and a zero before octal ones. -/
def natural? (base : Nat) (t : Text) : Option (Nat × Text) :=
  if base ≠ 0 then digits? base t
  else
    match t with
    | '0' :: c :: rest =>
      let marked : Option (Nat × Text) :=
        if c = 'x' ∨ c = 'X' then digits? 16 rest
        else if c = 'b' ∨ c = 'B' then digits? 2 rest
        else none
      marked.orElse fun _ => digits? 8 t
    | t => digits? 10 t

/-- An integer behind blanks and a sign. -/
def integer? (base : Nat) (t : Text) : Option (Int × Text) :=
  let (negative, t) := sign (skipSpaces t)
  (natural? base t).map fun (n, rest) => (if negative then -(n : Int) else n, rest)

/-- The nearest number of 64 bits with a sign. -/
def clamp (n : Int) : Int := max (-Word.half) (min (Word.half - 1) n)

/-- A whole text as an integer of 64 bits; blanks may stand around it. -/
def whole? (base : Nat) (t : Text) : Option Int := do
  let (n, rest) ← integer? base t
  if (skipSpaces rest).isEmpty && clamp n = n then some n else none

/-! ### Numbers with a point -/

/-- The number of a given sign that is nearest to a ratio with a mantissa of so many bits. -/
def nearest (bits : Nat) (negative : Bool) (num den : Nat) : Binary64.Parts :=
  if num = 0 then .finite negative 0 0
  else
    let low : Int := Nat.log2 num - Nat.log2 den - bits
    let (n, d) := Binary64.scaled num den low
    let exponent := if n / d < twoTo bits then low else low + 1
    let (n, d) := Binary64.scaled num den exponent
    .finite negative (Binary64.roundHalfEven n d) exponent

/-- How precise numbers are. -/
inductive Precision where
  | double
  /-- With 64 bits and a wide range of exponents. -/
  | extended
  deriving DecidableEq, Repr

/-- The largest power of ten that is told from infinity. -/
def largestPower : Int := 4950

/-- The number `coefficient * 10 ^ exponent`. -/
def ofDecimal (precision : Precision) (negative : Bool) (coefficient : Nat) (exponent : Int) :
    Binary64.Parts :=
  match precision with
  | .double => Binary64.parts (Binary64.ofScientific negative coefficient exponent)
  | .extended =>
    let size := exponent + (Nat.log2 coefficient : Int) * 3 / 10
    if coefficient = 0 ∨ size < -largestPower then .finite negative 0 0
    else if size > largestPower then .infinite negative
    else nearest 64 negative (coefficient * tenTo exponent.toNat) (tenTo (-exponent).toNat)

/-- The number `coefficient * 2 ^ exponent`. -/
def ofBinary (precision : Precision) (negative : Bool) (coefficient : Nat) (exponent : Int) :
    Binary64.Parts :=
  let size := exponent + (Nat.log2 coefficient : Int)
  if coefficient = 0 ∨ size < -17000 then .finite negative 0 0
  else if size > 17000 then .infinite negative
  else
    let (num, den) := Binary64.scaled coefficient 1 (-exponent)
    match precision with
    | .double => Binary64.parts (Binary64.ofRatio negative num den)
    | .extended => nearest 64 negative num den

/-- Digits of a base with a point among them, as a number, and how many stand behind the point. -/
def pointed? (base : Nat) (t : Text) : Option (Nat × Nat × Text) :=
  let whole := t.takeWhile (isDigit base)
  let rest := t.drop whole.length
  let (places, rest) : Text × Text := match rest with
    | '.' :: behind =>
      let places := behind.takeWhile (isDigit base)
      if whole.isEmpty && places.isEmpty then ([], rest) else (places, behind.drop places.length)
    | rest => ([], rest)
  if whole.isEmpty && places.isEmpty then none
  else some (value base (value base 0 whole) places, places.length, rest)

/-- An exponent behind one of two letters. Without digits there is none. -/
def exponent (small large : Char) (t : Text) : Int × Text :=
  match t with
  | c :: rest =>
    let (negative, digits) := sign rest
    if c = small ∨ c = large then
      match digits? 10 digits with
      | some (n, rest) => (if negative then -(n : Int) else n, rest)
      | none => (0, t)
    else (0, t)
  | [] => (0, t)

/-- What is left of a text behind a word in letters of any case. -/
def behindWord? (word : String) (t : Text) : Option Text :=
  if word.toList.isPrefixOf (Text.lowerAscii t) then some (t.drop word.length) else none

/-- A number behind blanks and a sign: decimal, hexadecimal behind `0x`, infinite or none at all. -/
def real? (precision : Precision) (t : Text) : Option (Binary64.Parts × Text) :=
  let (negative, t) := sign (skipSpaces t)
  let hexadecimal : Option (Binary64.Parts × Text) := match t with
    | '0' :: c :: rest =>
      if c = 'x' ∨ c = 'X' then
        (pointed? 16 rest).map fun (n, places, rest) =>
          let (shift, rest) := exponent 'p' 'P' rest
          (ofBinary precision negative n (shift - 4 * places), rest)
      else none
    | _ => none
  let decimal (_ : Unit) : Option (Binary64.Parts × Text) :=
    (pointed? 10 t).map fun (n, places, rest) =>
      let (shift, rest) := exponent 'e' 'E' rest
      (ofDecimal precision negative n (shift - places), rest)
  let named (_ : Unit) : Option (Binary64.Parts × Text) :=
    match behindWord? "infinity" t with
    | some rest => some (.infinite negative, rest)
    | none =>
      match behindWord? "inf" t with
      | some rest => some (.infinite negative, rest)
      | none => (behindWord? "nan" t).map fun rest => (.nan, rest)
  hexadecimal.orElse fun _ => (decimal ()).orElse named

end Console.Host.Numeral
