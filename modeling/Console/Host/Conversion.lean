import Console.Host.Numeral

/-! Conversions of formatted output. A conversion has flags, a width and a precision, and a letter
    says how a text or a number is written. Numbers with a point are rounded exactly, a half going
    to the even neighbour. -/

namespace Console.Host

open Binary64 (Parts roundHalfEven scaled)

/-- A conversion of a format. -/
structure Conversion where
  flags : List Char
  width : Nat
  precision : Option Nat
  letter : Char

namespace Conversion

/-- Whether a flag is given. -/
def has (c : Conversion) (flag : Char) : Bool := c.flags.contains flag

/-- A width that comes from an argument; a negative one fills behind the text. -/
def withWidth (c : Conversion) (n : Int) : Conversion :=
  { c with width := n.natAbs, flags := if n < 0 then '-' :: c.flags else c.flags }

/-- Fills a text up to the width. -/
def fill (c : Conversion) (t : Text) : Text :=
  let blanks := List.replicate (c.width - t.length) ' '
  if c.has '-' then t ++ blanks else blanks ++ t

/-- A text, of which so many characters count as the precision says. -/
def text (c : Conversion) (t : Text) : Text :=
  c.fill (match c.precision with
    | some n => t.take n
    | none => t)

/-! ### Integers -/

/-- A number behind its sign, filled up to the width. -/
def number (c : Conversion) (zeros : Bool) (sign digits : Text) : Text :=
  if zeros && c.has '0' && !c.has '-' then
    sign ++ List.replicate (c.width - sign.length - digits.length) '0' ++ digits
  else c.fill (sign ++ digits)

/-- The sign of a number that can be negative. -/
def sign (c : Conversion) (negative : Bool) : Text :=
  if negative then ['-'] else if c.has '+' then ['+'] else if c.has ' ' then [' '] else []

/-- The digits of a number, as many at least as the precision says. Zero has none with precision
    zero. -/
def digits (c : Conversion) (base n : Nat) : Text :=
  if n = 0 && c.precision = some 0 then []
  else
    let t := Nat.toDigits base n
    List.replicate (c.precision.getD 1 - t.length) '0' ++ t

/-- An integer with its sign. -/
def integer (c : Conversion) (n : Int) : Text :=
  c.number c.precision.isNone (c.sign (n < 0)) (c.digits 10 n.natAbs)

/-- A number without sign, in the base of the letter. -/
def natural (c : Conversion) (n : Nat) : Text :=
  let zeros := c.precision.isNone
  match c.letter with
  | 'o' =>
    let t := c.digits 8 n
    c.number zeros [] (if c.has '#' && t.head? != some '0' then '0' :: t else t)
  | 'x' => c.number zeros (if c.has '#' && n > 0 then ['0', 'x'] else []) (c.digits 16 n)
  | 'X' =>
    c.number zeros (if c.has '#' && n > 0 then ['0', 'X'] else [])
      ((c.digits 16 n).map Char.toUpper)
  | _ => c.number zeros [] (c.digits 10 n)

/-! ### Numbers with a point -/

/-- Digits with a point behind the first so many of them. A point at the end stands only if it is
    asked for. -/
def withPoint (kept : Bool) (digits : Text) (whole : Nat) : Text :=
  if digits.length ≤ whole then (if kept then digits ++ ['.'] else digits)
  else digits.take whole ++ '.' :: digits.drop whole

/-- A magnitude with so many places. -/
def fixed (kept : Bool) (mantissa : Nat) (exponent : Int) (places : Nat) : Text :=
  let n := roundHalfEven (mantissa * tenTo places * twoTo exponent.toNat)
    (twoTo (-exponent).toNat)
  let digits := Text.ofNat n
  let digits := List.replicate (places + 1 - digits.length) '0' ++ digits
  withPoint kept digits (digits.length - places)

/-- The digits of a magnitude with so many places behind the first one, and the power of ten of the
    first. -/
def leading (mantissa : Nat) (exponent : Int) (places : Nat) : Text × Int :=
  if mantissa = 0 then (List.replicate (places + 1) '0', 0)
  else
    let (num, den) := scaled mantissa 1 (-exponent)
    let guess : Int := (Text.ofNat num).length - (Text.ofNat den).length
    let reaches (e : Int) : Bool := num * tenTo (-e).toNat ≥ den * tenTo e.toNat
    let power := if reaches guess then guess else guess - 1
    let shift : Int := places - power
    let n := roundHalfEven (num * tenTo shift.toNat) (den * tenTo (-shift).toNat)
    let digits := Text.ofNat n
    (digits.take (places + 1), if digits.length > places + 1 then power + 1 else power)

/-- An exponent with its sign and at least two digits. -/
def exponentText (mark : Char) (power : Int) : Text :=
  let digits := Text.ofNat power.natAbs
  mark :: (if power < 0 then '-' else '+') :: List.replicate (2 - digits.length) '0' ++ digits

/-- A magnitude with one digit in front of the point and an exponent. -/
def scientific (kept : Bool) (mark : Char) (mantissa : Nat) (exponent : Int) (places : Nat) :
    Text :=
  let (digits, power) := leading mantissa exponent places
  withPoint kept digits 1 ++ exponentText mark power

/-- A magnitude with so many digits in the shorter of both forms; zeros at its end stay only if they
    are asked for. -/
def general (kept : Bool) (mark : Char) (mantissa : Nat) (exponent : Int) (count : Nat) : Text :=
  let count := max count 1
  let (digits, power) := leading mantissa exponent (count - 1)
  let trim (t : Text) : Text := if kept then t else (t.reverse.dropWhile (· == '0')).reverse
  if power < -4 ∨ power ≥ count then
    withPoint kept (digits.take 1 ++ trim (digits.drop 1)) 1 ++ exponentText mark power
  else if power < 0 then '0' :: '.' :: List.replicate (power.natAbs - 1) '0' ++ trim digits
  else
    let whole := power.toNat + 1
    withPoint kept (digits.take whole ++ trim (digits.drop whole)) whole

/-- A magnitude in hexadecimal digits with a power of two. The first digit takes the bits of the
    mantissa above the last so many, which are a multiple of four. -/
def hexadecimal (kept : Bool) (bits : Nat) (least : Option Int) (precision : Option Nat)
    (mantissa : Nat) (exponent : Int) : Text :=
  if mantissa = 0 then
    let zeros := List.replicate (precision.getD 0) '0'
    withPoint kept ('0' :: zeros) 1 ++ "p+0".toList
  else
    let power := match least with
      | some low => max (exponent + bits) low
      | none => exponent + bits
    let places := bits / 4
    let shown := min (precision.getD places) places
    let n := roundHalfEven mantissa (twoTo (4 * (places - shown)))
    let digits := Nat.toDigits 16 n
    let digits := List.replicate (shown + 1 - digits.length) '0' ++ digits
    let front := digits.take (digits.length - shown)
    let behind := digits.drop (digits.length - shown)
    let behind := match precision with
      | some p => behind ++ List.replicate (p - places) '0'
      | none => (behind.reverse.dropWhile (· == '0')).reverse
    let exponentDigits := (if power < 0 then '-' else '+') :: Text.ofNat power.natAbs
    withPoint kept (front ++ behind) front.length ++ 'p' :: exponentDigits

/-- A number with a point, as the letter says. -/
def real (c : Conversion) (precision : Numeral.Precision) (x : Parts) : Text :=
  let letter := c.letter.toLower
  let cased (t : Text) : Text := if c.letter.isUpper then t.map Char.toUpper else t
  let places := c.precision.getD 6
  let kept := c.has '#'
  match x with
  | .nan => c.number false (c.sign false) (cased "nan".toList)
  | .infinite negative => c.number false (c.sign negative) (cased "inf".toList)
  | .finite negative m e =>
    let sign := c.sign negative
    match letter with
    | 'e' => c.number true sign (cased (scientific kept 'e' m e places))
    | 'g' => c.number true sign (cased (general kept 'e' m e places))
    | 'a' =>
      let (bits, least) : Nat × Option Int := match precision with
        | .double => (52, some (-1022))
        | .extended => (60, none)
      let mark := cased "0x".toList
      c.number true (sign ++ mark) (cased (hexadecimal kept bits least c.precision m e))
    | _ => c.number true sign (fixed kept m e places)

end Conversion

end Console.Host
