import Console.Host.Conversion

/-! Numbers of scripts over records, and the formats by which they become texts. A result that is no
    number has a sign all the same, which it hands on. -/

namespace Console.Host.Tool.Awk

/-- A number. -/
inductive Number where
  | real (x : Float)
  /-- What is no number, with its sign. -/
  | undefined (isNegative : Bool)

namespace Number

/-- The number of a double. Where there is none the sign is negative. -/
def ofFloat (x : Float) : Number := if x.isNaN then .undefined true else .real x

/-- A whole number. -/
def ofNat (n : Nat) : Number := .real (Float.ofNat n)

/-- Zero. -/
def zero : Number := .real 0

/-- One. -/
def one : Number := .real 1

/-- A double from its parts, unless there is no number. -/
def ofParts? (p : Binary64.Parts) : Option Float :=
  match p with
  | .nan => none
  | .infinite isNegative => some (Binary64.signed isNegative Binary64.infinityBits)
  | .finite isNegative m e =>
    some (Binary64.ofRatio isNegative (m * twoTo e.toNat) (twoTo (-e).toNat))

/-- How many digits surely make an exact double. -/
def safeDigits : Nat := 15

/-- The number at the beginning of a text, with what follows. -/
def read? (t : Text) : Option (Number × Text) :=
  (Numeral.real? .double t).map fun (p, rest) =>
    match ofParts? p with
    | some x => (.real x, rest)
    | none => (.undefined (Numeral.sign (Numeral.skipSpaces t)).1, rest)

/-- The number at the beginning of a text. A text that begins with none is zero. -/
def ofText (t : Text) : Number :=
  let (isNegative, unsigned) := Numeral.sign (Numeral.skipSpaces t)
  let digits := unsigned.takeWhile Char.isDigit
  let next := unsigned.drop digits.length
  let isPlain := next.head?.all fun c =>
    !(c == '.' || c == 'e' || c == 'E' || c == 'x' || c == 'X' || digits.isEmpty && c.isAlpha)
  if isPlain && digits.length ≤ safeDigits then
    let x := Float.ofNat (Numeral.value 10 0 digits)
    .real (if isNegative then -x else x)
  else ((read? t).map Prod.fst).getD zero

/-- Whether a text as a whole is a number, between blanks. -/
def isWritten (t : Text) : Bool :=
  let t := t.dropWhile Numeral.isSpace
  let isStart (c : Char) : Bool := c.isDigit || c == '+' || c == '-' || c == '.'
  if !t.head?.any isStart then false
  else if t.all Char.isDigit then true
  else
    let t := (t.reverse.dropWhile Numeral.isSpace).reverse
    t.getLast?.any (fun c => c.isDigit || c == '.') && (read? t).any fun (_, rest) => rest.isEmpty

/-! ### Arithmetic -/

/-- A function of one number. -/
def map (f : Float → Float) : Number → Number
  | .real x => ofFloat (f x)
  | .undefined s => .undefined s

/-- A function of two numbers. -/
def combine (f : Float → Float → Float) : Number → Number → Number
  | .real x, .real y => ofFloat (f x y)
  | .undefined s, _ => .undefined s
  | .real _, .undefined s => .undefined s

/-- The number with the other sign. -/
def negate : Number → Number
  | .real x => .real (-x)
  | .undefined s => .undefined !s

/-- A double without its places behind the point. -/
def whole (x : Float) : Float := if x < 0 then x.ceil else x.floor

/-- Whether a number counts as true. -/
def isTrue : Number → Bool
  | .real x => x != 0
  | .undefined _ => true

/-- How two numbers stand to each other. What is no number equals everything. -/
def compare : Number → Number → Ordering
  | .real x, .real y => if x < y then .lt else if y < x then .gt else .eq
  | _, _ => .eq

/-- The integer nearest to zero from a number, within bounds. What is no number is below all. -/
def toInt (bound : Int) : Number → Int
  | .undefined _ => -bound - 1
  | .real x =>
    match Binary64.parts (whole x) with
    | .nan => 0
    | .infinite isNegative => if isNegative then -bound else bound
    | .finite isNegative m e =>
      let n : Int := if e < 0 then m / twoTo (-e).toNat else m * twoTo (min e.toNat 1024)
      max (-bound) (min bound (if isNegative then -n else n))

/-- The largest bound of integers. -/
def longBound : Int := Word.half - 1

/-- The bound of integers that are counts and places. -/
def shortBound : Int := 2147483647

/-- A number as a count or a place. -/
def toShort (x : Number) : Int := x.toInt shortBound

/-- An integer modulo the count of short ones. -/
def wrapShort (n : Int) : Int := Int.bmod n (twoTo 32)

/-- Whether a double is an odd whole number. -/
def isOdd (x : Float) : Bool :=
  match Binary64.parts x with
  | .finite _ m e => if e < 0 then m % twoTo (-e).toNat == 0 && (m >>> (-e).toNat) % 2 == 1
    else e == 0 && m % 2 == 1
  | _ => false

/-- A power. With one as its base or zero as its exponent it is one, whatever the other is. An odd
    power of what is no number has the positive sign. -/
def power (a b : Number) : Number :=
  match a, b with
  | .undefined s, .real y => if y == 0 then one else .undefined (s && !isOdd y)
  | .real x, .undefined _ => if x == 1 then one else b
  | a, b => combine Float.pow a b

/-! ### Formats -/

/-- A width or a precision. -/
inductive Measure where
  | fixed (n : Nat)
  /-- One that an argument gives. -/
  | given
  deriving DecidableEq, Repr

/-- A part of a format. -/
inductive Piece where
  | text (t : Text)
  /-- A conversion, whose letter has marks of size in front. Without a letter it is not complete. -/
  | conversion (flags : List Char) (width precision : Option Measure) (sizes : Text)
    (letter : Option Char)

/-- A measure at the beginning of a text. -/
def measure? (t : Text) : Option Measure × Text :=
  match t with
  | '*' :: rest => (some .given, rest)
  | t =>
    match Numeral.digits? 10 t with
    | some (n, rest) => (some (.fixed n), rest)
    | none => (none, t)

/-- The conversion behind a percent sign, with what follows. -/
def conversion (t : Text) : Piece × Text :=
  let isFlag (c : Char) : Bool := "-+ #0".toList.elem c
  let flags := t.takeWhile isFlag
  let (width, rest) := measure? (t.drop flags.length)
  let (precision, rest) : Option Measure × Text := match rest with
    | '.' :: rest =>
      let (precision, rest) := measure? rest
      (some (precision.getD (.fixed 0)), rest)
    | rest => (none, rest)
  let sizes : Text := match rest with
    | 'l' :: 'l' :: _ => ['l', 'l']
    | 'l' :: _ => ['l']
    | 'h' :: _ => ['h']
    | _ => []
  let rest := rest.drop sizes.length
  (.conversion flags width precision sizes rest.head?, rest.drop 1)

/-- The parts of a format. The text before the next one is given from its end. -/
def piecesFrom : Nat → Text → Text → List Piece
  | 0, _, _ => []
  | fuel + 1, done, t =>
    let front : List Piece := if done.isEmpty then [] else [.text done.reverse]
    match t with
    | [] => front
    | '%' :: '%' :: rest => piecesFrom fuel ('%' :: done) rest
    | '%' :: rest =>
      let (piece, rest) := conversion rest
      front ++ piece :: piecesFrom fuel [] rest
    | c :: rest => piecesFrom fuel (c :: done) rest

/-- The parts of a format. -/
def pieces (format : Text) : List Piece := piecesFrom (format.length + 1) [] format

/-- A number in a conversion for numbers with a point. -/
def inConversion (c : Conversion) : Number → Text
  | .real x => c.real .double (Binary64.parts x)
  | .undefined isNegative =>
    let t := "nan".toList
    c.number false (c.sign isNegative) (if c.letter.isUpper then t.map Char.toUpper else t)

/-- The digits of an integer, if the number is one that 64 bits hold. -/
def integerText? : Number → Option Text
  | .undefined _ => none
  | .real x =>
    if x.floor != x then none
    else if x ≥ 0 then
      if x ≤ 18446744073709551616 then some (Text.ofNat x.toUInt64.toNat) else none
    else if x ≥ -9223372036854775808 then some ('-' :: Text.ofNat (-x).toUInt64.toNat)
    else none

/-- A measure that no argument gives. -/
def Measure.fixed? : Option Measure → Option Nat
  | some (.fixed n) => some n
  | _ => none

/-- A number as a text: an integer by its digits, another one by a format. -/
def toText (format : Text) (x : Number) : Text :=
  match x.integerText? with
  | some t => t
  | none =>
    (pieces format).flatMap fun p =>
      match p with
      | .text t => t
      | .conversion flags width precision _ letter =>
        let letter := letter.getD 'g'
        let c : Conversion :=
          ⟨flags, (Measure.fixed? width).getD 0, Measure.fixed? precision, letter⟩
        if letter == 'd' || letter == 'i' then c.integer (x.toInt longBound)
        else if "eEfFgG".toList.elem letter then x.inConversion c
        else []

end Number

end Console.Host.Tool.Awk
