import Console.Host.Tool.Awk.Number
import Console.Host.Tool.Version

/-! Values of scripts over records. What is read is a text, and a number as well if it looks like
    one; what has never been set is both empty and zero. -/

namespace Console.Host.Tool.Awk

/-- A value. -/
inductive Value where
  | unset
  | number (x : Number)
  | text (t : Text)
  /-- A text that was read. -/
  | input (t : Text)

namespace Value

/-- The number of a value. -/
def toNumber : Value → Number
  | .unset => .zero
  | .number x => x
  | .text t | .input t => .ofText t

/-- The text of a value, where numbers that are no integers follow a format. -/
def toText (format : Text) : Value → Text
  | .unset => []
  | .number x => x.toText format
  | .text t | .input t => t

/-- Whether a value is a number as well. -/
def isNumber : Value → Bool
  | .unset | .number _ => true
  | .text _ => false
  | .input t => Number.isWritten t

/-- Whether a value counts as true. -/
def isTrue (v : Value) : Bool :=
  match v with
  | .unset => false
  | .number x => x.isTrue
  | .text t => !t.isEmpty
  | .input t => if Number.isWritten t then (Number.ofText t).isTrue else !t.isEmpty

/-- The value of a truth. -/
def ofBool (b : Bool) : Value := .number (if b then .one else .zero)

/-- The value of a count. -/
def ofNat (n : Nat) : Value := .number (.ofNat n)

/-- How two values stand to each other: as numbers if both are, or else as texts. -/
def compare (format : Text) (a b : Value) : Ordering :=
  match a, b with
  | .number x, .number y => x.compare y
  | a, b =>
    if a.isNumber && b.isNumber then a.toNumber.compare b.toNumber
    else compareText (a.toText format) (b.toText format)

/-! ### Formatted texts -/

/-- Why a text cannot be formatted. -/
inductive Refusal where
  | tooFew
  /-- The conversion of a number, counted from one, is none. -/
  | improper (number : Nat)
  deriving DecidableEq, Repr

/-- What a measure is, and the values that are left. -/
def measured (m : Option Number.Measure) (values : List Value) :
    Except Refusal (Option Int × List Value) :=
  match m, values with
  | none, values => .ok (none, values)
  | some (.fixed n), values => .ok (some n, values)
  | some .given, v :: values => .ok (some v.toNumber.toShort, values)
  | some .given, [] => .error .tooFew

/-- An integer. If its letter says so, one that is too large for a sign is written without one. -/
def integerIn (c : Conversion) (x : Number) : Text :=
  let n := x.toInt Word.limit
  if n ≥ Word.half && c.letter == 'd' then c.natural (min n.toNat (Word.limit - 1))
  else if n = -Word.half then c.integer n
  else c.integer (x.toInt Number.longBound)

/-- A number without sign: negative ones count from the limit down. -/
def naturalIn (c : Conversion) (x : Number) : Text :=
  let n : Int := match x with
    | .undefined _ => -Word.half
    | x => x.toInt Word.limit
  if n ≤ -Word.limit then c.natural 1
  else if n < 0 then c.natural (Int.emod (max n (-Word.half)) Word.limit).toNat
  else c.natural (min n.toNat (Word.limit - 1))

/-- A single character: that of a number, or else the first one of a text. -/
def characterIn (c : Conversion) (v : Value) : Text :=
  let ofNumber (x : Number) : Text := c.fill [Char.ofNat (Int.emod x.toShort 256).toNat]
  match v with
  | .unset => c.fill ['\x00']
  | .number x => ofNumber x
  | .text t | .input t =>
    if Number.isWritten t then ofNumber v.toNumber else c.fill [t.head?.getD '\x00']

/-- A value in a conversion, if its letter has a meaning. -/
def inConversion? (format : Text) (sizes : Text) (c : Conversion) (v : Value) : Option Text :=
  if "di".toList.elem c.letter then some (integerIn c v.toNumber)
  else if "oxXu".toList.elem c.letter then some (naturalIn c v.toNumber)
  else if !sizes.isEmpty then none
  else if c.letter == 's' then some (c.text (v.toText format))
  else if c.letter == 'c' then some (characterIn c v)
  else if "eEfgG".toList.elem c.letter then some (v.toNumber.inConversion c)
  else none

/-- A part of a format with the values that are left. -/
def piece (format : Text) (number : Nat) (p : Number.Piece) (values : List Value) :
    Except Refusal (Text × List Value) :=
  match p with
  | .text t => .ok (t, values)
  | .conversion flags width precision sizes letter => do
    let (width, values) ← measured width values
    let (precision, values) ← measured precision values
    match values with
    | [] => throw .tooFew
    | v :: values =>
      let precision : Option Nat := match precision with
        | some n => if n < 0 then none else some n.toNat
        | none => none
      let c := (⟨flags, 0, precision, letter.getD '\x00'⟩ : Conversion).withWidth (width.getD 0)
      match inConversion? format sizes c v with
      | some t => pure (t, values)
      | none => throw (.improper number)

/-- Formats values. If that fails there is what comes before the failure. -/
def formatFrom (format : Text) (number : Nat) (done : List Text) :
    List Number.Piece → List Value → Text × Option Refusal
  | [], _ => (done.reverse.flatten, none)
  | p :: rest, values =>
    match piece format number p values with
    | .error e => (done.reverse.flatten, some e)
    | .ok (t, values) =>
      let number := match p with
        | .text _ => number
        | .conversion _ _ _ _ _ => number + 1
      formatFrom format number (t :: done) rest values

/-- Formats values; numbers become texts by another format. -/
def formatted (numbers format : Text) (values : List Value) : Text × Option Refusal :=
  formatFrom numbers 1 [] (Number.pieces format) values

end Value

end Console.Host.Tool.Awk
