import Console.Host.Conversion
import Console.Host.Tool.Work

/-! Tools for numbers: rows of them, and the divisors of a number. Decimal numbers are exact. -/

namespace Console.Host.Tool

open Work

/-! ### Rows of numbers -/

/-- A number as an argument says it: `coefficient / 10 ^ places`, or infinite, with its width and
    the number of places as it is written. -/
structure Term where
  coefficient : Int
  places : Nat
  isInfinite : Bool
  width : Int
  precision : Nat
  deriving DecidableEq, Repr

/-- The largest power of ten that is told from infinity. -/
def mostPlaces : Int := 4950

/-- The number of an argument. -/
def term? (t : Text) : Option Term :=
  let bare := t.dropWhile fun c => Numeral.isSpace c || c == '+'
  let (negative, digits) := Numeral.sign bare
  let signed (n : Nat) : Int := if negative then -(n : Int) else n
  match digits with
  | '0' :: 'x' :: rest | '0' :: 'X' :: rest =>
    match Numeral.digits? 16 rest with
    | some (n, []) => some ⟨signed n, 0, false, 0, 0⟩
    | _ => none
  | _ =>
    match Numeral.pointed? 10 digits with
    | none =>
      if Text.lowerAscii digits = "inf".toList || Text.lowerAscii digits = "infinity".toList then
        some ⟨signed 1, 0, true, 0, 0⟩
      else none
    | some (n, places, rest) =>
      let (shift, rest) := Numeral.exponent 'e' 'E' rest
      if !rest.isEmpty then none
      else
        let hasPoint := digits.elem '.'
        let mantissa := digits.takeWhile fun c => c.isDigit || c == '.'
        let whole := mantissa.takeWhile (· != '.')
        let width : Int := (bare.length : Int) - (digits.length - mantissa.length : Nat) +
          (if !hasPoint then 0 else if places = 0 then -1 else if whole.isEmpty then 1 else 0)
        let width := width + shift.natAbs + (if shift < 0 && !hasPoint then 1 else 0)
        let precision : Int :=
          if shift < 0 then places - shift else places - min (places : Int) shift
        let kept : Int := places - shift
        if kept > mostPlaces then some ⟨0, 0, false, width, precision.toNat⟩
        else if -kept > mostPlaces then some ⟨signed 1, 0, n != 0, width, 0⟩
        else
          some ⟨signed (n * tenTo (-kept).toNat), kept.toNat, false, width, precision.toNat⟩

/-- The number in units of so many places. -/
def Term.at (t : Term) (places : Nat) : Int := t.coefficient * tenTo (places - t.places)

/-- A row of numbers in units of some places: its first one, its step and the one that it does not
    pass. -/
structure NumberRow where
  places : Nat
  first : Int
  increment : Int
  /-- Without a last number the row goes on for ever. -/
  last : Option Int

/-- Whether a number is past the end of the row. -/
def NumberRow.isPast (r : NumberRow) (n : Int) : Bool :=
  match r.last with
  | none => false
  | some last => if r.increment < 0 then n < last else last < n

/-- A number with fixed places, in a column with zeros in front. -/
def fixedText (places shown width : Nat) (n : Int) : Text :=
  let m := Binary64.roundHalfEven (n.natAbs * tenTo shown) (tenTo places)
  let digits := (Text.ofNat m).leftpad (shown + 1) '0'
  let front := digits.take (digits.length - shown)
  let t := if shown = 0 then front else front ++ '.' :: digits.drop (digits.length - shown)
  let sign : Text := if n < 0 then ['-'] else []
  sign ++ t.leftpad (width - sign.length) '0'

/-- How numbers are written in a row. -/
inductive RowFormat where
  | fixed (places width : Nat)
  | conversion (before : Text) (c : Conversion) (behind : Text)

/-- A number in a row as it is written. -/
def RowFormat.written (f : RowFormat) (places : Nat) (n : Int) : Text :=
  match f with
  | .fixed shown width => fixedText places shown width n
  | .conversion before c behind =>
    before ++ c.real .extended (Numeral.nearest 64 (n < 0) n.natAbs (tenTo places)) ++ behind

/-- Writes a row from a number on, so many pieces at most. -/
def writeRow (r : NumberRow) (f : RowFormat) (separator : Text) : Nat → Bool → Int → Work Unit
  | 0, _, _ => pure ()
  | fuel + 1, isFirst, n => do
    let count : Nat := match r.last with
      | none => 200
      | some last => min 200 ((last - n) / r.increment + 1).toNat
    if r.isPast n then
      if !isFirst then say ['\n']
    else
      let piece := (List.range count).map fun (i : Nat) =>
        let t := f.written r.places (n + i * r.increment)
        if isFirst && i = 0 then t else separator ++ t
      say piece.flatten
      writeRow r f separator fuel false (n + count * r.increment)

/-- A format with a single conversion of a number. -/
def rowFormat (t : Text) : Work RowFormat := do
  let rec plain : Text → Text × Text
    | '%' :: '%' :: rest =>
      let (front, rest) := plain rest
      ('%' :: front, rest)
    | '%' :: rest => ([], '%' :: rest)
    | c :: rest =>
      let (front, rest) := plain rest
      (c :: front, rest)
    | [] => ([], [])
  let shown := "format ".toList ++ quoted t
  let (before, rest) := plain t
  match rest with
  | [] => giveUp (shown ++ " has no % directive".toList)
  | _ :: rest =>
    let flags := rest.takeWhile fun c => "-+#0 '".toList.contains c
    let rest := rest.drop flags.length
    let width := rest.takeWhile Char.isDigit
    let rest := rest.drop width.length
    let (precision, rest) : Option Nat × Text := match rest with
      | '.' :: rest =>
        let digits := rest.takeWhile Char.isDigit
        (some (Numeral.value 10 0 digits), rest.drop digits.length)
      | rest => (none, rest)
    let rest := match rest with
      | 'L' :: rest => rest
      | rest => rest
    match rest with
    | [] => giveUp (shown ++ " ends in %".toList)
    | letter :: rest =>
      if !"efgaEFGA".toList.contains letter then
        giveUp (shown ++ " has unknown %".toList ++ letter :: " directive".toList)
      else
        let (behind, rest) := plain rest
        if !rest.isEmpty then giveUp (shown ++ " has too many % directives".toList)
        else
          let c : Conversion := ⟨flags, Numeral.value 10 0 width, precision, letter⟩
          pure (.conversion before c behind)

/-- The number of an argument, or a report. -/
def termOf (t : Text) : Work Term := do
  match term? t with
  | some n => pure n
  | none =>
    let bare := (Numeral.sign (t.dropWhile Numeral.isSpace)).2
    if Text.lowerAscii (bare.take 3) = "nan".toList then
      misuse ("invalid 'not-a-number' argument: ".toList ++ quoted t)
    else misuse ("invalid floating point argument: ".toList ++ quoted t)

/-- The format with as many places as the numbers need, and zeros in front if widths are equal. -/
def usualFormat (equalWidth : Bool) (first increment last : Term) : RowFormat :=
  let shown := max first.precision increment.precision
  if !equalWidth then .fixed shown 0
  else
    let firstWidth := first.width + (shown - first.precision) +
      (if first.precision = 0 && shown > 0 then 1 else 0)
    let lastWidth := last.width + ((shown : Int) - last.precision) -
      (if last.precision > 0 && shown = 0 then 1 else 0) +
      (if last.precision = 0 && shown > 0 then 1 else 0)
    .fixed shown (max firstWidth lastWidth).toNat

/-- Whether an argument is a negative number. -/
def isNegative (t : Text) : Bool :=
  match t with
  | '-' :: c :: _ => c.isDigit || c == '.'
  | _ => false

/-- Writes a row of numbers. -/
def seq : Program :=
  tool usualManner fun arguments => do
    let switches := [flag 'w' "equal-width", valued 'f' "format", valued 's' "separator"]
    match Grammar.read ⟨switches, true, isNegative⟩ arguments with
    | .error e => misuse e
    | .ok g =>
      let format ← match g.last? "format" with
        | none => pure none
        | some t => do pure (some (← rowFormat t))
      if g.has "equal-width" && format.isSome then
        misuse "format string may not be specified when printing equal width strings".toList
      let one : Term := ⟨1, 0, false, 1, 0⟩
      let (first, increment, last) ← match g.operands with
        | [] => misuse "missing operand".toList
        | [last] => do pure (one, one, ← termOf last)
        | [first, last] => do
          let first ← termOf first
          pure (first, one, ← termOf last)
        | [first, increment, last] => do
          let first ← termOf first
          let step ← termOf increment
          if step.coefficient = 0 then
            misuse ("invalid Zero increment value: ".toList ++ quoted increment)
          pure (first, step, ← termOf last)
        | _ :: _ :: _ :: extra :: _ => misuse ("extra operand ".toList ++ quoted extra)
      let places := max (max first.places increment.places) last.places
      let isEmpty := last.isInfinite && (last.coefficient < 0) != (increment.coefficient < 0)
      let row : NumberRow :=
        ⟨places, first.at places, increment.at places,
          if last.isInfinite && !isEmpty then none else some (last.at places)⟩
      let f := format.getD (usualFormat (g.has "equal-width") first increment last)
      if !isEmpty then
        writeRow row f ((g.last? "separator").getD ['\n']) Prog.manyPieces true row.first

/-! ### Divisors -/

/-- The prime divisors of a number from a number on. -/
def divisors : Nat → Nat → Nat → List Nat
  | 0, _, n => if n > 1 then [n] else []
  | fuel + 1, d, n =>
    if n < 2 then []
    else if d * d > n then [n]
    else if n % d = 0 then d :: divisors fuel d (n / d)
    else divisors fuel (if d = 2 then 3 else d + 2) n

/-- How far divisors are looked for. -/
def mostDivisors : Nat := 5000000

/-- Writes the prime divisors of numbers. -/
def factor : Program :=
  toolOf usualManner [flag 'h' "exponents"] fun g => do
    let grouped (l : List Nat) : List Text :=
      l.eraseDups.map fun d =>
        let n := (l.filter (· == d)).length
        if n = 1 then Text.ofNat d else Text.ofNat d ++ '^' :: Text.ofNat n
    let one (t : Text) : Work Unit := do
      let bare := t.dropWhile fun c => c == ' ' || c == '+'
      match Text.toNat? bare with
      | none =>
        mutter (quoted t ++ " is not a valid positive integer".toList)
        atLeast 1
      | some n =>
        let l := divisors mostDivisors 2 n
        let words := if g.has "exponents" then grouped l else l.map Text.ofNat
        sayLine (Text.ofNat n ++ ':' :: words.flatMap fun w => ' ' :: w)
    if g.operands.isEmpty then
      match ← readAll 0 with
      | .error e => giveUp ("error reading input: ".toList ++ e.wording)
      | .ok t =>
        ((Text.splitOn ' ' (t.map fun c => if Numeral.isSpace c then ' ' else c)).filter
          fun t => !t.isEmpty).forM one
    else g.operands.forM one

end Console.Host.Tool
