import Console.Host.Format
import Console.Host.Tool.Work

/-! Tools that write their arguments: as they are, with escapes, or as a format says. -/

namespace Console.Host.Tool

open Work

/-- Does nothing, and all is well. -/
def true_ : Program := tool usualManner fun _ => pure ()

/-- Does nothing, and nothing is well. -/
def false_ : Program := tool usualManner fun _ => atLeast 1

/-! ### Escapes -/

/-- The digits of a hexadecimal number in front of a text, so many at most. -/
def hexDigits (most : Nat) (t : Text) : Text := (t.take most).takeWhile (Numeral.isDigit 16)

/-- An escape behind its backslash, with what follows it. No octet means the end of all output, and
    what is no escape keeps its backslash. A zero stands in front of three more digits. -/
def writtenEscape (t : Text) : Option Text × Text :=
  let octal (digits rest : Text) : Option Text × Text :=
    let digits := digits.takeWhile Format.isOctal
    (some [Format.octet digits], rest.drop digits.length)
  match t with
  | [] => (some ['\\'], [])
  | 'c' :: rest => (none, rest)
  | '0' :: rest => octal (rest.take 3) rest
  | 'x' :: rest =>
    match hexDigits 2 rest with
    | [] => (some ['\\', 'x'], rest)
    | digits => (some [Char.ofNat (Numeral.value 16 0 digits)], rest.drop digits.length)
  | c :: rest =>
    if Format.isOctal c then octal (t.take 3) t
    else
      match Format.escape? c with
      | some e => (some [e], rest)
      | none => (some ['\\', c], rest)

/-- Text in which escapes are replaced, and whether it ends all output. -/
def unescaped : Nat → Text → Text × Bool
  | 0, t => (t, false)
  | _ + 1, [] => ([], false)
  | fuel + 1, c :: rest =>
    if c = '\\' then
      match writtenEscape rest with
      | (none, _) => ([], true)
      | (some u, rest) =>
        let (t, ends) := unescaped fuel rest
        (u ++ t, ends)
    else
      let (t, ends) := unescaped fuel rest
      (c :: t, ends)

/-- The options in front of the words of `echo`: whether a newline follows them, and whether
    escapes count. -/
def echoOptions : Bool × Bool → List Text → (Bool × Bool) × List Text
  | o, [] => (o, [])
  | (newline, escapes), t :: rest =>
    match t with
    | '-' :: c :: letters =>
      if (c :: letters).all fun c => c == 'n' || c == 'e' || c == 'E' then
        let escapes := (c :: letters).foldl
          (fun b c => if c = 'e' then true else if c = 'E' then false else b) escapes
        echoOptions (newline && !(c :: letters).elem 'n', escapes) rest
      else ((newline, escapes), t :: rest)
    | _ => ((newline, escapes), t :: rest)

/-- Writes its arguments with blanks between them. -/
def echo : Program :=
  tool usualManner fun arguments => do
    let ((newline, escapes), words) := echoOptions (true, false) arguments
    let t := Text.join [' '] words
    if escapes then
      let (t, ends) := unescaped (t.length + 1) t
      say t
      if newline && !ends then say ['\n']
    else
      say t
      if newline then say ['\n']

/-! ### Formats -/

/-- The next argument of a format. -/
abbrev Arguments := StateT (List Text) Work

/-- Takes an argument. -/
def nextArgument : Arguments (Option Text) := do
  match ← get with
  | [] => pure none
  | t :: rest =>
    set rest
    pure (some t)

/-- Reports what is wrong with a number. -/
def checkNumber (t : Text) (rest : Option Text) (inRange : Bool) : Work Unit :=
  match rest with
  | some [] =>
    if inRange then pure () else complain 1 (quoted t ++ ": Numerical result out of range".toList)
  | some _ =>
    complain 1 (quoted t ++ ": value not completely converted".toList)
  | none =>
    if t.isEmpty then pure () else complain 1 (quoted t ++ ": expected a numeric value".toList)

/-- The code of a character behind a quote. Others behind it are reported. -/
def characterCode (t : Text) : Work Nat := do
  match t with
  | c :: rest =>
    if !rest.isEmpty then
      complain 0 ("warning: ".toList ++ rest ++
        ": character(s) following character constant have been ignored".toList)
    pure c.toNat
  | [] => pure 0

/-- The next argument as an integer. -/
def integerArgument (isSigned : Bool) : Arguments Int := do
  match ← nextArgument with
  | none => pure 0
  | some ('"' :: c :: rest) | some ('\'' :: c :: rest) => do
    let n ← liftM (characterCode (c :: rest))
    pure n
  | some t =>
    let r := Numeral.integer? 0 t
    let n := (r.map Prod.fst).getD 0
    let rest := r.map Prod.snd
    if isSigned then
      let m := Numeral.clamp n
      liftM (checkNumber t rest (m == n))
      pure m
    else if n.natAbs ≥ Word.limit then
      liftM (checkNumber t rest false)
      pure ((Word.limit : Int) - 1)
    else
      liftM (checkNumber t rest true)
      pure n

/-- The next argument as a number with a point. -/
def realArgument : Arguments Binary64.Parts := do
  match ← nextArgument with
  | none => pure (.finite false 0 0)
  | some ('"' :: c :: rest) | some ('\'' :: c :: rest) => do
    let n ← liftM (characterCode (c :: rest))
    pure (.finite false n 0)
  | some t =>
    match Numeral.real? .extended t with
    | none =>
      liftM (checkNumber t none true)
      pure (.finite false 0 0)
    | some (x, rest) =>
      let isLarge := match x with
        | .infinite _ => t.any Char.isDigit
        | _ => false
      liftM (checkNumber t (some rest) (!isLarge))
      pure x

/-- The letters that can follow some flags and perhaps a precision. -/
def lettersFor (flags : Text) (hasPrecision : Bool) : Text :=
  let allowed (c : Char) : Bool :=
    !(flags.any (fun f => f == '\'' || f == 'I') && "aAceEosxX".toList.contains c) &&
    !(flags.elem '#' && "cdisu".toList.contains c) &&
    !(flags.elem '0' && "cs".toList.contains c) && !(hasPrecision && c == 'c')
  "aAcdeEfFgGiosuxX".toList.filter allowed

/-- A width or a precision, which can be an argument, with its spelling and what follows it. -/
def formatMeasure (t : Text) : Arguments (Option Int × Text × Text) := do
  match t with
  | '*' :: rest => do pure (some (← integerArgument true), ['*'], rest)
  | t =>
    let digits := t.takeWhile Char.isDigit
    pure (if digits.isEmpty then none else some (Numeral.value 10 0 digits), digits,
      t.drop digits.length)

/-- Writes the next argument as a conversion says. -/
def writeConverted (c : Conversion) : Arguments Unit := do
  match c.letter with
  | 's' => do
    let t ← nextArgument
    liftM (say (c.text (t.getD [])))
  | 'c' => do
    let t ← nextArgument
    liftM (say (c.fill [((t.getD []).head?).getD '\x00']))
  | 'd' | 'i' => do
    let n ← integerArgument true
    liftM (say (c.integer n))
  | 'o' | 'u' | 'x' | 'X' => do
    let n ← integerArgument false
    liftM (say (c.natural (n % Word.limit).toNat))
  | _ => do
    let x ← realArgument
    liftM (say (c.real .extended x))

/-- An escape of a format behind its backslash: what is written, and what follows it. -/
def formatEscape (t : Text) : Work (Text × Text) := do
  let numbered (most : Nat) (rest : Text) : Work (Nat × Text) := do
    match hexDigits most rest with
    | [] => giveUp "missing hexadecimal number in escape".toList
    | digits => pure (Numeral.value 16 0 digits, rest.drop digits.length)
  let hex (size n : Nat) : Text :=
    let t := (Nat.toDigits 16 n).map Char.toUpper
    List.replicate (size - t.length) '0' ++ t
  let character (n : Nat) : Text :=
    if n < 128 then [Char.ofNat n]
    else if n < 65536 then ['\\', 'u'] ++ hex 4 n
    else ['\\', 'U'] ++ hex 8 n
  match t with
  | 'x' :: rest => do
    let (n, rest) ← numbered 2 rest
    pure ([Char.ofNat n], rest)
  | 'u' :: rest => do
    let (n, rest) ← numbered 4 rest
    pure (character n, rest)
  | 'U' :: rest => do
    let (n, rest) ← numbered 8 rest
    pure (character n, rest)
  | '"' :: rest => pure (['"'], rest)
  | '0' :: _ =>
    let digits := (t.take 3).takeWhile Format.isOctal
    pure ([Format.octet digits], t.drop digits.length)
  | t =>
    match writtenEscape t with
    | (none, _) => stop (← get).status
    | (some u, rest) => pure (u, rest)

/-- Uses a format once. -/
def formatOnce : Nat → Text → Arguments Unit
  | 0, _ => pure ()
  | _ + 1, [] => pure ()
  | fuel + 1, '\\' :: rest => do
    let (t, rest) ← liftM (formatEscape rest)
    liftM (say t)
    formatOnce fuel rest
  | fuel + 1, '%' :: rest => do
    match rest with
    | '%' :: rest => do
      liftM (say ['%'])
      formatOnce fuel rest
    | 'b' :: rest => do
      let t := (← nextArgument).getD []
      let (t, ends) := unescaped (t.length + 1) t
      liftM (say t)
      if ends then liftM (do stop (← get).status : Work Unit)
      formatOnce fuel rest
    | 'q' :: rest => do
      if let some t ← nextArgument then liftM (say (shownName false t))
      formatOnce fuel rest
    | rest => do
      let flags := rest.takeWhile fun c => "-+ #0'I".toList.contains c
      let (width, widthText, rest) ← formatMeasure (rest.drop flags.length)
      let (precision, precisionText, rest) : Option Int × Text × Text ← match rest with
        | '.' :: rest => do
          let (n, t, rest) ← formatMeasure rest
          pure (some (n.getD 0), '.' :: t, rest)
        | rest => pure (none, [], rest)
      let sizes := rest.takeWhile fun c => "hlLjtz".toList.contains c
      let spelled := '%' :: flags ++ widthText ++ precisionText ++ sizes
      match rest.drop sizes.length with
      | letter :: rest => do
        if !(lettersFor flags precision.isSome).elem letter then
          let wording := spelled ++ letter :: ": invalid conversion specification".toList
          liftM (giveUp wording : Work Unit)
        let precision := precision.bind fun n => if n < 0 then none else some n.toNat
        let c : Conversion := ⟨flags, 0, precision, letter⟩
        writeConverted (c.withWidth (width.getD 0))
        formatOnce fuel rest
      | [] =>
        liftM (giveUp (spelled ++ ": invalid conversion specification".toList) : Work Unit)
  | fuel + 1, c :: rest => do
    liftM (say [c])
    formatOnce fuel rest

/-- Uses a format until the arguments are used up. What a format does not take is reported. -/
def formatAll (format : Text) : Nat → List Text → Work Unit
  | 0, _ => pure ()
  | fuel + 1, arguments => do
    let ((), rest) ← (formatOnce (format.length + 1) format).run arguments
    match rest with
    | [] => pure ()
    | t :: _ =>
      if rest.length = arguments.length then
        complain 0 ("warning: ignoring excess arguments, starting with ".toList ++ quoted t)
      else formatAll format fuel rest

/-- Writes its arguments as a format says. -/
def printf : Program :=
  tool usualManner fun arguments => do
    let arguments := if arguments.head? = some "--".toList then arguments.drop 1 else arguments
    match arguments with
    | [] => misuse "missing operand".toList
    | format :: arguments => formatAll format (arguments.length + 1) arguments

end Console.Host.Tool
