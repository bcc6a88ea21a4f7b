import Console.Host.Conversion

/-! What `echo` and `printf` of a shell write: the escapes of texts, and formats with conversions,
    which are used again as long as there are arguments left. -/

namespace Console.Host.Format

/-! ### Escapes -/

/-- Whether a character is an octal digit. -/
def isOctal (c : Char) : Bool := '0' ≤ c && c ≤ '7'

/-- The octet of octal digits. -/
def octet (digits : Text) : Char := Char.ofNat (Numeral.value 8 0 digits % 256)

/-- The octet of an escape by one letter. -/
def escape? : Char → Option Char
  | 'a' => some '\x07'
  | 'b' => some '\x08'
  | 'e' => some '\x1b'
  | 'f' => some '\x0c'
  | 'n' => some '\n'
  | 'r' => some '\r'
  | 't' => some '\t'
  | 'v' => some '\x0b'
  | '\\' => some '\\'
  | _ => none

/-- The octet of an escape behind its backslash, and what follows it. What is no escape leaves the
    backslash alone. -/
def escape (t : Text) : Char × Text :=
  match t with
  | [] => ('\\', [])
  | c :: rest =>
    if isOctal c then
      let digits := (t.take 3).takeWhile isOctal
      (octet digits, t.drop digits.length)
    else
      match escape? c with
      | some e => (e, rest)
      | none => ('\\', t)

/-- Text in which escapes are replaced, and whether it ends all output. A zero can stand in front of
    three octal digits. -/
def echoed : Nat → Text → Text × Bool
  | 0, _ => ([], false)
  | _ + 1, [] => ([], false)
  | _ + 1, '\\' :: 'c' :: _ => ([], true)
  | fuel + 1, '\\' :: rest =>
    let (c, rest) := match rest with
      | '0' :: d :: more => escape (if isOctal d then d :: more else rest)
      | rest => escape rest
    let (t, stops) := echoed fuel rest
    (c :: t, stops)
  | fuel + 1, c :: rest =>
    let (t, stops) := echoed fuel rest
    (c :: t, stops)

/-- Words with blanks between them, up to the first that ends all output. -/
def echoWords : List Text → Text × Bool
  | [] => ([], false)
  | w :: rest =>
    match echoed (w.length + 1) w with
    | (t, true) => (t, true)
    | (t, false) =>
      let (u, stops) := echoWords rest
      (t ++ (if rest.isEmpty then u else ' ' :: u), stops)

/-- What `echo` writes. -/
def echo (arguments : List Text) : Text :=
  let (newline, words) : Bool × List Text := match arguments with
    | ['-', 'n'] :: rest => (false, rest)
    | words => (true, words)
  let (t, stops) := echoWords words
  if newline && !stops then t ++ ['\n'] else t

/-! ### Formats -/

/-- Why a format cannot be used. -/
inductive Fault where
  | missingLetter
  | invalidDirective (t : Text)
  deriving DecidableEq, Repr

/-- The wording of a fault. -/
def Fault.message : Fault → Text
  | .missingLetter => "missing format character".toList
  | .invalidDirective t => t ++ ": invalid directive".toList

/-- What a format has produced, last things first, and the arguments that are left. -/
structure Output where
  written : List Text
  /-- What is to be said of arguments. -/
  reports : List Text
  arguments : List Text
  /-- Whether an argument has ended all output. -/
  stops : Bool
  fault : Option Fault

namespace Output

/-- Adds text. -/
def put (out : Output) (t : Text) : Output := { out with written := t :: out.written }

/-- All that has been written. -/
def text (out : Output) : Text := out.written.reverse.flatten

/-- The next argument. -/
def next (out : Output) : Option Text × Output :=
  match out.arguments with
  | [] => (none, out)
  | t :: rest => (some t, { out with arguments := rest })

/-- Notes what is wrong with a numeral: what follows its end, or that it is out of range. -/
def checked (out : Output) (t : Text) (rest : Option Text) (inRange : Bool) : Output :=
  let report (s : String) : Output :=
    { out with reports := (t ++ ": ".toList ++ s.toList) :: out.reports }
  match rest with
  | none => if t.isEmpty then out else report "expected numeric value"
  | some [] => if inRange then out else report "Numerical result out of range"
  | some (_ :: _) => report "not completely converted"

/-- The next argument as an integer. Behind a quote stands a character, of which the code counts. -/
def integer (isSigned : Bool) (out : Output) : Int × Output :=
  match out.next with
  | (none, out) => (0, out)
  | (some t, out) =>
    match t with
    | '\'' :: rest | '"' :: rest => ((rest.head?.map Char.toNat).getD 0, out)
    | _ =>
      let read := Numeral.integer? 0 t
      let n := (read.map Prod.fst).getD 0
      let rest := read.map Prod.snd
      if isSigned then
        let m := Numeral.clamp n
        (m, out.checked t rest (m == n))
      else if n.natAbs ≥ Word.limit then ((Word.limit : Int) - 1, out.checked t rest false)
      else (n, out.checked t rest true)

/-- The next argument as a number with a point. -/
def real (out : Output) : Binary64.Parts × Output :=
  match out.next with
  | (none, out) => (.finite false 0 0, out)
  | (some t, out) =>
    match t with
    | '\'' :: rest | '"' :: rest => (.finite false ((rest.head?.map Char.toNat).getD 0) 0, out)
    | _ =>
      match Numeral.real? .double t with
      | none => (.finite false 0 0, out.checked t none true)
      | some (x, rest) =>
        let isLarge := match x with
          | .infinite _ => t.any Char.isDigit
          | _ => false
        (x, out.checked t (some rest) (!isLarge))

end Output

/-- The flags of conversions. -/
def isFlag (c : Char) : Bool := "#-+ 0".toList.contains c

/-- The digits of a width or a precision. A second star among them means nothing. -/
def isMeasure (c : Char) : Bool := c == '*' || c.isDigit

/-- Takes a width or a precision, which can be an argument. -/
def measure (t : Text) (out : Output) : Option Int × Text × Text × Output :=
  match t with
  | '*' :: rest =>
    let (n, out) := out.integer true
    (some n, ['*'], rest, out)
  | t =>
    let digits := t.takeWhile isMeasure
    (if digits.isEmpty then none else some (Numeral.value 10 0 digits), digits,
      t.drop digits.length, out)

/-- Writes the next argument as a conversion says. -/
def convert (c : Conversion) (spelled : Text) (out : Output) : Output :=
  match c.letter with
  | 's' =>
    let (t, out) := out.next
    out.put (c.text (t.getD []))
  | 'c' =>
    let (t, out) := out.next
    out.put (c.fill [((t.getD []).head?).getD '\x00'])
  | 'b' =>
    let (t, out) := out.next
    let (t, stops) := echoed ((t.getD []).length + 1) (t.getD [])
    { out.put (c.text t) with stops := stops }
  | 'd' | 'i' =>
    let (n, out) := out.integer true
    out.put (c.integer n)
  | 'o' | 'u' | 'x' | 'X' =>
    let (n, out) := out.integer false
    out.put (c.natural (n % Word.limit).toNat)
  | letter =>
    if "aAeEfFgG".toList.contains letter then
      let (x, out) := out.real
      out.put (c.real .double x)
    else { out with fault := some (.invalidDirective spelled) }

/-- Uses a format once. -/
def once : Nat → Text → Output → Output
  | 0, _, out => out
  | _ + 1, [], out => out
  | fuel + 1, '\\' :: rest, out =>
    let (c, rest) := escape rest
    once fuel rest (out.put [c])
  | fuel + 1, '%' :: '%' :: rest, out => once fuel rest (out.put ['%'])
  | fuel + 1, '%' :: rest, out =>
    let flags := rest.takeWhile isFlag
    let (width, widthText, rest, out) := measure (rest.drop flags.length) out
    let (precision, precisionText, rest, out) : Option Int × Text × Text × Output :=
      match rest with
      | '.' :: rest =>
        let (n, t, rest, out) := measure rest out
        (some (n.getD 0), '.' :: t, rest, out)
      | rest => (none, [], rest, out)
    match rest with
    | [] => { out with fault := some .missingLetter }
    | letter :: rest =>
      let precision := precision.bind fun n => if n < 0 then none else some n.toNat
      let c : Conversion := ⟨flags, 0, precision, letter⟩
      let spelled := '%' :: flags ++ widthText ++ precisionText ++ [letter]
      let out := convert (c.withWidth (width.getD 0)) spelled out
      if out.stops || out.fault.isSome then out else once fuel rest out
  | fuel + 1, c :: rest, out => once fuel rest (out.put [c])

/-- Uses a format until the arguments are used up, or a use takes none. -/
def again (format : Text) : Nat → Output → Output
  | 0, out => out
  | fuel + 1, out =>
    let before := out.arguments.length
    let out := once (format.length + 1) format out
    let isOver := out.stops || out.fault.isSome || out.arguments.isEmpty ||
      out.arguments.length == before
    if isOver then out else again format fuel out

/-- What `printf` writes. -/
def printf (format : Text) (arguments : List Text) : Output :=
  again format (arguments.length + 1) ⟨[], [], arguments, false, none⟩

end Console.Host.Format
