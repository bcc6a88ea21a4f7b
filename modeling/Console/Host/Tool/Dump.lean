import Console.Host.Conversion
import Console.Host.Tool.Work

/-! Dumps: octets as numbers or characters, so many in a line behind the address of the first. Lines
    that repeat the one before are left out. -/

namespace Console.Host.Tool

open Work

namespace Dump

/-- How octets are shown. -/
inductive Kind where
  | named
  | character
  | signed
  | unsigned
  | octal
  | hex
  | real
  deriving DecidableEq, Repr

/-- A way to show octets, so many at a time. -/
structure Column where
  kind : Kind
  size : Nat
  /-- Whether the octets stand behind each line as text, too. -/
  showsText : Bool

/-- How many digits a number of so many octets has at most. -/
def digitsOf (base size : Nat) : Nat := (Nat.toDigits base (scaled 256 size 1 - 1)).length

/-- The width of a field, without a blank in front. -/
def Column.width (k : Column) : Nat :=
  match k.kind with
  | .named | .character => 3
  | .signed => digitsOf 10 k.size + (if k.size = 8 then 0 else 1)
  | .unsigned => digitsOf 10 k.size
  | .octal => digitsOf 8 k.size
  | .hex => digitsOf 16 k.size
  | .real => match k.size with
    | 4 => 15
    | 8 => 24
    | _ => 29

/-- The names of the characters that are not shown as they are. -/
def controlNames : List String :=
  ["nul", "soh", "stx", "etx", "eot", "enq", "ack", "bel", "bs", "ht", "nl", "vt", "ff", "cr",
    "so", "si", "dle", "dc1", "dc2", "dc3", "dc4", "nak", "syn", "etb", "can", "em", "sub", "esc",
    "fs", "gs", "rs", "us", "sp"]

/-- A character of which those that are not shown as they are stand as escapes or digits. -/
def characterText (n : Nat) : Text :=
  match n with
  | 0 => "\\0".toList
  | 7 => "\\a".toList
  | 8 => "\\b".toList
  | 9 => "\\t".toList
  | 10 => "\\n".toList
  | 11 => "\\v".toList
  | 12 => "\\f".toList
  | 13 => "\\r".toList
  | n => if 32 ≤ n && n < 127 then [Char.ofNat n]
      else (Nat.toDigits 8 n).leftpad 3 '0'

/-- How floats of a size are made: the digits that are sure in base ten and those that are enough,
    the bits of the fraction and of the exponent, and whether the first bit of the number stands in
    front of the fraction. -/
structure FloatKind where
  least : Nat
  most : Nat
  fraction : Nat
  exponent : Nat
  isWhole : Bool

/-- The floats of so many octets. -/
def floatKind (size : Nat) : FloatKind :=
  match size with
  | 4 => ⟨6, 9, 23, 8, false⟩
  | 8 => ⟨15, 17, 52, 11, false⟩
  | _ => ⟨18, 21, 63, 15, true⟩

namespace FloatKind

/-- The exponent of the smallest numbers. -/
def lowest (k : FloatKind) : Int := 2 - twoTo (k.exponent - 1) - k.fraction

/-- The sign of a float of some bits, and the number that it stands for. -/
def parts (k : FloatKind) (n : Nat) : Bool × Binary64.Parts :=
  let fraction := n % twoTo k.fraction
  let n := n / twoTo k.fraction
  let hasFirst := n % 2 == 1
  let n := if k.isWhole then n / 2 else n
  let field := n % twoTo k.exponent
  let negative := n / twoTo k.exponent % 2 == 1
  let number : Binary64.Parts :=
    if k.isWhole && field > 0 && !hasFirst then .nan
    else if field = twoTo k.exponent - 1 then if fraction = 0 then .infinite negative else .nan
    else if field = 0 then .finite negative fraction k.lowest
    else .finite negative (fraction + twoTo k.fraction) (k.lowest + field - 1)
  (negative, number)

/-- The bits of the number `m * 2 ^ e`, if it is rounded to one of the floats. -/
def rounded (k : FloatKind) (m : Nat) (e : Int) : Nat × Int :=
  let e' := max k.lowest ((Nat.log2 m : Int) + e - k.fraction)
  let (num, den) := Binary64.scaled m 1 (e' - e)
  (Binary64.roundHalfEven num den, e')

/-- Whether two numbers are rounded to the same float. -/
def isSame (k : FloatKind) (x y : Binary64.Parts) : Bool :=
  match x, y with
  | .finite _ m e, .finite _ n f =>
    let (m, e) := k.rounded m e
    let (n, f) := k.rounded n f
    let low := min e f
    m * twoTo (e - low).toNat == n * twoTo (f - low).toNat
  | _, _ => true

/-- Whether a number is so small that it has fewer bits than others. -/
def isSmall (k : FloatKind) (x : Binary64.Parts) : Bool :=
  match x with
  | .finite _ m _ => m < twoTo k.fraction
  | _ => false

/-- A float with as few digits as tell it from others, but some at least. -/
def text (k : FloatKind) (n : Nat) : Text :=
  let (negative, x) := k.parts n
  let text (digits : Nat) : Text :=
    (⟨[], 0, some digits, 'g'⟩ : Conversion).real .double x
  let fits (digits : Nat) : Bool :=
    match Numeral.real? .extended (text digits) with
    | some (y, _) => k.isSame x y
    | none => true
  match x with
  | .nan => (if negative then ['-'] else []) ++ "nan".toList
  | x =>
    let least := if k.isSmall x then 1 else k.least
    text ((((List.range (k.most + 1)).drop least).find? fits).getD k.most)

end FloatKind

/-- A field for some octets, the lowest first. -/
def Column.field (k : Column) (octets : List Nat) : Text :=
  let n := octets.reverse.foldl (fun n b => n * 256 + b) 0
  match k.kind with
  | .named =>
    let n := n % 128
    if n = 127 then "del".toList
    else (controlNames[n]?).elim [Char.ofNat n] String.toList
  | .character => characterText n
  | .signed =>
    let all := scaled 256 k.size 1
    Text.ofInt (if 2 * n ≥ all then (n : Int) - all else n)
  | .unsigned => Text.ofNat n
  | .octal => (Nat.toDigits 8 n).leftpad (digitsOf 8 k.size) '0'
  | .hex => (Nat.toDigits 16 n).leftpad (digitsOf 16 k.size) '0'
  | .real => (floatKind k.size).text n

/-- How a dump looks. -/
structure Style where
  columns : List Column
  /-- The base of addresses and how many digits they have; without it there are none. -/
  addresses : Option (Nat × Nat)
  /-- How many octets stand in a line. -/
  width : Nat
  showsAll : Bool
  isBigEndian : Bool

/-- The width of the fields of a line, with the blanks between them. -/
def Style.lineWidth (s : Style) : Nat :=
  s.columns.foldl (fun n k => max n ((k.width + 1) * (s.width / k.size))) 0

/-- Octets in groups of a size; the last one is filled up with zeros. -/
def grouped (size : Nat) : Nat → List Nat → List (List Nat)
  | 0, _ => []
  | _ + 1, [] => []
  | fuel + 1, l => (l.take size).rightpad size 0 :: grouped size fuel (l.drop size)

/-- The fields of a line, each moved to its place. -/
def placed (pad width all : Nat) : Nat → Nat → List Text → Text
  | _, _, [] => []
  | left, i, t :: rest =>
    let next := pad * (i - 1) / all
    t.leftpad (left - next + width) ' ' ++ placed pad width all next (i - 1) rest

/-- The octets of a line as text. -/
def textOf (octets : List Nat) : Text :=
  "  >".toList ++ octets.map (fun n => if 32 ≤ n && n < 127 then Char.ofNat n else '.') ++ ['<']

/-- A line in one of the ways. -/
def Style.lineIn (s : Style) (k : Column) (octets : List Nat) : Text :=
  let all := s.width / k.size
  let pad := s.lineWidth - k.width * all
  let groups := grouped k.size (octets.length + 1) octets
  let fields := groups.map fun g => k.field (if s.isBigEndian then g.reverse else g)
  let blank := all - fields.length
  placed pad k.width all pad all fields ++
    (if k.showsText then
      List.replicate (blank * k.width + pad * blank / all) ' ' ++ textOf octets
    else [])

/-- An address. -/
def Style.address (s : Style) (n : Nat) : Text :=
  match s.addresses with
  | none => []
  | some (base, digits) => (Nat.toDigits base n).leftpad digits '0'

/-- The lines for some octets. -/
def Style.lines (s : Style) (address : Nat) (octets : Text) : Text :=
  let numbers := octets.map Char.toNat
  let lead := s.address address
  (s.columns.zipIdx).flatMap fun (k, i) =>
    (if i = 0 then lead else List.replicate (s.addresses.elim 0 fun (base, _) =>
        if base = 16 then 6 else 7) ' ') ++ s.lineIn k numbers ++ ['\n']

/-- Where a dump is. -/
structure State where
  skip : Nat
  /-- How many octets are still wanted. -/
  left : Option Nat
  rest : Text
  address : Nat
  last : Option Text
  isRepeated : Bool

/-- Shows all whole lines of what is there. The second list is what is shown, the last first. -/
def Style.whole (s : Style) : Nat → State → List Text → State × List Text
  | 0, st, done => (st, done)
  | fuel + 1, st, done =>
    let block := st.rest.take s.width
    if block.length < s.width then (st, done)
    else
      let isSame := !s.showsAll && st.last == some block
      let shown : Text :=
        if isSame then if st.isRepeated then [] else ['*', '\n'] else s.lines st.address block
      s.whole fuel
        { st with
          rest := st.rest.drop s.width, address := st.address + s.width, last := some block
          isRepeated := isSame } (shown :: done)

/-- A dump as it goes on piece by piece. -/
def Style.stream (s : Style) : Stream State where
  take := fun st piece =>
    let kept := piece.drop st.skip
    let skip := st.skip - piece.length
    let (wanted, back) := match st.left with
      | none => (kept, [])
      | some n => (kept.take n, kept.drop n)
    let st := { st with
      skip := skip, left := st.left.map (· - wanted.length), rest := st.rest ++ wanted }
    let (st, done) := s.whole (st.rest.length + 1) st []
    (st, done.reverse.flatten, back)
  isOver := fun st => st.left == some 0 && st.skip = 0

/-! ### Strings -/

/-- Where a search for strings is. -/
structure Hunt where
  skip : Nat
  left : Option Nat
  address : Nat
  /-- What may be a string, the last character first. -/
  run : Text

/-- The string that has been found, behind its address. The end of what is wanted ends it, too. -/
def Style.found (s : Style) (least : Nat) (h : Hunt) : Text :=
  if h.run.length < least then []
  else
    let lead : Text :=
      if s.addresses.isSome then s.address (h.address - h.run.length) ++ [' '] else []
    lead ++ h.run.reverse ++ ['\n']

/-- Goes on to the next character. -/
def Style.hunt (s : Style) (least : Nat) (h : Hunt) (c : Char) : Hunt × Text :=
  let next := { h with address := h.address + 1, left := h.left.map (· - 1) }
  if isPrintable c then
    let next := { next with run := c :: h.run }
    if next.left = some 0 && next.run.length > least then
      (next, s.found least { next with address := next.address - 1 })
    else (next, [])
  else ({ next with run := [] }, if c = '\x00' then s.found least h else [])

/-- The strings that end with a zero, as a stream. -/
def Style.strings (s : Style) (least : Nat) : Stream Hunt where
  take := fun h piece =>
    let kept := piece.drop h.skip
    let h := { h with skip := h.skip - piece.length }
    let wanted := h.left.elim kept kept.take
    let (h, found) := wanted.foldl (fun ((h, found) : Hunt × List Text) c =>
      let (h, t) := s.hunt least h c
      (h, t :: found)) (h, [])
    (h, found.reverse.flatten, kept.drop wanted.length)
  isOver := fun h => h.left == some 0 && h.skip = 0

/-! ### Options -/

/-- The size that stands behind the letter of a type, and what follows it. -/
def sizeOf (kind : Kind) (t : Text) : Except Text (Nat × Text) :=
  let usual := match kind with
    | .real => 8
    | _ => 4
  let letters : List (Char × Nat) := match kind with
    | .real => [('F', 4), ('D', 8), ('L', 16)]
    | _ => [('C', 1), ('S', 2), ('I', 4), ('L', 8)]
  match t with
  | [] => .ok (usual, [])
  | c :: rest =>
    match letters.lookup c with
    | some n => .ok (n, rest)
    | none =>
      let digits := t.takeWhile Char.isDigit
      if digits.isEmpty then .ok (usual, t)
      else .ok (Numeral.value 10 0 digits, t.drop digits.length)

/-- Whether numbers of so many octets can be shown. -/
def Kind.hasSize (kind : Kind) (n : Nat) : Bool :=
  match kind with
  | .real => [4, 8, 16].contains n
  | _ => [1, 2, 4, 8].contains n

/-- The ways that a text stands for. -/
def columnsOf (whole : Text) : Nat → Text → Except Text (List Column)
  | 0, _ => .ok []
  | _ + 1, [] => .ok []
  | fuel + 1, c :: rest => do
    let kind : Kind ← match c with
      | 'a' => pure .named
      | 'c' => pure .character
      | 'd' => pure .signed
      | 'u' => pure .unsigned
      | 'o' => pure .octal
      | 'x' => pure .hex
      | 'f' => pure .real
      | c =>
        throw ("invalid character '".toList ++ [c] ++ "' in type string ".toList ++ quoted whole)
    let (size, rest) ← match kind with
      | .named | .character => pure (1, rest)
      | kind => sizeOf kind rest
    if (kind != .named && kind != .character) && !kind.hasSize size then
      throw ("invalid type string ".toList ++ quoted whole ++
        ";\nthis system doesn't provide a ".toList ++ Text.ofNat size ++
        (if kind == .real then "-byte floating point type".toList
          else "-byte integral type".toList))
    let showsText := rest.head? = some 'z'
    let l ← columnsOf whole fuel (if showsText then rest.drop 1 else rest)
    pure (⟨kind, size, showsText⟩ :: l)

/-- The types that letters stand for. -/
def oldTypes : List (String × String) :=
  [("a", "a"), ("b", "o1"), ("B", "o2"), ("c", "c"), ("D", "u4"), ("d", "u2"), ("e", "fD"),
    ("F", "fD"), ("f", "fF"), ("H", "x4"), ("h", "x2"), ("I", "dL"), ("i", "dI"), ("L", "dL"),
    ("l", "dL"), ("O", "o4"), ("o", "o2"), ("s", "d2"), ("X", "x4"), ("x", "x2")]

/-- The options. -/
def switches : List Switch :=
  [valued 'A' "address-radix", named "endian" .value, valued 'j' "skip-bytes",
    valued 'N' "read-bytes", valued 'S' "", named "strings" .maybe, valued 't' "format",
    flag 'v' "output-duplicates", ⟨some 'w', "width", .maybe⟩, named "traditional" .nothing] ++
    oldTypes.map fun (letter, _) => ⟨letter.toList.head?, "", .nothing⟩

/-- A number among the options, which can be written in other bases. -/
def numberOf (option : String) (t : Text) : Work Nat := do
  let read : Option Nat := match Numeral.integer? 0 t with
    | some (n, rest) => if n < 0 then none else multiplied? n.toNat rest
    | none => none
  match read with
  | some n => pure n
  | none => giveUp ("invalid ".toList ++ option.toList ++ " argument ".toList ++ quoted t)

/-- The ways that options ask for. -/
def allColumns : List (String × Text) → Work (List Column)
  | [] => pure []
  | (key, t) :: rest => do
    let type : Option Text := if key == "format" then some t
      else (oldTypes.lookup key).map String.toList
    match type with
    | none => allColumns rest
    | some t =>
      match columnsOf t (t.length + 1) t with
      | .error e => giveUp e
      | .ok l => do pure (l ++ (← allColumns rest))

/-- The offset that an operand stands for: octal, or hexadecimal behind `0x`, in a unit. -/
def offset? (t : Text) : Option Nat :=
  let t := match t with
    | '+' :: rest => rest
    | t => t
  let read : Nat × Text := match t with
    | '0' :: 'x' :: rest | '0' :: 'X' :: rest => (16, rest)
    | t => (8, t)
  if '.' ∈ t then none
  else
    match Numeral.digits? read.1 read.2 with
    | some (n, []) => some n
    | some (n, ['b']) => some (512 * n)
    | some (n, ['B']) => some (1024 * n)
    | _ => none

/-- The files and the offset that operands stand for, where options leave room for an offset. -/
def operandsOf (g : Given) : Work (List Text × Option Nat) := do
  let isModern := ["address-radix", "skip-bytes", "read-bytes", "S", "strings", "format",
    "output-duplicates", "width"].any g.has
  let isOld := g.has "traditional"
  if isModern && !isOld then pure (filesOf g, none)
  else
    let offsetIn (t : Text) (digits : Bool) : Option Nat :=
      if isOld || t.head? == some '+' || (digits && (t.head?.map Char.isDigit).getD false) then
        offset? t
      else none
    let (files, start) := match g.operands with
      | [t] => (offsetIn t false).elim ([t], none) fun n => ([['-']], some n)
      | [file, t] => (offsetIn t true).elim ([file, t], none) fun n => ([file], some n)
      | _ => (filesOf g, none)
    if isOld then
      match files with
      | _ :: extra :: _ => do
        complain 1 ("extra operand ".toList ++ quoted extra)
        misuse "compatibility mode supports at most one file".toList
      | _ => pure ()
    pure (files, start)

/-- Uses the files that can be opened. The flag tells whether there is one. -/
def foldOpened {σ : Type} (use : Nat → σ → Work (Except Obstacle σ)) (st : σ) (files : List Text) :
    Work (Bool × σ) :=
  files.foldlM (fun ((isRead, st) : Bool × σ) file => do
    match ← openInput file with
    | .error e =>
      complain 1 (faultOf file e.wording)
      pure (isRead, st)
    | .ok d =>
      let r ← use d st
      closeInput d
      match r with
      | .ok st => pure (true, st)
      | .error e =>
        complain 1 (faultOf file e.wording)
        pure (true, st)) (false, st)

/-- How many octets stand in a line. -/
def widthOf (g : Given) (columns : List Column) : Work Nat := do
  let unit := columns.foldl (fun n (k : Column) => Nat.lcm n k.size) 1
  match g.last? "width" with
  | none => pure (unit * (16 / unit))
  | some t =>
    let n ← if t.isEmpty then pure 32 else numberOf "-w" t
    if n = 0 then
      step (Prog.act fun w => ((), w.signal w.current 6))
      pure unit
    else if n % unit = 0 then pure n
    else
      complain 0 ("warning: invalid width ".toList ++ Text.ofNat n ++ "; using ".toList ++
        Text.ofNat unit ++ " instead".toList)
      pure unit

/-- The base of addresses and how many digits they have. -/
def addressesOf (g : Given) : Work (Option (Nat × Nat)) :=
  match g.last? "address-radix" with
  | none => pure (some (8, 7))
  | some t =>
    match t.head? with
    | some 'o' => pure (some (8, 7))
    | some 'd' => pure (some (10, 7))
    | some 'x' => pure (some (16, 6))
    | some 'n' => pure none
    | _ =>
      giveUp ("invalid output address radix '".toList ++ t.take 1 ++
        "'; it must be one character from [doxn]".toList)

/-- The number that an option has; without the option there is none. -/
def numberIn (g : Given) (key option : String) : Work (Option Nat) :=
  match g.last? key with
  | none => pure none
  | some t => do pure (some (← numberOf option t))

/-- How long strings are at least, if they are asked for. -/
def leastIn (g : Given) : Work (Option Nat) := do
  match ← numberIn g "S" "-S" with
  | some n => pure (some n)
  | none =>
    match g.last? "strings" with
    | some [] => pure (some 3)
    | _ => numberIn g "strings" "--strings"

end Dump

/-- Shows the octets of files. -/
def od : Program :=
  toolOf usualManner Dump.switches fun g => do
    let addresses ← Dump.addressesOf g
    let isBig ← match g.last? "endian" with
      | none => pure false
      | some t => pick 1 "'--endian'".toList [(["little"], false), (["big"], true)] t
    let skip ← Dump.numberIn g "skip-bytes" "-j"
    let most ← Dump.numberIn g "read-bytes" "-N"
    let least ← Dump.leastIn g
    let columns ← Dump.allColumns g.options
    if least.isSome && !columns.isEmpty then
      giveUp "no type may be specified when dumping strings".toList
    let columns := if columns.isEmpty then [⟨.octal, 2, false⟩] else columns
    let (files, start) ← Dump.operandsOf g
    let width ← Dump.widthOf g columns
    let s : Dump.Style := ⟨columns, addresses, width, g.has "output-duplicates", isBig⟩
    let skip := start.getD (skip.getD 0)
    let checkSkip (left : Nat) : Work Unit :=
      if left > 0 then giveUp "cannot skip past end of combined input".toList else pure ()
    match least with
    | some least =>
      let start := ⟨skip, most, skip, []⟩
      let (isRead, h) ← Dump.foldOpened (fun d h => feed (s.strings least) d h) start files
      if isRead then checkSkip h.skip
    | none =>
      let (isRead, st) ← Dump.foldOpened (fun d st => feed s.stream d st)
        ⟨skip, most, [], skip, none, false⟩ files
      if isRead then
        checkSkip st.skip
        if !st.rest.isEmpty then say (s.lines st.address st.rest)
        if addresses.isSome then sayLine (s.address (st.address + st.rest.length))

end Console.Host.Tool
