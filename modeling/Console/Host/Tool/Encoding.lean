import Console.Host.Numeral
import Console.Host.Tool.Work

/-! Octets written in 64 digits, group by group, in lines of a width. Reading takes such text apart
    again and stops at what is none. -/

namespace Console.Host.Tool

open Work

namespace Encoding

/-- The digits, from zero on. -/
def digits : Text :=
  let capitals := (List.range 26).map fun n => Char.ofNat ('A'.toNat + n)
  capitals ++ capitals.map Char.toLower ++ "0123456789+/".toList

/-- How many bits a digit stands for. -/
def digitBits : Nat := 6

/-- How many octets are in a group. -/
def groupOctets : Nat := 3

/-- How many digits are in a group. -/
def groupDigits : Nat := 4

/-- The value of a digit. -/
def value? (c : Char) : Option Nat := digits.findIdx? (· == c)

/-- The number of a row of digits of a base, the highest first. -/
def number (base : Nat) (l : List Nat) : Nat := l.foldl (fun n d => n * base + d) 0

/-- So many digits of a number in a base, the highest first. -/
def digitsOf (base : Nat) : Nat → Nat → List Nat
  | 0, _ => []
  | count + 1, n => digitsOf base count (n / base) ++ [n % base]

/-! ### Writing -/

/-- The digits of a group of octets, filled up if it is not whole. -/
def group (octets : Text) : Text :=
  let count := (8 * octets.length + digitBits - 1) / digitBits
  let shift := count * digitBits - 8 * octets.length
  let n := number 256 (octets.map Char.toNat) * twoTo shift
  ((digitsOf (twoTo digitBits) count n).map fun d => digits.getD d '=').rightpad groupDigits '='

/-- The digits of all whole groups of a text, and the octets that are left. -/
def groups : Nat → List Text → Text → List Text × Text
  | 0, done, t => (done, t)
  | fuel + 1, done, t =>
    let octets := t.take groupOctets
    if octets.length < groupOctets then (done, t)
    else groups fuel (group octets :: done) (t.drop groupOctets)

/-- Cuts a text into lines of a width, the first of which begins at a column, and puts the pieces
    in front of a list. -/
def wrapped (width : Nat) : Nat → Nat → List Text → Text → List Text × Nat
  | 0, column, done, _ => (done, column)
  | fuel + 1, column, done, t =>
    if t.isEmpty then (done, column)
    else
      let (column, done) : Nat × List Text :=
        if column = width then (0, ['\n'] :: done) else (column, done)
      let piece := t.take (width - column)
      wrapped width fuel (column + piece.length) (piece :: done) (t.drop piece.length)

/-- Lines of a width; zero stands for no limit. -/
def inLines (width column : Nat) (t : Text) : Text × Nat :=
  if width = 0 then (t, column + t.length)
  else
    let (pieces, column) := wrapped width (t.length + 1) column [] t
    (pieces.reverse.flatten, column)

/-- Writing as a stream. The state is what is left of the last group, and the column. -/
def writing (width : Nat) : Stream (Text × Nat) where
  take := fun (kept, column) piece =>
    let (groups, kept) := groups (kept.length + piece.length + 1) [] (kept ++ piece)
    let (t, column) := inLines width column groups.reverse.flatten
    ((kept, column), t, [])
  isOver := fun _ => false

/-! ### Reading -/

/-- The octets of a group of digits as far as it is one, and whether it is. Of the digits each
    octet needs some more. -/
def octetsOf (t : Text) : Text × Bool :=
  let isFull := t.length = groupDigits
  let rec taken : List Nat → Text → List Nat → Text × Bool
    | [], t, _ => ([], t.isEmpty)
    | n :: stages, t, before =>
      let isEnd := !before.isEmpty && isFull && !t.isEmpty && t.all (· == '=')
      let values := (t.take n).mapM value?
      match values with
      | some l =>
        if isEnd || l.length < n then ([], isEnd)
        else
          let all := before ++ l
          let bits := all.length * digitBits
          let octet := number (twoTo digitBits) all / twoTo (bits % 8) % 256
          let (rest, isGood) := taken stages (t.drop n) all
          (Char.ofNat octet :: rest, isGood)
      | none => ([], isEnd)
  taken [2, 1, 1] t []

/-- The octets of all whole groups, the last ones first, the digits that are left, and whether all
    of them are groups. -/
def read : Nat → List Text → Text → List Text × Text × Bool
  | 0, done, t => (done, t, true)
  | fuel + 1, done, t =>
    let group := t.take groupDigits
    if group.length < groupDigits then (done, t, true)
    else
      match octetsOf group with
      | (octets, true) => read fuel (octets :: done) (t.drop groupDigits)
      | (octets, false) => (octets :: done, [], false)

/-- Reading as a stream. The state is what is left of the last group, and whether all is well. -/
def reading (skipsOthers : Bool) : Stream (Text × Bool) where
  take := fun (kept, _) piece =>
    let isDigit (c : Char) : Bool :=
      if skipsOthers then c == '=' || (value? c).isSome else c != '\n'
    let digits := piece.filter isDigit
    let (octets, kept, isGood) := read (kept.length + digits.length + 1) [] (kept ++ digits)
    ((kept, isGood), octets.reverse.flatten, [])
  isOver := fun (_, isGood) => !isGood

/-! ### Options -/

/-- The options. -/
def switches : List Switch :=
  [flag 'd' "decode", flag 'i' "ignore-garbage", valued 'w' "wrap"]

/-- The width of lines. -/
def widthOf (g : Given) : Work Nat :=
  match g.last? "wrap" with
  | none => pure 76
  | some t =>
    match Numeral.integer? 10 t with
    | some (n, []) =>
      if n < 0 then giveUp ("invalid wrap size: ".toList ++ quoted t)
      else pure (if n < Word.half then n.toNat else 0)
    | _ => giveUp ("invalid wrap size: ".toList ++ quoted t)

/-- Reads the digits of a descriptor, or writes its octets in digits. -/
def recode (g : Given) (width descriptor : Nat) : Work Unit := do
  let failed {α : Type} (e : Obstacle) : Work α := giveUp ("read error: ".toList ++ e.wording)
  if g.has "decode" then
    match ← feed (reading (g.has "ignore-garbage")) descriptor ([], true) with
    | .error e => failed e
    | .ok (kept, isGood) =>
      if !isGood then giveUp "invalid input".toList
      if !kept.isEmpty then
        let (octets, isGood) := octetsOf kept
        say octets
        if !isGood then giveUp "invalid input".toList
  else
    match ← feed (writing width) descriptor ([], 0) with
    | .error e => failed e
    | .ok (kept, column) =>
      let (t, column) := inLines width column (if kept.isEmpty then [] else group kept)
      say t
      if width > 0 && column > 0 then say ['\n']

end Encoding

/-- Writes the file that is named, or the input of the tool, in base 64, or reads it. -/
def base64 : Program :=
  toolOf usualManner Encoding.switches fun g => do
    let width ← Encoding.widthOf g
    let file ← match g.operands with
      | [] => pure ['-']
      | [file] => pure file
      | _ :: extra :: _ => misuse ("extra operand ".toList ++ quoted extra)
    match ← openInput file with
    | .error e => giveUp (faultOf file e.wording)
    | .ok d => Encoding.recode g width d

end Console.Host.Tool
