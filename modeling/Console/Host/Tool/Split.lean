import Console.Host.Tool.Work

/-! A tool that splits a file into further ones: by lines, by octets, or into so many shares. The
    names of the pieces end in letters or digits, which count the pieces. -/

namespace Console.Host.Tool

open Work

namespace Split

/-- What a share is made of: octets as they come, or lines that begin in the share or take turns. -/
inductive Unit_ where
  | octets
  | lines
  | turns
  deriving DecidableEq, Repr

/-- How a file is split. -/
inductive Way where
  | lines (n : Nat)
  | octets (n : Nat)
  /-- As many lines as there is room for. -/
  | filled (n : Nat)
  /-- So many shares, of which perhaps only one is shown. -/
  | shares (u : Unit_) (n : Nat) (only : Option Nat)
  deriving DecidableEq, Repr

/-! ### Pieces -/

/-- The lines of a text with what ends them. -/
def linesWith (ending : Char) (line : Text) : Text → List Text
  | [] => if line.isEmpty then [] else [line.reverse]
  | c :: rest =>
    if c = ending then (c :: line).reverse :: linesWith ending [] rest
    else linesWith ending (c :: line) rest

/-- The parts of a list with so many members each. -/
def parts {α : Type} (n : Nat) : Nat → List α → List (List α)
  | 0, _ => []
  | _ + 1, [] => []
  | fuel + 1, l => l.take n :: parts n fuel (l.drop n)

/-- The pieces with so many octets at most that end where a line does, if they hold the end of one. -/
def filled (ending : Char) (n : Nat) : Nat → Text → List Text
  | 0, _ => []
  | _ + 1, [] => []
  | fuel + 1, t =>
    if t.length < n then [t]
    else
      let front := t.take n
      let kept := (front.reverse.dropWhile (· != ending)).reverse
      let piece := if kept.isEmpty then front else kept
      piece :: filled ending n fuel (t.drop piece.length)

/-- The sizes of so many shares, of which the first ones can be larger by one. -/
def shareSizes (size n : Nat) : List Nat :=
  (List.range n).map fun i => size / n + (if i < size % n then 1 else 0)

/-- Parts of a text of these sizes. -/
def cutAt : List Nat → Text → List Text
  | [], _ => []
  | n :: rest, t => t.take n :: cutAt rest (t.drop n)

/-- Lines that belong to the share in which they begin. The shares that are left begin at a place and
    have these sizes. -/
def lineShares : Nat → List Nat → List Text → List Text
  | _, [], _ => []
  | lead, n :: sizes, lines =>
    let rec fits : Nat → List Text → List Text × Nat
      | _, [] => ([], 0)
      | at_, line :: rest =>
        if at_ < n then
          let (l, stop) := fits (at_ + line.length) rest
          (line :: l, stop)
        else ([], at_ - n)
    let (mine, excess) := fits lead lines
    let excess := if mine.length = lines.length then 0 else excess
    mine.flatten :: lineShares excess sizes (lines.drop mine.length)

/-- Lines that belong to shares in turns. -/
def turns (n : Nat) (lines : List Text) : List Text :=
  (List.range n).map fun i =>
    ((lines.zip (List.range lines.length)).filter fun (_, k) => k % n = i).flatMap Prod.fst

/-- The pieces of a text. -/
def pieces (w : Way) (ending : Char) (t : Text) : List Text :=
  match w with
  | .lines n => (parts n (t.length + 1) (linesWith ending [] t)).map List.flatten
  | .octets n => parts n (t.length + 1) t
  | .filled n => filled ending n (t.length + 1) t
  | .shares .octets n _ => cutAt (shareSizes t.length n) t
  | .shares .lines n _ => lineShares 0 (shareSizes t.length n) (linesWith ending [] t)
  | .shares .turns n _ => turns n (linesWith ending [] t)

/-! ### Names -/

/-- What names of pieces end in. -/
structure Naming where
  alphabet : Text
  length : Nat
  /-- Whether they get longer when there are no more of a length. -/
  widens : Bool
  start : Nat

/-- A number written with the characters of an alphabet. -/
def spelled (alphabet : Text) : Nat → Nat → Text
  | 0, _ => []
  | length + 1, n =>
    spelled alphabet length (n / alphabet.length) ++ [alphabet.getD (n % alphabet.length) 'a']

/-- A number written so that longer ones stand behind shorter ones in the order of texts. -/
def widened (alphabet : Text) : Nat → Nat → Nat → Text
  | 0, length, n => spelled alphabet length n
  | fuel + 1, length, n =>
    let count := (alphabet.length - 1) * alphabet.length ^ (length - 1)
    if n < count then spelled alphabet length n
    else alphabet.getLastD 'z' :: widened alphabet fuel (length + 1) (n - count)

/-- The end of the name of a piece, counted from zero. -/
def Naming.suffix? (m : Naming) (n : Nat) : Option Text :=
  let n := n + m.start
  if m.widens then some (widened m.alphabet 64 m.length n)
  else if n < Nat.pow m.alphabet.length m.length then some (spelled m.alphabet m.length n)
  else none

/-- How long the ends of names must be for so many pieces. -/
def neededLength (base : Nat) : Nat → Nat → Nat
  | 0, _ => 1
  | fuel + 1, last => if last < base then 1 else 1 + neededLength base fuel (last / base)

/-! ### Arguments -/

/-- A count that an argument says. -/
def count (what : String) (t : Text) : Work Nat := do
  match size? t with
  | some (n + 1) => pure (n + 1)
  | _ => giveUp ("invalid number of ".toList ++ what.toList ++ ": ".toList ++ quoted t)

/-- A count that has no unit. -/
def plainCount (what : String) (t : Text) : Work Nat := do
  if t.all Char.isDigit then count what t
  else giveUp ("invalid number of ".toList ++ what.toList ++ ": ".toList ++ quoted t)

/-- The shares that an argument asks for. -/
def sharesOf (t : Text) : Work Way := do
  let (u, t) : Unit_ × Text := match t with
    | 'l' :: '/' :: rest => (.lines, rest)
    | 'r' :: '/' :: rest => (.turns, rest)
    | t => (.octets, t)
  let front := t.takeWhile Char.isDigit
  match Text.toNat? front, t.drop front.length with
  | some k, '/' :: rest =>
    let n ← plainCount "chunks" rest
    if k = 0 || k > n then giveUp ("invalid chunk number: ".toList ++ quoted front)
    pure (.shares u n (some (k - 1)))
  | _, _ => do pure (.shares u (← plainCount "chunks" t) none)

/-- How the arguments want a file to be split. -/
def wayOf (g : Given) : Work Way := do
  let digits := (g.options.filter fun (k, _) => k.length = 1 && k.all Char.isDigit).flatMap
    fun (k, _) => k.toList
  let asked := g.options.filter fun (k, _) =>
    k == "lines" || k == "bytes" || k == "line-bytes" || k == "number"
  match asked, digits with
  | [], [] => pure (.lines 1000)
  | [], digits => do pure (.lines (← plainCount "lines" digits))
  | [("bytes", t)], [] => do pure (.octets (← count "bytes" t))
  | [("line-bytes", t)], [] => do pure (.filled (← count "lines" t))
  | [("number", t)], [] => sharesOf t
  | [(_, t)], [] => do pure (.lines (← plainCount "lines" t))
  | _, _ => misuse "cannot split in more than one way".toList

/-- What ends lines. -/
def endingOf (g : Given) : Work Char := do
  let chars : List Char ← (g.all "separator").mapM fun t =>
    match t with
    | [] => giveUp "empty record separator".toList
    | [c] => pure c
    | ['\\', '0'] => pure '\x00'
    | t => giveUp ("multi-character separator ".toList ++ quoted t)
  match chars.eraseDups with
  | [] => pure '\n'
  | [c] => pure c
  | _ => giveUp "multiple separator characters specified".toList

/-- The digits with which names count. -/
def digits : Text := "0123456789".toList

/-- The number from which names count, if it is given. -/
def startOf (g : Given) : Work (Option Nat) := do
  let check (t : Text) (base : Nat) (kind : String) : Work Nat :=
    if t.all (Numeral.isDigit base) then pure (Numeral.value base 0 t)
    else misuse (quoted t ++ ": invalid start value for ".toList ++ kind.toList ++
      " suffix".toList)
  match (g.options.filter fun (k, v) => k.endsWith "-suffixes" && !v.isEmpty).getLast? with
  | some ("hex-suffixes", t) => do pure (some (← check t 16 "hexadecimal"))
  | some (_, t) => do pure (some (← check t 10 "numerical"))
  | none => pure none

/-- What names of pieces end in. -/
def namingOf (g : Given) (w : Way) : Work Naming := do
  let alphabet := match g.lastOf? ["d", "x", "numeric-suffixes", "hex-suffixes"] with
    | some "d" | some "numeric-suffixes" => digits
    | some _ => digits ++ "abcdef".toList
    | none => "abcdefghijklmnopqrstuvwxyz".toList
  let start ← startOf g
  let needed : Option Nat := match w with
    | .shares _ n _ =>
      let first := (start.filter fun s => s < n).getD 0
      some (neededLength alphabet.length 64 (n - 1 + first))
    | _ => none
  let wanted ← match g.last? "suffix-length" with
    | none => pure 0
    | some t =>
      match Text.toNat? t with
      | some n => pure n
      | none => giveUp ("invalid suffix length: ".toList ++ quoted t)
  if 0 < wanted && wanted < needed.getD 0 then
    giveUp ("the suffix length needs to be at least ".toList ++ Text.ofNat (needed.getD 0))
  let length := if wanted > 0 then wanted else max 2 (needed.getD 0)
  if start.any fun s => neededLength alphabet.length 64 s > length then
    misuse "numerical suffix start value is too large for the suffix length".toList
  pure ⟨alphabet, length, wanted = 0 && start.isNone && needed.isNone, start.getD 0⟩

/-! ### Files -/

/-- Writes pieces into files, and tells about them if that is wanted. -/
def writePieces (tells : Bool) (lead tail : Text) (m : Naming) : Nat → List Text → Work Unit
  | _, [] => pure ()
  | n, t :: rest => do
    match m.suffix? n with
    | none => giveUp "output file suffixes exhausted".toList
    | some suffix =>
      let name := lead ++ suffix ++ tail
      if tells then sayLine ("creating file ".toList ++ quotedName name)
      match ← step (Prog.open_ 3 name .writing Prog.openMode) with
      | .error e => giveUp (faultOf name e.wording)
      | .ok d =>
        match ← step (Prog.write d t) with
        | .error e => giveUp (faultOf name e.wording)
        | .ok () => step (Prog.close d)
      writePieces tells lead tail m (n + 1) rest

end Split

/-- Splits a file into further ones. -/
def split : Program :=
  toolOf usualManner
    (flags "dx0123456789" ++
      [valued 'a' "suffix-length", named "additional-suffix" .value, valued 'b' "bytes",
        valued 'C' "line-bytes", flag 'e' "elide-empty-files", valued 'l' "lines",
        valued 'n' "number", valued 't' "separator", flag 'u' "unbuffered",
        named "numeric-suffixes" .maybe, named "hex-suffixes" .maybe, named "verbose" .nothing])
    fun g => do
      let way ← Split.wayOf g
      let ending ← Split.endingOf g
      let tail := (g.last? "additional-suffix").getD []
      if tail.elem '/' then
        misuse ("invalid suffix ".toList ++ quoted tail ++
          ", contains directory separator".toList)
      let (file, lead) ← match g.operands with
        | [] => pure (['-'], ['x'])
        | [file] => pure (file, ['x'])
        | [file, lead] => pure (file, lead)
        | _ :: _ :: extra :: _ => misuse ("extra operand ".toList ++ quoted extra)
      let naming ← Split.namingOf g way
      match ← openInput file with
      | .error e =>
        giveUp ("cannot open ".toList ++ quotedName file ++ " for reading: ".toList ++ e.wording)
      | .ok d =>
        match ← readAll d with
        | .error e =>
          let lead : String := match way with
            | .shares .octets _ _ | .shares .lines _ _ => "cannot determine file size: "
            | _ => ""
          giveUp (faultOf file (lead.toList ++ e.wording))
        | .ok t =>
          let pieces := Split.pieces way ending t
          match way with
          | .shares _ _ (some k) => say (pieces.getD k [])
          | _ =>
            let pieces := if g.has "elide-empty-files" then pieces.filter fun t => !t.isEmpty
              else pieces
            Split.writePieces (g.has "verbose") lead tail naming 0 pieces

end Console.Host.Tool
