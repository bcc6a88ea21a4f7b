import Console.Host.Tool.Repeated

/-! Counting of lines, words and octets. -/

namespace Console.Host.Tool

open Work

/-- What is counted in a file. -/
structure Counts where
  lines : Nat
  words : Nat
  octets : Nat
  /-- The width of the widest line. -/
  widest : Nat
  deriving DecidableEq, Repr

/-- The counts of two files together. -/
def Counts.add (a b : Counts) : Counts :=
  ⟨a.lines + b.lines, a.words + b.words, a.octets + b.octets, max a.widest b.widest⟩

/-- Counting on its way: whether a word has begun, and the column. -/
structure Counting where
  counts : Counts
  inWord : Bool
  column : Nat

/-- Ends a line that is as wide as the column says. -/
def Counting.measured (k : Counting) : Counting :=
  { k with
    counts := { k.counts with widest := max k.counts.widest k.column }, column := 0 }

/-- Counts a character. Words are made of characters that can be shown. -/
def Counting.count (k : Counting) (c : Char) : Counting :=
  let k := { k with counts := { k.counts with octets := k.counts.octets + 1 } }
  match c with
  | '\n' =>
    let k := k.measured
    { k with counts := { k.counts with lines := k.counts.lines + 1 }, inWord := false }
  | '\r' | '\x0c' => { k.measured with inWord := false }
  | '\t' => { k with inWord := false, column := k.column + 8 - k.column % 8 }
  | ' ' => { k with inWord := false, column := k.column + 1 }
  | '\x0b' => { k with inWord := false }
  | c =>
    if isPrintable c then
      let words := if k.inWord then k.counts.words else k.counts.words + 1
      { k with counts := { k.counts with words := words }, inWord := true, column := k.column + 1 }
    else k

/-- Counting as a stream. -/
def countStream : Stream Counting where
  take := fun k piece => (piece.foldl Counting.count k, [], [])
  isOver := fun _ => false

/-- The columns that are shown. -/
structure CountColumns where
  lines : Bool
  words : Bool
  chars : Bool
  octets : Bool
  widest : Bool

/-- A line of counts, with a name if there is one. -/
def CountColumns.shown (s : CountColumns) (width : Nat) (c : Counts) (name : Option Text) : Text :=
  let column (wanted : Bool) (n : Nat) : List Text :=
    if wanted then [(Text.ofNat n).leftpad width ' '] else []
  let numbers := column s.lines c.lines ++ column s.words c.words ++ column s.chars c.octets ++
    column s.octets c.octets ++ column s.widest c.widest
  Text.join [' '] (numbers ++ name.toList)

/-- The size of a file, if it is regular; nothing if it cannot be found. -/
def sizeFor (w : Kernel) (file : Text) : Option (Option Nat) :=
  let sized (n : Nat) : Option Nat := if w.files.isFile n then some (w.files.sizeOf n) else none
  if file = ['-'] then
    (w.opening? 0).map fun o =>
      match o.target with
      | .node n => sized n
      | _ => none
  else (w.files.find? w.self.directory file).map sized

/-- The width of columns of counts. -/
def countWidth (sizes : List (Option (Option Nat))) : Nat :=
  let known := sizes.filterMap id
  let total := known.foldl (fun n s => n + s.getD 0) 0
  max (Text.ofNat total).length (if known.any Option.isNone then 7 else 1)

/-- Counts lines, words and octets. -/
def wc : Program :=
  toolOf usualManner
    [flag 'c' "bytes", flag 'm' "chars", flag 'l' "lines", flag 'w' "words",
      flag 'L' "max-line-length", named "files0-from" .value, named "total" .value,
      named "debug" .nothing]
    fun g => do
      let asked := ["lines", "words", "chars", "bytes", "max-line-length"].filter g.has
      let s : CountColumns :=
        if asked.isEmpty then ⟨true, true, false, true, false⟩
        else ⟨g.has "lines", g.has "words", g.has "chars", g.has "bytes", g.has "max-line-length"⟩
      let total ← match g.last? "total" with
        | none => pure "auto"
        | some t => chosen "total" ["auto", "always", "only", "never"] t
      let files := filesOf g
      let sizes ← step (Prog.see fun w => files.map (sizeFor w))
      let width :=
        if total == "only" || files.length = 1 && asked.length = 1 then 1 else countWidth sizes
      let display (c : Counts) (name : Option Text) : Work Unit :=
        if total == "only" then pure () else sayLine (s.shown width c name)
      let start : Counting := ⟨⟨0, 0, 0, 0⟩, false, 0⟩
      let counts ← files.mapM fun file => do
        match ← openInput file with
        | .error e =>
          complain 1 (faultOf file e.wording)
          pure start.counts
        | .ok d =>
          let r ← feed countStream d start
          closeInput d
          let counts ← match r with
            | .ok k => pure k.measured.counts
            | .error e => do
              complain 1 (faultOf file e.wording)
              pure start.counts
          display counts (if g.operands.isEmpty then none else some file)
          pure counts
      let sum := counts.foldl Counts.add start.counts
      if total == "only" then sayLine (s.shown 1 sum none)
      else if total == "always" || total == "auto" && files.length > 1 then
        sayLine (s.shown width sum (some "total".toList))

end Console.Host.Tool
