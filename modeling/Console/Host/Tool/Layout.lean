import Console.Host.Numeral
import Console.Host.Tool.Work

/-! Tools for the layout of lines: they are broken at a width, and tabs become blanks or blanks
    tabs. -/

namespace Console.Host.Tool

open Work

/-! ### Width -/

/-- How lines are broken. -/
structure Breaking where
  width : Nat
  /-- Whether octets are counted, and otherwise columns. -/
  countsOctets : Bool
  atBlanks : Bool

/-- The column behind a character. -/
def Breaking.advance (b : Breaking) (column : Nat) (c : Char) : Nat :=
  if b.countsOctets then column + 1
  else
    match c with
    | '\x08' => column - 1
    | '\r' => 0
    | '\t' => column + 8 - column % 8
    | _ => column + 1

/-- The column behind a text, which is given from its last character. -/
def Breaking.column (b : Breaking) (reversed : Text) : Nat := reversed.reverse.foldl b.advance 0

/-- Breaks a line. The start of the current part is given from its last character. -/
def Breaking.broken (b : Breaking) : Nat → Text → Nat → Text → List Text
  | 0, current, _, t => [current.reverse ++ t]
  | _ + 1, current, _, [] => [current.reverse]
  | fuel + 1, current, column, c :: rest =>
    let next := b.advance column c
    if next ≤ b.width || current.isEmpty then b.broken fuel (c :: current) next rest
    else
      let behind := current.takeWhile fun c => c != ' ' && c != '\t'
      if b.atBlanks && behind.length < current.length then
        let front := current.drop behind.length
        front.reverse :: b.broken fuel behind (b.column behind) (c :: rest)
      else current.reverse :: b.broken fuel [] 0 (c :: rest)

/-- Counts behind a hyphen as the values of an option. -/
def withCounts (letter : Char) : List Text → List Text
  | [] => []
  | ['-', '-'] :: rest => ['-', '-'] :: rest
  | ('-' :: t) :: rest =>
    if !t.isEmpty && t.all Char.isDigit then ('-' :: letter :: t) :: withCounts letter rest
    else ('-' :: t) :: withCounts letter rest
  | t :: rest => t :: withCounts letter rest

/-- Breaks lines. -/
def fold : Program :=
  tool usualManner fun arguments => do
    let switches := [flag 'b' "bytes", flag 's' "spaces", valued 'w' "width"]
    match (Grammar.usual switches).read (withCounts 'w' arguments) with
    | .error e => misuse e
    | .ok g =>
      let width ← match g.last? "width" with
        | none => pure 80
        | some t =>
          match Numeral.integer? 10 t with
          | some (n, []) =>
            if n < 1 then
              giveUp ("invalid number of columns: ".toList ++ quoted t ++
                ": Numerical result out of range".toList)
            else pure n.toNat
          | _ => giveUp ("invalid number of columns: ".toList ++ quoted t)
      let b : Breaking := ⟨width, g.has "bytes", g.has "spaces"⟩
      let lines : Lines Unit :=
        ⟨'\n', fun _ line ended =>
          let parts := b.broken (2 * line.length + 2) [] 0 line
          ((), Text.join ['\n'] parts ++ (if ended then ['\n'] else [])), fun _ => false⟩
      foldFiles (feedLines lines) () (filesOf g)

/-! ### Tabs -/

/-- Where tabs lead: to given columns, and then by a distance. -/
structure TabStops where
  stops : List Nat
  /-- The distance, if there is one, and whether it is counted from the last of the columns. -/
  every : Option Nat
  fromLast : Bool

/-- The column to which a tab leads. -/
def TabStops.next? (s : TabStops) (column : Nat) : Option Nat :=
  match s.stops.find? fun n => n > column with
  | some n => some n
  | none => s.every.map fun n =>
    let base := if s.fromLast then s.stops.getLast?.getD 0 else 0
    base + ((column - base) / n + 1) * n

/-- Reads the places of tabs. -/
def tabStops (g : Given) : Work TabStops := do
  let parts := (g.all "tabs").flatMap fun t =>
    (Text.splitOn ',' (t.map fun c => if c = ' ' || c = '\t' then ',' else c)).filter
      fun t => !t.isEmpty
  let start : TabStops := ⟨[], none, false⟩
  let s ← parts.foldlM (fun (s : TabStops) t => do
    let (sign, digits) : Option Char × Text := match t with
      | c :: rest => if c = '/' || c = '+' then (some c, rest) else (none, t)
      | [] => (none, [])
    match Text.toNat? digits with
    | none =>
      giveUp ("tab size contains invalid character(s): ".toList ++
        quoted (digits.dropWhile Char.isDigit))
    | some n =>
      match sign with
      | some c => pure { s with every := some n, fromLast := c = '+' }
      | none =>
        if n = 0 then giveUp "tab size cannot be 0".toList
        else if s.stops.getLast?.any fun m => n ≤ m then
          giveUp "tab sizes must be ascending".toList
        else pure { s with stops := s.stops ++ [n] }) start
  match s.stops, s.every with
  | [], none => pure ⟨[], some 8, false⟩
  | [n], none => pure ⟨[], some n, false⟩
  | _, _ => pure s

/-- Replaces tabs by blanks. Behind the first character that is no blank, they can be left alone. -/
def TabStops.expanded (s : TabStops) (onlyInitial : Bool) : Nat → Bool → Text → Text
  | _, _, [] => []
  | column, inFront, c :: rest =>
    if c = '\t' && (inFront || !onlyInitial) then
      let next := (s.next? column).getD (column + 1)
      List.replicate (next - column) ' ' ++ s.expanded onlyInitial next inFront rest
    else
      let next := if c = '\x08' then column - 1 else column + 1
      c :: s.expanded onlyInitial next (inFront && c == ' ') rest

/-- The blanks that lead from a column to another one, with tabs where they fit. -/
def TabStops.blanks (s : TabStops) (single : Bool) : Nat → Nat → Nat → Text
  | 0, _, _ => []
  | fuel + 1, column, target =>
    match s.next? column with
    | some next =>
      if next ≤ target && !(single && next = column + 1 && target = next) then
        '\t' :: s.blanks single fuel next target
      else List.replicate (target - column) ' '
    | none => List.replicate (target - column) ' '

/-- Replaces blanks by tabs. -/
def TabStops.unexpanded (s : TabStops) (everywhere : Bool) : Nat → Nat → Bool → Text → Text
  | 0, _, _, t => t
  | _ + 1, _, _, [] => []
  | fuel + 1, column, inFront, c :: rest =>
    if (c = ' ' || c = '\t') && (inFront || everywhere) then
      let run := (c :: rest).takeWhile fun c => c == ' ' || c == '\t'
      let target := run.foldl (fun n c =>
        if c = '\t' then (s.next? n).getD (n + 1) else n + 1) column
      let isSingle := run == [' ']
      (if isSingle && !inFront then run else s.blanks isSingle (target + 1) column target) ++
        s.unexpanded everywhere fuel target inFront ((c :: rest).drop run.length)
    else c :: s.unexpanded everywhere fuel (column + 1) false rest

/-- Replaces tabs by blanks. -/
def expand : Program :=
  tool usualManner fun arguments => do
    let switches := [flag 'i' "initial", valued 't' "tabs"]
    match (Grammar.usual switches).read (withCounts 't' arguments) with
    | .error e => misuse e
    | .ok g =>
      let stops ← tabStops g
      let lines : Lines Unit :=
        ⟨'\n', fun _ line ended =>
          ((), stops.expanded (g.has "initial") 0 true line ++ (if ended then ['\n'] else [])),
          fun _ => false⟩
      foldFiles (feedLines lines) () (filesOf g)

/-- Replaces blanks by tabs. -/
def unexpand : Program :=
  tool usualManner fun arguments => do
    let switches := [flag 'a' "all", named "first-only" .nothing, valued 't' "tabs"]
    match (Grammar.usual switches).read (withCounts 't' arguments) with
    | .error e => misuse e
    | .ok g =>
      let stops ← tabStops g
      let everywhere := (g.has "all" || g.has "tabs") && !g.has "first-only"
      let lines : Lines Unit :=
        ⟨'\n', fun _ line ended =>
          ((), stops.unexpanded everywhere (line.length + 1) 0 true line ++
            (if ended then ['\n'] else [])),
          fun _ => false⟩
      foldFiles (feedLines lines) () (filesOf g)

end Console.Host.Tool
