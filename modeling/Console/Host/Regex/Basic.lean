import Console.Host.Pattern

/-! Regular expressions as trees, and the two ways in which they are written: in the basic form
    groups, alternatives and counts have backslashes, in the extended form they have none. -/

namespace Console

/-- Characters of some ranges, or those of none of them. -/
structure Charset where
  negated : Bool
  ranges : List (Char × Char)

/-- Whether a character is in a set. -/
def Charset.contains (s : Charset) (c : Char) : Bool :=
  (s.ranges.any fun (low, high) => low ≤ c && c ≤ high) != s.negated

/-- Places in a text. -/
inductive Anchor where
  | lineStart
  | lineEnd
  | textStart
  | textEnd
  | wordStart
  | wordEnd
  | wordEdge
  | noWordEdge
  /-- Behind no character of a word. -/
  | behindNoWord
  /-- In front of no character of a word. -/
  | beforeNoWord
  deriving DecidableEq, Repr

/-- A regular expression. -/
inductive Regex where
  | empty
  | one (set : Charset)
  | at_ (place : Anchor)
  | seq (first second : Regex)
  | either (first second : Regex)
  /-- So many times at least, and so many at most if there is a limit. -/
  | times (r : Regex) (least : Nat) (most : Option Nat)
  /-- A group, whose match is remembered by its number. -/
  | group (n : Nat) (r : Regex)
  /-- What a group has matched. -/
  | again (n : Nat)

namespace Regex

/-- Why a text is no regular expression. -/
inductive Fault where
  | trailingBackslash
  | unmatchedBracket
  | unmatchedOpening
  | unmatchedClosing
  | unmatchedBrace
  | badCount
  | countTooLarge
  | badRange
  | badClass
  | badBackReference
  | nothingToRepeat
  | invalid
  deriving DecidableEq, Repr

/-- The wording of a fault. -/
def Fault.message : Fault → String
  | .trailingBackslash => "Trailing backslash"
  | .unmatchedBracket => "Unmatched [, [^, [:, [., or [="
  | .unmatchedOpening => "Unmatched ( or \\("
  | .unmatchedClosing => "Unmatched ) or \\)"
  | .unmatchedBrace => "Unmatched \\\x7b"
  | .badCount => "Invalid content of \\\x7b\\\x7d"
  | .countTooLarge => "Regular expression too big"
  | .badRange => "Invalid range end"
  | .badClass => "Invalid character class name"
  | .badBackReference => "Invalid back reference"
  | .nothingToRepeat => "Invalid preceding regular expression"
  | .invalid => "Invalid regular expression"

/-- How a regular expression is written. -/
structure Dialect where
  extended : Bool
  /-- Whether letters match in both cases. -/
  ignoresCase : Bool
  /-- Whether a backslash in brackets hides the character behind it. -/
  escapesInBrackets : Bool
  /-- Whether signs of repetition must have something to repeat and counts must be complete. -/
  isStrict : Bool

/-! ### Sets -/

/-- The characters of words. -/
def wordRanges : List (Char × Char) := [('a', 'z'), ('A', 'Z'), ('0', '9'), ('_', '_')]

/-- The blanks that an escape stands for. -/
def spaceRanges : List (Char × Char) := [(' ', ' '), ('\t', '\r')]

/-- Whether a character is one of words. -/
def isWordChar (c : Char) : Bool := c.isAlphanum || c == '_'

/-- Ranges with the letters of the other case. -/
def bothCases (ranges : List (Char × Char)) : List (Char × Char) :=
  let letters := (List.range 26).map fun n => Char.ofNat (n + 'a'.toNat)
  let inRanges (c : Char) : Bool := ranges.any fun (low, high) => low ≤ c && c ≤ high
  letters.flatMap (fun c => if inRanges c then [(c.toUpper, c.toUpper)] else []) ++
    letters.flatMap (fun c => if inRanges c.toUpper then [(c, c)] else []) ++ ranges

/-- The expression of a set. -/
def ofSet (d : Dialect) (negated : Bool) (ranges : List (Char × Char)) : Regex :=
  .one ⟨negated, if d.ignoresCase then bothCases ranges else ranges⟩

/-- The expression of a character. -/
def ofChar (d : Dialect) (c : Char) : Regex := ofSet d false [(c, c)]

/-- A name behind an opening bracket and a sign, up to the same sign and a closing bracket. -/
def named? (sign : Char) (t : Text) : Option (Text × Text) :=
  let name := t.takeWhile (· != sign)
  match t.drop name.length with
  | _ :: ']' :: rest => some (name, rest)
  | _ => none

/-- One end of a range in brackets. -/
def rangeEnd? (d : Dialect) (t : Text) : Except Fault (Char × Text) :=
  match t with
  | [] => .error .unmatchedBracket
  | '[' :: '.' :: rest =>
    match named? '.' rest with
    | some ([c], rest) => .ok (c, rest)
    | _ => .error .unmatchedBracket
  | '\\' :: c :: rest =>
    if d.escapesInBrackets then
      match c with
      | 'n' => .ok ('\n', rest)
      | 't' => .ok ('\t', rest)
      | 'r' => .ok ('\r', rest)
      | 'f' => .ok ('\x0c', rest)
      | 'v' => .ok ('\x0b', rest)
      | 'a' => .ok ('\x07', rest)
      | c => .ok (c, rest)
    else .ok ('\\', c :: rest)
  | c :: rest => .ok (c, rest)

/-- The ranges in brackets up to the closing one, which can be the first character. -/
def bracketRanges (d : Dialect) : Nat → Bool → Text →
    Except Fault (List (Char × Char) × Text)
  | 0, _, _ => .error .unmatchedBracket
  | fuel + 1, first, t =>
    let more (ranges : List (Char × Char)) (rest : Text) :
        Except Fault (List (Char × Char) × Text) :=
      (bracketRanges d fuel false rest).map fun (rs, rest) => (ranges ++ rs, rest)
    match t with
    | [] => .error .unmatchedBracket
    | ']' :: rest => if first then more [(']', ']')] rest else .ok ([], rest)
    | '[' :: ':' :: rest =>
      match named? ':' rest with
      | some (name, rest) =>
        match Host.Pattern.classRanges? name with
        | some ranges => more ranges rest
        | none => .error .badClass
      | none => .error .unmatchedBracket
    | '[' :: '=' :: rest =>
      match named? '=' rest with
      | some ([c], rest) => more [(c, c)] rest
      | _ => .error .unmatchedBracket
    | t => do
      let (low, rest) ← rangeEnd? d t
      match rest with
      | '-' :: ']' :: _ => more [(low, low)] rest
      | '-' :: rest =>
        let (high, rest) ← rangeEnd? d rest
        if high < low then throw .badRange else more [(low, high)] rest
      | rest => more [(low, low)] rest

/-- The set behind an opening bracket. -/
def bracket (d : Dialect) (t : Text) : Except Fault (Regex × Text) :=
  let (negated, t) : Bool × Text := match t with
    | '^' :: rest => (true, rest)
    | t => (false, t)
  if t.isEmpty then .error .invalid
  else
    (bracketRanges d (t.length + 1) true t).map fun (ranges, rest) => (ofSet d negated ranges, rest)

/-! ### Reading -/

/-- A regular expression while it is read: what is left, how many groups there are, and which of
    them are closed. -/
structure Reading where
  rest : Text
  groups : Nat
  closed : List Nat

/-- Reads from the left. -/
abbrev Reader (α : Type) := StateT Reading (Except Fault) α

/-- The largest count. -/
def largestCount : Nat := 32767

/-- A count in braces behind the opening one, if it is one as a whole, and what follows. -/
def count? (d : Dialect) (t : Text) : Except Fault ((Nat × Option Nat) × Text) :=
  let low := t.takeWhile Char.isDigit
  let rest := t.drop low.length
  let (high, rest) : Option Text × Text := match rest with
    | ',' :: rest =>
      let high := rest.takeWhile Char.isDigit
      (some high, rest.drop high.length)
    | rest => (none, rest)
  let closing? : Option Text := match d.extended, rest with
    | true, '\x7d' :: rest => some rest
    | false, '\\' :: '\x7d' :: rest => some rest
    | _, _ => none
  match closing? with
  | none => .error (if rest.elem '\x7d' then .badCount else .unmatchedBrace)
  | some rest =>
    let least := (Text.toNat? low).getD 0
    let most : Option Nat := match high with
      | none => some least
      | some h => Text.toNat? h
    if low.isEmpty && high.isNone then .error .badCount
    else if most.any fun n => n < least then .error .badCount
    else if least > largestCount || most.any fun n => n > largestCount then .error .countTooLarge
    else .ok ((least, most), rest)

/-- Takes a text that stands in front of the rest. -/
def accept (s : String) : Reader Bool := do
  let st ← get
  match s.toList.isPrefixOf? st.rest with
  | some rest =>
    set { st with rest := rest }
    pure true
  | none => pure false

/-- The expression of a letter behind a backslash, if it has a meaning in both forms. -/
def escape? (c : Char) : Option Regex :=
  match c with
  | 'w' => some (.one ⟨false, wordRanges⟩)
  | 'W' => some (.one ⟨true, wordRanges⟩)
  | 's' => some (.one ⟨false, spaceRanges⟩)
  | 'S' => some (.one ⟨true, spaceRanges⟩)
  | '<' => some (.at_ .wordStart)
  | '>' => some (.at_ .wordEnd)
  | 'b' => some (.at_ .wordEdge)
  | 'B' => some (.at_ .noWordEdge)
  | '\x60' => some (.at_ .textStart)
  | '\'' => some (.at_ .textEnd)
  | _ => none

/-- Whether an anchor can stand before what is left in the basic form. -/
def endsBasic (rest : Text) : Bool :=
  match rest with
  | [] | '\\' :: ')' :: _ | '\\' :: '|' :: _ => true
  | _ => false

mutual

/-- Reads alternatives. -/
def alternatives (d : Dialect) : Nat → Bool → Reader Regex
  | 0, _ => pure .empty
  | fuel + 1, isNested => do
    let first ← branch d fuel isNested true .empty
    if ← accept (if d.extended then "|" else "\\|") then
      pure (.either first (← alternatives d fuel isNested))
    else pure first

/-- Reads what stands one behind the other, behind an expression. -/
def branch (d : Dialect) : Nat → Bool → Bool → Regex → Reader Regex
  | 0, _, _, before => pure before
  | fuel + 1, isNested, atStart, before => do
    let st ← get
    let ends := match d.extended, st.rest with
      | _, [] => true
      | true, '|' :: _ => true
      | true, ')' :: _ => isNested
      | false, '\\' :: '|' :: _ => true
      | false, '\\' :: ')' :: _ => isNested
      | _, _ => false
    if ends then pure before
    else
      match ← atom d fuel atStart with
      | none => branch d fuel isNested atStart before
      | some (r, isAnchor) =>
        let r ← if isAnchor && (d.isStrict || !d.extended) then pure r else repeated d fuel r
        let joined := match before with
          | .empty => r
          | before => .seq before r
        branch d fuel isNested (isAnchor && atStart) joined

/-- Reads a single expression, and says whether it is an anchor, which can hardly be repeated. A
    sign of repetition where there is nothing to repeat is skipped in the extended form and a
    character in the basic one. -/
def atom (d : Dialect) : Nat → Bool → Reader (Option (Regex × Bool))
  | 0, _ => pure none
  | fuel + 1, atStart => do
    let st ← get
    let take (rest : Text) (r : Regex) : Reader (Option (Regex × Bool)) := do
      set { st with rest := rest }
      let isAnchor := match r with
        | .at_ _ => true
        | _ => false
      pure (some (r, isAnchor))
    let skip (rest : Text) : Reader (Option (Regex × Bool)) := do
      if d.isStrict then throw .nothingToRepeat
      set { st with rest := rest }
      pure none
    let group (rest : Text) : Reader (Option (Regex × Bool)) := do
      let n := st.groups + 1
      set { st with rest := rest, groups := n }
      let r ← alternatives d fuel true
      if !(← accept (if d.extended then ")" else "\\)")) then throw .unmatchedOpening
      modify fun st => { st with closed := n :: st.closed }
      pure (some (.group n r, false))
    match st.rest with
    | [] => pure none
    | '[' :: rest => do
      let (r, rest) ← bracket d rest
      take rest r
    | '.' :: rest => take rest (.one ⟨true, []⟩)
    | '^' :: rest =>
      take rest (if d.extended || atStart then .at_ .lineStart else ofChar d '^')
    | '$' :: rest =>
      take rest (if d.extended || endsBasic rest then .at_ .lineEnd else ofChar d '$')
    | ['\\'] => throw .trailingBackslash
    | '\\' :: c :: rest =>
      if c = '(' && !d.extended then group rest
      else if c = ')' && !d.extended then throw .unmatchedClosing
      else if c.isDigit && c != '0' then
        let n := c.toNat - '0'.toNat
        if st.closed.contains n then take rest (.again n) else throw .badBackReference
      else if c = '\x7b' && !d.extended && d.isStrict then throw .nothingToRepeat
      else take rest ((escape? c).getD (ofChar d c))
    | c :: rest =>
      if !d.extended then take rest (ofChar d c)
      else if c = '(' then group rest
      else if c = ')' && d.isStrict then throw .unmatchedClosing
      else if c = '*' || c = '+' || c = '?' || c = '\x7b' then skip rest
      else take rest (ofChar d c)

/-- Reads signs of repetition behind an expression. -/
def repeated (d : Dialect) : Nat → Regex → Reader Regex
  | 0, r => pure r
  | fuel + 1, r => do
    let st ← get
    let go (rest : Text) (least : Nat) (most : Option Nat) : Reader Regex := do
      let isAgain := match rest with
        | '*' :: _ | '\\' :: '\x7b' :: _ => true
        | _ => false
      if d.isStrict && !d.extended && isAgain then throw .nothingToRepeat
      set { st with rest := rest }
      repeated d fuel (.times r least most)
    match d.extended, st.rest with
    | _, '*' :: rest => go rest 0 none
    | true, '+' :: rest | false, '\\' :: '+' :: rest => go rest 1 none
    | true, '?' :: rest | false, '\\' :: '?' :: rest => go rest 0 (some 1)
    | true, '\x7b' :: rest =>
      match count? d rest with
      | .ok ((least, most), rest) => go rest least most
      | .error e =>
        let isReversed := e == .badCount && (rest.takeWhile (· != '\x7d')).all fun c =>
          c.isDigit || c == ','
        if d.isStrict || isReversed || e == .countTooLarge then throw e
        else do
          set { st with rest := rest }
          repeated d fuel (.seq r (ofChar d '\x7b'))
    | false, '\\' :: '\x7b' :: rest => do
      let ((least, most), rest) ← count? d rest
      go rest least most
    | _, _ => pure r

end

/-- Reads a whole regular expression, and answers also how many groups there are. -/
def parse (d : Dialect) (t : Text) : Except Fault (Regex × Nat) := do
  let (r, st) ← (alternatives d (8 * t.length + 8) false).run ⟨t, 0, []⟩
  match st.rest with
  | [] => pure (r, st.groups)
  | _ => throw .unmatchedClosing

end Regex

end Console
