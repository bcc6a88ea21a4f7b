import Console.Host.Pattern
import Console.Host.Format
import Console.Host.Tool.Work

/-! Translation of single characters: one array of characters into another one, the deletion of
    characters, and the squeezing of repeated ones. -/

namespace Console.Host.Tool

open Work

namespace Characters

/-- A part of an array of characters. -/
inductive Part where
  | chars (l : Text)
  /-- The letters of one case. -/
  | letters (upper : Bool)
  | class_ (l : Text)
  /-- A character so often, or as often as is needed. -/
  | again (c : Char) (count : Option Nat)

/-- A character behind a backslash, with the warnings that it gives rise to. -/
def escape (t : Text) : Char × Text × List Text :=
  match t with
  | [] => ('\\', [], ["warning: an unescaped backslash at end of string is not portable".toList])
  | c :: rest =>
    let digits := (t.take 3).takeWhile Format.isOctal
    if digits.isEmpty then
      match c with
      | 'e' => ('e', rest, [])
      | c => ((Format.escape? c).getD c, rest, [])
    else
      let n := Numeral.value 8 0 digits
      if n < 256 then (Char.ofNat n, t.drop digits.length, [])
      else
        let short := digits.take 2
        let rest := t.drop 2
        (Char.ofNat (Numeral.value 8 0 short), rest,
          ["warning: the ambiguous octal escape \\".toList ++ digits ++
            " is being\n\tinterpreted as the 2-byte sequence \\0".toList ++ short ++ ", ".toList ++
            digits.drop 2])

/-- The characters of a text, each with whether it was behind a backslash. -/
def unescaped : Nat → Text → List (Char × Bool) × List Text
  | 0, _ => ([], [])
  | _ + 1, [] => ([], [])
  | fuel + 1, '\\' :: rest =>
    let (c, rest, warnings) := escape rest
    let (l, more) := unescaped fuel rest
    ((c, true) :: l, warnings ++ more)
  | fuel + 1, c :: rest =>
    let (l, warnings) := unescaped fuel rest
    ((c, false) :: l, warnings)

/-- The characters of a class. -/
def classChars? (name : Text) : Option Text :=
  (Pattern.classRanges? name).map fun ranges =>
    ((List.range 256).map Char.ofNat).filter fun c =>
      ranges.any fun (low, high) => low ≤ c && c ≤ high

/-- What stands before a sign and a closing bracket, and what follows them. -/
def named? (sign : Char) : List (Char × Bool) → Option (Text × List (Char × Bool))
  | (c, false) :: (']', false) :: rest =>
    if c = sign then some ([], rest)
    else (named? sign ((']', false) :: rest)).map fun (t, rest) => (c :: t, rest)
  | (c, _) :: rest => (named? sign rest).map fun (t, rest) => (c :: t, rest)
  | [] => none

/-- The count of a repeated character. One with a zero in front is octal. -/
def repeatCount? (t : Text) : Except Text (Option Nat) :=
  match t with
  | [] => .ok none
  | t =>
    let base := if t.head? = some '0' then 8 else 10
    if t.all (Numeral.isDigit base) then
      let n := Numeral.value base 0 t
      .ok (if n = 0 then none else some n)
    else .error ("invalid repeat count ".toList ++ quoted t ++ " in [c*n] construct".toList)

/-- A part in brackets, if it is one. -/
def bracketed? (l : List (Char × Bool)) : Except Text (Option (Part × List (Char × Bool))) :=
  let repeated : Except Text (Option (Part × List (Char × Bool))) :=
    match l with
    | (c, _) :: ('*', false) :: rest =>
      let inside := rest.takeWhile (· != (']', false))
      match rest.drop inside.length with
      | [] => .ok none
      | _ :: rest => (repeatCount? (inside.map Prod.fst)).map fun n => some (.again c n, rest)
    | _ => .ok none
  match l with
  | (':', false) :: rest =>
    match named? ':' rest with
    | none => repeated
    | some ([], _) => .error "missing character class name '[::]'".toList
    | some (name, rest) =>
      if name = "upper".toList then .ok (some (.letters true, rest))
      else if name = "lower".toList then .ok (some (.letters false, rest))
      else
        match classChars? name with
        | some chars => .ok (some (.class_ chars, rest))
        | none => .error ("invalid character class ".toList ++ quoted name)
  | ('=', false) :: rest =>
    match named? '=' rest with
    | none => repeated
    | some ([c], rest) => .ok (some (.chars [c], rest))
    | some ([], _) => .error "missing equivalence class character '[==]'".toList
    | some (name, _) =>
      .error (name ++ ": equivalence class operand must be a single character".toList)
  | _ => repeated

/-- The parts of an array. -/
def parts : Nat → List (Char × Bool) → Except Text (List Part)
  | 0, _ => .ok []
  | _ + 1, [] => .ok []
  | fuel + 1, l => do
    let bracket ← match l with
      | ('[', false) :: rest => bracketed? rest
      | _ => pure none
    match bracket, l with
    | some (p, rest), _ => (parts fuel rest).map (p :: ·)
    | none, (low, _) :: ('-', false) :: (high, _) :: rest =>
      if high < low then
        throw ("range-endpoints of '".toList ++ [low, '-', high] ++
          "' are in reverse collating sequence order".toList)
      else
        let codes := List.range (high.toNat - low.toNat + 1)
        let range := codes.map fun n => Char.ofNat (n + low.toNat)
        (parts fuel rest).map (.chars range :: ·)
    | none, (c, _) :: rest => (parts fuel rest).map (.chars [c] :: ·)
    | none, [] => pure []

/-- The letters of one case. -/
def alphabet (upper : Bool) : Text :=
  (List.range 26).map fun n => Char.ofNat (n + (if upper then 'A' else 'a').toNat)

/-- The length of a part, if it is fixed. -/
def Part.length (p : Part) : Nat :=
  match p with
  | .chars l | .class_ l => l.length
  | .letters _ => 26
  | .again _ count => count.getD 0

/-- The characters of a part, of which one that is repeated as often as needed fills so many. -/
def Part.expanded (fill : Nat) (p : Part) : Text :=
  match p with
  | .chars l | .class_ l => l
  | .letters upper => alphabet upper
  | .again c count => List.replicate (count.getD fill) c

/-- Whether a part is repeated as often as needed. -/
def Part.isOpen (p : Part) : Bool :=
  match p with
  | .again _ none => true
  | _ => false

/-- The length of an array without what is repeated as often as needed. -/
def fixedLength (l : List Part) : Nat := l.foldl (fun n p => n + p.length) 0

/-- The characters of an array that is as long as another one. -/
def expanded (length : Nat) (l : List Part) : Text :=
  l.flatMap (Part.expanded (length - fixedLength l))

/-- Where the letters of one case begin in an array. -/
def letterPlaces : Nat → List Part → List Nat
  | _, [] => []
  | n, p :: rest =>
    let more := letterPlaces (n + p.length) rest
    match p with
    | .letters _ => n :: more
    | _ => more

/-- All characters that are not in a text. -/
def others (t : Text) : Text :=
  let none_ : Array Bool := .replicate 256 false
  let isIn := t.foldl (fun a c => a.setIfInBounds c.toNat true) none_
  ((List.range 256).filter fun n => !isIn.getD n false).map Char.ofNat

/-- What is wrong with the second of two arrays when the first is translated. -/
def complaint? (complemented : Bool) (first second : List Part) (truncates : Bool) :
    Option String :=
  let isClass (p : Part) : Bool := match p with
    | .class_ _ => true
    | _ => false
  let isLetters (p : Part) : Bool := match p with
    | .letters _ => true
    | _ => false
  let firstLength := if complemented then (others (expanded 0 first)).length else fixedLength first
  let places := letterPlaces 0 first
  if (second.filter Part.isOpen).length > 1 then
    some "only one [c*] repeat construct may appear in string2"
  else if second.any isClass then
    some ("when translating, the only character classes that may appear in\n" ++
      "string2 are 'upper' and 'lower'")
  else if !complemented && (letterPlaces 0 second).any fun n => !places.contains n then
    some "misaligned [:upper:] and/or [:lower:] construct"
  else if firstLength > fixedLength second && !truncates && second.getLast?.any isLetters then
    some ("when translating with string1 longer than string2,\n" ++
      "the latter string must not end with a character class")
  else if complemented && second.any isLetters then
    some ("when translating with complemented character classes,\n" ++
      "string2 must map all characters in the domain to one")
  else if firstLength > 0 && second.isEmpty && !truncates then
    some "when not truncating set1, string2 must be non-empty"
  else none

/-- What becomes of characters. -/
structure Change where
  table : Array Char
  deleted : Array Bool
  squeezed : Array Bool

/-- The truth of being in a text, for every octet. -/
def membership (t : Text) : Array Bool :=
  t.foldl (fun a c => a.setIfInBounds c.toNat true) (.replicate 256 false)

/-- The table that sends characters to those at the same places. -/
def tableOf (first second : Text) : Array Char :=
  (first.zip second).foldl (fun a (c, d) => a.setIfInBounds c.toNat d)
    ((List.range 256).map Char.ofNat).toArray

/-- Changes a text. Behind the last character that was written the same one can be left out. -/
def Change.apply (k : Change) : Option Char → List Char → Text → Option Char × List Char
  | last, written, [] => (last, written)
  | last, written, c :: rest =>
    if k.deleted.getD c.toNat false then k.apply last written rest
    else
      let c := k.table.getD c.toNat c
      if last == some c && k.squeezed.getD c.toNat false then k.apply last written rest
      else k.apply (some c) (c :: written) rest

/-- A change as a stream. -/
def Change.stream (k : Change) : Stream (Option Char) where
  take := fun last piece =>
    let (last, written) := k.apply last [] piece
    (last, written.reverse, [])
  isOver := fun _ => false

/-- The array that an operand stands for. -/
def arrayOf (t : Text) : Work (List Part) := do
  let (l, warnings) := unescaped (t.length + 1) t
  warnings.forM mutter
  match parts (l.length + 1) l with
  | .ok ps => pure ps
  | .error e => giveUp e

end Characters

open Characters

/-- Reports operands that are missing or too many for what is asked. -/
def checkOperands (deletes squeezes : Bool) (operands : List Text) : Work Unit := do
  let least := if deletes == squeezes then 2 else 1
  let most := if deletes && !squeezes then 1 else 2
  let explained (t why : Text) : Work Unit := do
    mutter t
    step (Prog.put 2 (why ++ ['\n'] ++ helpHint (← name)))
    step (Prog.exit 1)
  match operands with
  | [] => misuse "missing operand".toList
  | first :: _ =>
    if operands.length < least then
      explained ("missing operand after ".toList ++ quoted first)
        (if squeezes then
            "Two strings must be given when both deleting and squeezing repeats.".toList
          else "Two strings must be given when translating.".toList)
    else if operands.length > most then
      let extra := "extra operand ".toList ++ quoted ((operands[most]?).getD [])
      if most = 1 && operands.length = 2 then
        explained extra
          "Only one string may be given when deleting without squeezing repeats.".toList
      else misuse extra

/-- Translates, deletes and squeezes characters. -/
def tr : Program :=
  strictToolOf usualManner
    [flag 'c' "complement", flag 'C' "", flag 'd' "delete", flag 's' "squeeze-repeats",
      flag 't' "truncate-set1"]
    fun g => do
      let complements := g.has "complement" || g.has "C"
      let deletes := g.has "delete"
      let squeezes := g.has "squeeze-repeats"
      checkOperands deletes squeezes g.operands
      let firstText := (g.operands[0]?).getD []
      let first ← arrayOf firstText
      if first.any Part.isOpen then
        giveUp "the [c*] repeat construct may not appear in string1".toList
      let plain := expanded 0 first
      let members := if complements then others plain else plain
      let nothing : Array Bool := .replicate 256 false
      let identity := tableOf [] []
      let change : Characters.Change ← match g.operands with
        | [_] =>
          pure (if deletes then ⟨identity, membership members, nothing⟩
            else ⟨identity, nothing, membership members⟩)
        | _ => do
          let second ← arrayOf ((g.operands[1]?).getD [])
          if deletes then
            pure ⟨identity, membership members, membership (expanded 0 second)⟩
          else
            match complaint? complements first second (g.has "truncate-set1") with
            | some e => giveUp e.toList
            | none =>
              let target := expanded members.length second
              let members :=
                if g.has "truncate-set1" then members.take target.length else members
              let filled := target ++
                List.replicate (members.length - target.length) (target.getLast?.getD ' ')
              pure ⟨tableOf members filled, nothing,
                if squeezes then membership filled else nothing⟩
      match ← feed change.stream 0 none with
      | .ok _ => pure ()
      | .error e => giveUp ("read error: ".toList ++ e.wording)

end Console.Host.Tool
