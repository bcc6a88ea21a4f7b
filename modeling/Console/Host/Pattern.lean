import Console.Text.Basic

/-! Patterns of the command language: a star stands for any characters, a question mark for one, and
    brackets for one of those that they list. -/

namespace Console.Host

/-- A piece of a pattern. -/
inductive Pattern.Item where
  | char (c : Char)
  | any
  | many
  /-- One of the characters in these ranges, or one that is not. -/
  | oneOf (negated : Bool) (ranges : List (Char × Char))
  deriving DecidableEq, Repr

/-- A pattern. -/
abbrev Pattern := List Pattern.Item

namespace Pattern

/-- The ranges of the named classes of characters. -/
def classes : List (String × List (Char × Char)) := [
  ("alnum", [('a', 'z'), ('A', 'Z'), ('0', '9')]), ("alpha", [('a', 'z'), ('A', 'Z')]),
  ("blank", [(' ', ' '), ('\t', '\t')]), ("cntrl", [('\x00', '\x1f'), ('\x7f', '\x7f')]),
  ("digit", [('0', '9')]), ("graph", [('!', '~')]), ("lower", [('a', 'z')]),
  ("print", [(' ', '~')]),
  ("punct", [('!', '/'), (':', '@'), ('[', '\x60'), ('\x7b', '~')]),
  ("space", [(' ', ' '), ('\t', '\r')]), ("upper", [('A', 'Z')]),
  ("xdigit", [('0', '9'), ('a', 'f'), ('A', 'F')])]

/-- The ranges of a named class of characters. -/
def classRanges? (name : Text) : Option (List (Char × Char)) := classes.lookup (String.ofList name)

/-- The ranges of a class whose name is written out here, with what follows it. -/
def namedRanges? (l : List (Char × Bool)) :
    Option (List (Char × Char) × List (Char × Bool)) :=
  match l with
  | ('[', _) :: (':', _) :: rest =>
    let name := (rest.takeWhile fun (c, _) => c.isLower).map Prod.fst
    match rest.drop name.length with
    | (':', _) :: (']', _) :: rest => (classRanges? name).map fun ranges => (ranges, rest)
    | _ => none
  | _ => none

/-- The ranges in brackets, and what follows the closing one. -/
def ranges? : Nat → Bool → List (Char × Bool) →
    Option (List (Char × Char) × List (Char × Bool))
  | 0, _, _ => none
  | _ + 1, _, [] => none
  | fuel + 1, first, l@((c, isQuoted) :: rest) =>
    if c = ']' && !isQuoted && !first then some ([], rest)
    else
      match namedRanges? l with
      | some (ranges, rest) =>
        (ranges? fuel false rest).map fun (rs, rest) => (ranges ++ rs, rest)
      | none =>
        match rest with
        | ('-', false) :: (d, dQuoted) :: more =>
          if d = ']' && !dQuoted then
            (ranges? fuel false rest).map fun (rs, rest) => ((c, c) :: rs, rest)
          else (ranges? fuel false more).map fun (rs, rest) => ((c, d) :: rs, rest)
        | _ => (ranges? fuel false rest).map fun (rs, rest) => ((c, c) :: rs, rest)

/-- The pattern of characters of which some are quoted and stand for themselves. -/
def ofChars : Nat → List (Char × Bool) → Pattern
  | 0, _ => []
  | _ + 1, [] => []
  | fuel + 1, (c, isQuoted) :: rest =>
    if isQuoted then .char c :: ofChars fuel rest
    else if c = '*' then .many :: ofChars fuel rest
    else if c = '?' then .any :: ofChars fuel rest
    else if c = '[' then
      let (negated, inside) : Bool × List (Char × Bool) := match rest with
        | ('!', false) :: inside => (true, inside)
        | inside => (false, inside)
      match ranges? (inside.length + 1) true inside with
      | some (rs, rest) => .oneOf negated rs :: ofChars fuel rest
      | none => .char c :: ofChars fuel rest
    else .char c :: ofChars fuel rest

/-- The characters of a text in which a backslash quotes the one behind it. A set can also be
    negated by a caret. -/
def escapedChars : Text → List (Char × Bool)
  | '\\' :: c :: rest => (c, true) :: escapedChars rest
  | '[' :: '^' :: rest => ('[', false) :: ('!', false) :: escapedChars rest
  | c :: rest => (c, false) :: escapedChars rest
  | [] => []

/-- The pattern of a text in which backslashes quote. -/
def ofEscaped (t : Text) : Pattern := ofChars (t.length + 1) (escapedChars t)

/-- Whether a piece stands for this one character. -/
def Item.accepts (c : Char) : Item → Bool
  | .char d => c == d
  | .any | .many => true
  | .oneOf negated ranges => (ranges.any fun (low, high) => low ≤ c && c ≤ high) != negated

/-! ### Matching -/

/-- What can be left of a pattern, with the numbers of the pieces that are left. -/
abbrev Rests := List (Nat × Pattern)

/-- Adds what is left of a pattern, and also what is left without the stars in front of it. -/
def addRests (rests : Rests) (count : Nat) : Pattern → Rests
  | .many :: items =>
    if rests.any fun (n, _) => n == count then rests
    else addRests ((count, .many :: items) :: rests) (count - 1) items
  | p => if rests.any fun (n, _) => n == count then rests else (count, p) :: rests

/-- What is left of a whole pattern. -/
def wholeRests (p : Pattern) : Rests := addRests [] p.length p

/-- What can be left behind a character. -/
def afterChar (c : Char) (rests : Rests) : Rests :=
  rests.foldl (fun l (n, p) =>
    match p with
    | [] => l
    | .many :: _ => addRests l n p
    | item :: items => if item.accepts c then addRests l (n - 1) items else l) []

/-- Whether nothing needs to be left. -/
def isOver (rests : Rests) : Bool := rests.any fun (n, _) => n == 0

/-- Whether a whole text matches what is left. -/
def allMatches (rests : Rests) : Text → Bool
  | [] => isOver rests
  | c :: t => !rests.isEmpty && allMatches (afterChar c rests) t

/-- Whether a whole text matches. -/
def matchesAll (p : Pattern) (t : Text) : Bool := allMatches (wholeRests p) t

/-- Whether characters make a pattern that can match more than themselves. -/
def isOpen (l : List (Char × Bool)) : Bool :=
  l.any fun (c, isQuoted) => !isQuoted && (c == '*' || c == '?' || c == '[')

/-- What follows a beginning of a text that matches what is left of a pattern: the shortest such
    beginning, or the longest, for which the one found so far is given. -/
def behind? (longest : Bool) (rests : Rests) (found : Option Text) : Text → Option Text
  | [] => if isOver rests then some [] else found
  | c :: t =>
    let found := if isOver rests then some (c :: t) else found
    if rests.isEmpty || (found.isSome && !longest) then found
    else behind? longest (afterChar c rests) found t

/-- The text without its shortest or longest beginning that matches. -/
def dropStart (p : Pattern) (longest : Bool) (t : Text) : Text :=
  (behind? longest (wholeRests p) none t).getD t

/-- The text without its shortest or longest end that matches, which is a beginning of the reversed
    text. -/
def dropEnd (p : Pattern) (longest : Bool) (t : Text) : Text :=
  (dropStart p.reverse longest t.reverse).reverse

end Pattern

end Console.Host
