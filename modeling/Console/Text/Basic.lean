/-! Text as a list of Unicode scalar values, and the searches that the console makes in it:
    what follows the rightmost occurrence of a marker, whether a text occurs at all, the last
    line, and decimal numerals. -/

namespace Console

/-- A text is the list of its Unicode scalar values, so its length is the offset of its end. -/
abbrev Text := List Char

/-- Texts are hashed by their characters. -/
instance : Hashable Text := @instHashableList Char instHashableChar

namespace Text

/-! ### Occurrences -/

/-- What follows the rightmost occurrence of `marker`; a text without the marker has none. -/
def afterLast? (marker : Text) : Text → Option Text
  | [] => marker.isPrefixOf? []
  | c :: rest => (afterLast? marker rest).orElse fun _ => marker.isPrefixOf? (c :: rest)

/-- Whether `part` occurs somewhere in the text. -/
def contains (part : Text) : Text → Bool
  | [] => part.isEmpty
  | c :: rest => part.isPrefixOf (c :: rest) || contains part rest

/-- The text without one trailing `ending`, or the text itself when it ends otherwise. -/
def dropEnding (ending t : Text) : Text := (ending.isSuffixOf? t).getD t

/-! ### Lines -/

/-- What follows the last newline; a text without one is its own last line. -/
def lastLine (t : Text) : Text := (t.reverse.takeWhile (· != '\n')).reverse

/-- Splits at every `separator`; `n` separators give `n + 1` parts. -/
def splitOn (separator : Char) : Text → List Text
  | [] => [[]]
  | c :: rest =>
    match splitOn separator rest with
    | [] => [[c]]
    | part :: parts => if c = separator then [] :: part :: parts else (c :: part) :: parts

/-- Joins the parts with `separator` between neighbours. -/
def join (separator : Text) : List Text → Text
  | [] => []
  | [part] => part
  | part :: parts => part ++ separator ++ join separator parts

/-! ### Numerals -/

/-- The decimal numeral of a number, without leading zeros. -/
def ofNat (n : Nat) : Text := Nat.toDigits 10 n

/-- The decimal numeral of an integer, with a minus sign in front of a negative one. -/
def ofInt (n : Int) : Text := if n < 0 then '-' :: ofNat n.natAbs else ofNat n.natAbs

/-- The value of a nonempty run of ASCII digits; leading zeros are allowed. -/
def toNat? (t : Text) : Option Nat :=
  if !t.isEmpty && t.all Char.isDigit then some (Nat.ofDigitChars 10 t 0) else none

/-! ### Order -/

/-- Whether a text stands before another in the order of the characters, or is the same. -/
def precedes : Text → Text → Bool
  | [], _ => true
  | _ :: _, [] => false
  | a :: s, b :: t => if a = b then precedes s t else a.toNat < b.toNat

/-! ### Letters -/

/-- Lowercases the ASCII letters and keeps everything else. -/
def lowerAscii (t : Text) : Text := t.map Char.toLower

end Text

end Console
