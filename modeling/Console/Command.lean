import Console.Text.DecimalDigit
import Console.Word

/-! Special commands: words that control the session itself and are recognised before evaluation.
    Recognition is exact. What stands behind the word of a size is first looked at as digits of any
    script, and then read: digits of other scripts and more than 64 bits are no size. -/

namespace Console

/-- A command for the session. -/
inductive Command where
  | clear
  | reset
  | help
  | showBufferSize
  | setBufferSize (size : Nat)
  deriving DecidableEq, Repr

/-- Sizes are 64-bit. -/
def sizeLimit : Nat := Word.limit

/-- A size with one more digit behind it, as long as 64 bits hold it. -/
def addDigit? (size : Nat) (c : Char) : Option Nat :=
  if c.isDigit then
    let grown := size * 10 + (c.toNat - '0'.toNat)
    if grown < sizeLimit then some grown else none
  else none

/-- Reads a size: ASCII digits from the left, behind a plus sign if there is one. -/
def size? (numeral : Text) : Option Nat :=
  let digits :=
    match numeral with
    | '+' :: rest => rest
    | _ => numeral
  if digits.isEmpty then none else digits.foldlM addDigit? 0

namespace Command

/-- Every shape of a command with its description, in the order of the help text. -/
def table : List (Text × Text) := [
  ("clear".toList, "Clear the console".toList),
  ("reset".toList, "Reset the console and erase its command history".toList),
  ("help".toList, "Show this list of commands".toList),
  ("buffer".toList, "Show the command history buffer size".toList),
  ("buffer <n>".toList, "Set the command history buffer size to n".toList)]

/-- What stands before the digits of a size. -/
def sizeLead : Text := "buffer ".toList

/-- What stands behind the word of a size, if that is digits of any script. -/
def sizeNumeral? (expression : Text) : Option Text :=
  (sizeLead.isPrefixOf? expression).filter fun numeral =>
    !numeral.isEmpty && numeral.all isDecimalDigit

/-- The command that an expression is, if it is one. -/
def parse? (expression : Text) : Option Command :=
  if expression = "clear".toList then some .clear
  else if expression = "reset".toList then some .reset
  else if expression = "help".toList then some .help
  else if expression = "buffer".toList then some .showBufferSize
  else (sizeNumeral? expression).bind fun numeral => (size? numeral).map .setBufferSize

/-- The command as it is typed. -/
def render : Command → Text
  | .clear => "clear".toList
  | .reset => "reset".toList
  | .help => "help".toList
  | .showBufferSize => "buffer".toList
  | .setBufferSize size => sizeLead ++ Text.ofNat size

/-- Fills a text up to a width with spaces on the right. -/
def padRight (width : Nat) (t : Text) : Text := t ++ List.replicate (width - t.length) ' '

/-- The help text: one line for every command, the descriptions aligned. -/
def helpText : Text :=
  let width := (table.map fun (name, _) => name.length).foldl max 0
  "Special commands:".toList ++
    table.flatMap fun (name, description) =>
      "\n  ".toList ++ padRight width name ++ "  ".toList ++ description

end Command

end Console
