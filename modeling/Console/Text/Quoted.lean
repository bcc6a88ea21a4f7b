import Console.Text.Hidden
import Console.Text.Lowercase

/-! Quotations of texts in messages: between double quotes, with escapes for what would be misread
    or is not visible. -/

namespace Console.Text

/-- Whether a character cannot be shown as it is. -/
def isHidden (c : Char) : Bool :=
  c.toNat < 0x20 || c.toNat == 0x7F || inRanges hiddenRanges c.toNat

/-- The lower-case hexadecimal numeral of a code point. -/
def hexNumeral (n : Nat) : Text := Nat.toDigits 16 n

/-- A character of a quotation. -/
def quoteChar (c : Char) : Text :=
  if c = '"' ∨ c = '\\' then ['\\', c]
  else if c = '\x00' then ['\\', '0']
  else if c = '\t' then ['\\', 't']
  else if c = '\n' then ['\\', 'n']
  else if c = '\r' then ['\\', 'r']
  else if isHidden c then "\\u\x7b".toList ++ hexNumeral c.toNat ++ ['\x7d']
  else [c]

/-- A text between double quotes. -/
def quoted (t : Text) : Text := '"' :: t.flatMap quoteChar ++ ['"']

end Console.Text
