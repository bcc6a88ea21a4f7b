import Console.Text.Basic

/-! White space: the twenty-five characters with the Unicode property `White_Space`, and trimming
    by them. The zero-width space U+200B, the byte order mark U+FEFF and the information
    separators U+001C to U+001F are not among them. -/

namespace Console

/-- Whether a character has the Unicode property `White_Space`. -/
def isBlank (c : Char) : Bool :=
  let n := c.toNat
  (0x09 ≤ n && n ≤ 0x0D) || n == 0x20 || n == 0x85 || n == 0xA0 || n == 0x1680 ||
    (0x2000 ≤ n && n ≤ 0x200A) || n == 0x2028 || n == 0x2029 || n == 0x202F || n == 0x205F ||
    n == 0x3000

/-- Every white space character that core knows is blank. -/
theorem isBlank_of_isWhitespace {c : Char} (h : c.isWhitespace = true) : isBlank c = true := by
  simp only [Char.isWhitespace, Bool.or_eq_true, decide_eq_true_eq] at h
  rcases h with ((rfl | rfl) | rfl) | rfl <;> decide

namespace Text

/-- Drops leading blanks. -/
def trimStart (t : Text) : Text := t.dropWhile isBlank

/-- Drops trailing blanks. -/
def trimEnd (t : Text) : Text := (t.reverse.dropWhile isBlank).reverse

/-- Drops leading and trailing blanks. -/
def trim (t : Text) : Text := t.trimStart.trimEnd

/-- Whether nothing but blanks is there, the empty text included. -/
def allBlank (t : Text) : Bool := t.all isBlank

end Text

end Console
