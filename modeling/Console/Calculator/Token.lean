import Console.Calculator.Number
import Console.Text.Blank

/-! The tokens of an arithmetic text. Blanks separate and mean nothing else; a number literal is a
    longest run of digits and dots. Reading stops at the first character or literal that is no
    token. -/

namespace Console.Calculator

/-- A token: a number, an operator, or a parenthesis. -/
inductive Token where
  | number (n : Number)
  | sum (op : SumOp)
  | product (op : ProductOp)
  | opening
  | closing

/-- How a token is shown in a message; a number by its value. -/
def Token.render : Token → Text
  | .number n => n.render
  | .sum op => [op.symbol]
  | .product op => [op.symbol]
  | .opening => ['(']
  | .closing => [')']

/-- The characters of number literals. -/
def isLiteralChar (c : Char) : Bool := c.isDigit || c == '.'

/-- The token that one character makes by itself. -/
def Token.ofChar? : Char → Option Token
  | '+' => some (.sum .plus)
  | '-' => some (.sum .minus)
  | '*' => some (.product .times)
  | '/' => some (.product .over)
  | '%' => some (.product .modulo)
  | '(' => some .opening
  | ')' => some .closing
  | _ => none

/-- The number of a literal: without a dot a 64-bit integer, with exactly one dot and at least one
    digit the nearest double. -/
def Number.ofLiteral? (literal : Text) : Option Number :=
  let whole := literal.takeWhile (· != '.')
  match literal.dropWhile (· != '.') with
  | [] => (Text.toNat? whole).bind fun n => (fit? n).map Number.int
  | _ :: places =>
    (Text.toNat? (whole ++ places)).map fun n =>
      .float (Binary64.ofDecimal false n (-places.length))

/-- The tokens of a text, or the fault of the leftmost character or literal that makes none. -/
def tokenize : Text → Except Fault (List Token)
  | [] => .ok []
  | c :: rest =>
    if isBlank c then tokenize rest
    else if isLiteralChar c then
      let literal := c :: rest.takeWhile isLiteralChar
      match Number.ofLiteral? literal with
      | none => .error (.invalidNumber literal)
      | some n => (tokenize (rest.dropWhile isLiteralChar)).map (.number n :: ·)
    else
      match Token.ofChar? c with
      | none => .error (.unexpectedToken [c])
      | some t => (tokenize rest).map (t :: ·)
termination_by t => t.length
decreasing_by
  all_goals simp only [List.length_cons]
  · omega
  · have := (List.dropWhile_sublist (p := isLiteralChar) (l := rest)).length_le
    omega
  · omega

end Console.Calculator
