import Console.Binary64.Shortest

/-! The calculator's numbers. An operation on two integers is exact as long as its result is a
    64-bit integer and a quotient comes out even; otherwise it is carried out on doubles. Only
    division and remainder can fail, and only on a zero divisor. -/

namespace Console.Calculator

/-- Why a text has no value. -/
inductive Fault where
  | divisionByZero
  | unexpectedToken (shown : Text)
  | unexpectedEnd
  | invalidNumber (literal : Text)
  deriving DecidableEq, Repr

/-- The wording of a fault. -/
def Fault.message : Fault → Text
  | .divisionByZero => "division by zero".toList
  | .unexpectedToken shown => "unexpected '".toList ++ shown ++ "'".toList
  | .unexpectedEnd => "unexpected end of input".toList
  | .invalidNumber literal => "invalid number '".toList ++ literal ++ "'".toList

/-- The fault as the transcript shows it. -/
def Fault.report (f : Fault) : Text := "error: ".toList ++ f.message

/-- An exact integer, or a double once exactness was lost. -/
inductive Number where
  | int (n : Int64)
  | float (x : Float)

/-- Addition and subtraction. -/
inductive SumOp where | plus | minus
  deriving DecidableEq, Repr

/-- Multiplication, division and remainder. -/
inductive ProductOp where | times | over | modulo
  deriving DecidableEq, Repr

/-- The sign of an additive operator. -/
def SumOp.symbol : SumOp → Char
  | .plus => '+'
  | .minus => '-'

/-- The sign of a multiplicative operator. -/
def ProductOp.symbol : ProductOp → Char
  | .times => '*'
  | .over => '/'
  | .modulo => '%'

/-- The 64-bit integer of this value, if there is one. -/
def fit? (n : Int) : Option Int64 :=
  if -Word.half ≤ n ∧ n < Word.half then some (Int64.ofInt n) else none

/-- The exact result of an additive operator. -/
def SumOp.exact? : SumOp → Int64 → Int64 → Option Int64
  | .plus, a, b => fit? (a.toInt + b.toInt)
  | .minus, a, b => fit? (a.toInt - b.toInt)

/-- The exact result of a multiplicative operator: a quotient must come out even, and a remainder
    needs a quotient that fits. -/
def ProductOp.exact? : ProductOp → Int64 → Int64 → Option Int64
  | .times, a, b => fit? (a.toInt * b.toInt)
  | .over, a, b => if a.toInt.tmod b.toInt = 0 then fit? (a.toInt.tdiv b.toInt) else none
  | .modulo, a, b => (fit? (a.toInt.tdiv b.toInt)).bind fun _ => fit? (a.toInt.tmod b.toInt)

/-- An additive operator on doubles. -/
def SumOp.rounded : SumOp → Float → Float → Float
  | .plus, x, y => x + y
  | .minus, x, y => x - y

/-- A multiplicative operator on doubles. -/
def ProductOp.rounded : ProductOp → Float → Float → Float
  | .times, x, y => x * y
  | .over, x, y => x / y
  | .modulo, x, y => Binary64.remainder x y

namespace Number

/-- The double nearest to a number. -/
def toFloat : Number → Float
  | .int n => n.toFloat
  | .float x => x

/-- Both zeros of the doubles count. -/
def isZero : Number → Bool
  | .int n => n == 0
  | .float x => x == 0.0

/-- Exact on integers as long as the result fits, else on doubles. -/
def sum (op : SumOp) (a b : Number) : Number :=
  match a, b with
  | .int m, .int n =>
    match op.exact? m n with
    | some r => .int r
    | none => .float (op.rounded a.toFloat b.toFloat)
  | _, _ => .float (op.rounded a.toFloat b.toFloat)

/-- Fails exactly on a division or remainder by zero. -/
def product (op : ProductOp) (a b : Number) : Except Fault Number :=
  if op ≠ .times ∧ b.isZero then .error .divisionByZero
  else
    match a, b with
    | .int m, .int n =>
      match op.exact? m n with
      | some r => .ok (.int r)
      | none => .ok (.float (op.rounded a.toFloat b.toFloat))
    | _, _ => .ok (.float (op.rounded a.toFloat b.toFloat))

/-- The opposite number; that of the least integer is a double. -/
def negate : Number → Number
  | .int n =>
    match fit? (-n.toInt) with
    | some r => .int r
    | none => .float (-n.toFloat)
  | .float x => .float (-x)

/-- The text of a number. -/
def render : Number → Text
  | .int n => Text.ofInt n.toInt
  | .float x => Binary64.render x

end Number

end Console.Calculator
