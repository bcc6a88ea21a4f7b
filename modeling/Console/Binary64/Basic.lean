import Console.Word

/-! Doubles taken apart exactly: a finite double is a sign and a magnitude `mantissa * 2 ^
    exponent`, and the double nearest to a ratio of natural numbers is found in whole-number
    arithmetic, with ties to the even mantissa. The remainder of a division is computed the same
    way. -/

namespace Console.Binary64

/-- A double by its value. -/
inductive Parts where
  | nan
  | infinite (negative : Bool)
  | finite (negative : Bool) (mantissa : Nat) (exponent : Int)

/-- The value of a double; a zero has mantissa 0 and keeps its sign. -/
def parts (x : Float) : Parts :=
  let bits := x.toBits.toNat
  let negative := bits / twoTo 63 == 1
  let field : Nat := bits / twoTo 52 % twoTo 11
  let fraction := bits % twoTo 52
  if field = 2047 then (if fraction = 0 then .infinite negative else .nan)
  else if field = 0 then .finite negative fraction (-1074)
  else .finite negative (twoTo 52 + fraction) (field - 1075)

/-- Puts a sign bit on a magnitude. -/
def signed (negative : Bool) (magnitude : Nat) : Float :=
  Float.ofBits (UInt64.ofNat (if negative then twoTo 63 + magnitude else magnitude))

/-- The bits of the positive infinity. -/
def infinityBits : Nat := 2047 * twoTo 52

/-- The quotient of `num / den` by `2 ^ exponent`, as a numerator and a denominator. -/
def scaled (num den : Nat) (exponent : Int) : Nat × Nat :=
  (num * twoTo (-exponent).toNat, den * twoTo exponent.toNat)

/-- The whole number nearest to `num / den`, a half going to the even neighbour. -/
def roundHalfEven (num den : Nat) : Nat :=
  let q := num / den
  let r := num % den
  if 2 * r < den || (2 * r == den && q % 2 == 0) then q else q + 1

/-- The bits of the double nearest to the positive ratio `num / den`. -/
def nearestBits (num den : Nat) : Nat :=
  let low : Int := Nat.log2 num - Nat.log2 den - 53
  let (n, d) := scaled num den low
  let exponent := max (if n / d < twoTo 53 then low else low + 1) (-1074)
  let (n, d) := scaled num den exponent
  let mantissa := roundHalfEven n d
  -- A mantissa of 2 ^ 53 carries into the exponent field by itself, and so does one that reaches
  -- 2 ^ 52 from below.
  let bits := (exponent + 1074).toNat * twoTo 52 + mantissa
  min bits infinityBits

/-- The double nearest to `num / den`, with ties to even and overflow to infinity. -/
def ofRatio (negative : Bool) (num den : Nat) : Float :=
  if num = 0 then signed negative 0 else signed negative (nearestBits num den)

/-- The double nearest to `coefficient * 10 ^ exponent`. -/
def ofDecimal (negative : Bool) (coefficient : Nat) (exponent : Int) : Float :=
  ofRatio negative (coefficient * tenTo exponent.toNat) (tenTo (-exponent).toNat)

/-- The same for exponents of any size, without the power of ten where the answer is plain: a whole
    number with more than 310 zeros is above all doubles, and a ratio is below half of the least one
    when `10 ^ -exponent`, which is above `8 ^ -exponent`, outweighs the coefficient. -/
def ofScientific (negative : Bool) (coefficient : Nat) (exponent : Int) : Float :=
  if coefficient = 0 then signed negative 0
  else if exponent > 310 then signed negative infinityBits
  else if -3 * exponent > Nat.log2 coefficient + 1081 then signed negative 0
  else ofDecimal negative coefficient exponent

/-- The remainder of dividing toward zero. It is exact and has the sign of the dividend, also when
    it is zero. -/
def remainder (x y : Float) : Float :=
  match parts x, parts y with
  | .finite negative m e, .finite _ n f =>
    let low := min e f
    let a := m * twoTo (e - low).toNat
    let b := n * twoTo (f - low).toNat
    if b = 0 then 0.0 / 0.0
    else ofRatio negative (a % b * twoTo low.toNat) (twoTo (-low).toNat)
  | .finite _ _ _, .infinite _ => x
  | _, _ => 0.0 / 0.0

end Console.Binary64
