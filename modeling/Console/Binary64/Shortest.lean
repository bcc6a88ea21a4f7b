import Console.Binary64.Basic
import Console.Text.Basic

/-! The decimal text of a double: the fewest digits that read back as the same double, the nearest
    of those, the upper one of two equally near. It is written in positional notation whatever the
    size, without a point when the value is whole. -/

namespace Console.Binary64

/-- The doubles' decimals need no power of ten above this one. -/
def topExponent : Nat := 309

/-- How many powers of ten below the top are tried; the least double is above `10 ^ -324`. -/
def exponentCount : Nat := 640

/-- A multiple of `10 ^ k` that reads back as `mantissa * 2 ^ exponent`, the nearest if there are
    several. The reals that read back end halfway to the neighbours, ends included exactly when the
    mantissa is even; the lower neighbour of a power of two is at half the distance. -/
def onGrid? (mantissa : Nat) (exponent : Int) (k : Int) : Option Nat :=
  -- Everything is measured in units of 2 ^ (exponent - 2), scaled to whole numbers.
  let unit := twoTo (exponent - 2).toNat * tenTo (-k).toNat
  let grid := tenTo k.toNat * twoTo (2 - exponent).toNat
  let value := 4 * mantissa * unit
  let below := if mantissa = twoTo 52 && exponent > -1074 then unit else 2 * unit
  let above := 2 * unit
  let even := mantissa % 2 == 0
  let lower := value / grid
  let upper := lower + 1
  let lowerHits := if even then value ≤ lower * grid + below else value < lower * grid + below
  let upperHits := if even then upper * grid ≤ value + above else upper * grid < value + above
  if lowerHits && upperHits then
    some (if 2 * (value - lower * grid) < grid then lower else upper)
  else if lowerHits then some lower
  else if upperHits then some upper
  else none

/-- The shortest decimal of a positive double, as a coefficient and a power of ten: the first hit on
    grids from coarse to fine. -/
def shortest (mantissa : Nat) (exponent : Int) : Nat × Int :=
  let hit (i : Nat) : Option (Nat × Int) :=
    let k : Int := topExponent - i
    (onGrid? mantissa exponent k).map (·, k)
  ((List.range exponentCount).findSome? hit).getD (0, 0)

/-- Writes `coefficient * 10 ^ exponent` without an exponent. -/
def positional (coefficient : Nat) (exponent : Int) : Text :=
  let digits := Text.ofNat coefficient
  if 0 ≤ exponent then digits ++ List.replicate exponent.toNat '0'
  else
    let places := (-exponent).toNat
    let padded := List.replicate (places + 1 - digits.length) '0' ++ digits
    padded.take (padded.length - places) ++ '.' :: padded.drop (padded.length - places)

/-- The text of a double. A zero keeps its sign, and so does an infinity. -/
def render (x : Float) : Text :=
  let withSign (negative : Bool) (t : Text) : Text := if negative then '-' :: t else t
  match parts x with
  | .nan => "NaN".toList
  | .infinite negative => withSign negative "inf".toList
  | .finite negative 0 _ => withSign negative "0".toList
  | .finite negative mantissa exponent =>
    let (coefficient, k) := shortest mantissa exponent
    withSign negative (positional coefficient k)

end Console.Binary64
