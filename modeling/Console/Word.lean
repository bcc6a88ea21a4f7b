/-! Powers of two and of ten, by which binary and decimal numbers are scaled, and the ranges of
    numbers that 64 bits hold. -/

namespace Console

/-- Two to a power. -/
def twoTo (n : Nat) : Nat := Nat.pow 2 n

/-- Ten to a power. -/
def tenTo (n : Nat) : Nat := Nat.pow 10 n

namespace Word

/-- The number of unsigned numbers, two to the power 64. -/
def limit : Nat := 18446744073709551616

/-- The number of negative signed numbers, and of those that are not, two to the power 63. -/
def half : Int := 9223372036854775808

end Word

end Console
