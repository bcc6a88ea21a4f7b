import Console.Binary64.Basic
import Mathlib.Algebra.Order.Archimedean.Basic
import Mathlib.Algebra.Order.Field.Power
import Mathlib.Data.Rat.Cast.Order
import Mathlib.Order.Monotone.Basic
import Mathlib.Tactic.FieldSimp
import Mathlib.Tactic.Linarith
import Mathlib.Tactic.NormNum

/-! The double of a ratio is the nearest one. The bits of a magnitude grow with its value, and those
    that a rounding can come out at lie in a window where the doubles are the multiples of one power
    of two. There the nearest double is the nearest whole multiple, and the doubles below the window
    are further away. -/

namespace Console.Binary64

/-! ### Magnitudes -/

/-- The value of the bits of a double without its sign. Those of the infinity count as the power of
    two that would come next. -/
def magnitude (bits : Nat) : ℚ :=
  if bits / twoTo 52 = 0 then (bits % twoTo 52 : Nat) * (2 : ℚ) ^ (-1074 : ℤ)
  else (twoTo 52 + bits % twoTo 52 : Nat) * (2 : ℚ) ^ ((bits / twoTo 52 : Nat) - 1075 : ℤ)

/-- The bits of the double that is nearest to a number, those that end in a zero if there are two.
    Beyond the doubles that is the infinity. -/
def IsNearest (x : ℚ) (bits : Nat) : Prop :=
  bits ≤ infinityBits ∧ ∀ other ≤ infinityBits,
    |x - magnitude bits| ≤ |x - magnitude other| ∧
      (|x - magnitude bits| = |x - magnitude other| → other = bits ∨ bits % 2 = 0)

theorem twoTo_52 : twoTo 52 = 4503599627370496 := rfl

theorem twoTo_53 : twoTo 53 = 9007199254740992 := rfl

theorem cast_twoTo (n : Nat) : (twoTo n : ℚ) = (2 : ℚ) ^ (n : ℤ) := by
  rw [zpow_natCast]
  exact Nat.cast_pow 2 n

theorem cast_tenTo (n : Nat) : (tenTo n : ℚ) = (10 : ℚ) ^ (n : ℤ) := by
  rw [zpow_natCast]
  exact Nat.cast_pow 10 n

/-- The magnitude of a finite double is that of its bits below the sign. -/
theorem magnitude_of_parts {x : Float} {negative : Bool} {mantissa : Nat} {exponent : ℤ}
    (h : parts x = .finite negative mantissa exponent) :
    magnitude (x.toBits.toNat % twoTo 63) = mantissa * (2 : ℚ) ^ exponent := by
  have hfield (bits : Nat) : bits % twoTo 63 / twoTo 52 = bits / twoTo 52 % twoTo 11 ∧
      bits % twoTo 63 % twoTo 52 = bits % twoTo 52 := by
    rw [twoTo_52, show twoTo 63 = 9223372036854775808 from rfl, show twoTo 11 = 2048 from rfl]
    omega
  rw [magnitude, (hfield _).1, (hfield _).2]
  unfold parts at h
  dsimp only at h
  split at h
  · split at h <;> cases h
  split at h
  · rename_i hzero
    cases h
    rw [if_pos hzero]
  · rename_i hne
    cases h
    rw [if_neg hne]

/-- The window of an exponent: its mantissas, the lowest exponent aside, fill 53 binary places. -/
def InWindow (k m : Nat) : Prop := m ≤ twoTo 53 ∧ (k = 0 ∨ twoTo 52 ≤ m)

theorem magnitude_window {k m : Nat} (h : InWindow k m) :
    magnitude (k * twoTo 52 + m) = m * (2 : ℚ) ^ (k - 1074 : ℤ) := by
  obtain ⟨hle, hge⟩ := h
  rw [twoTo_52] at hge
  rw [twoTo_53] at hle
  rw [magnitude, twoTo_52]
  -- The mantissa fills the window, lies in its first half, or has its own exponent field.
  obtain hm | hm | rfl : m < 4503599627370496 ∨
      (4503599627370496 ≤ m ∧ m < 9007199254740992) ∨ m = 9007199254740992 := by omega
  · obtain rfl : k = 0 := by omega
    rw [if_pos (by omega), Nat.zero_mul, Nat.zero_add, Nat.mod_eq_of_lt hm]
    norm_num
  · rw [if_neg (by omega), show (k * 4503599627370496 + m) / 4503599627370496 = k + 1 by omega,
      show 4503599627370496 + (k * 4503599627370496 + m) % 4503599627370496 = m by omega]
    congr 2
    push_cast
    ring
  · rw [if_neg (by omega),
      show (k * 4503599627370496 + 9007199254740992) / 4503599627370496 = k + 2 by omega,
      show 4503599627370496 + (k * 4503599627370496 + 9007199254740992) % 4503599627370496 =
        4503599627370496 by omega,
      show ((k + 2 : Nat) - 1075 : ℤ) = (k - 1074 : ℤ) + 1 by push_cast; ring,
      zpow_add_one₀ (by simp)]
    push_cast
    ring

theorem exists_window (bits : Nat) :
    ∃ k m, bits = k * twoTo 52 + m ∧ m < twoTo 53 ∧ (k = 0 ∨ twoTo 52 ≤ m) := by
  rw [twoTo_52, twoTo_53]
  by_cases h : bits < 4503599627370496
  · exact ⟨0, bits, by omega, by omega, .inl rfl⟩
  · exact ⟨bits / 4503599627370496 - 1, 4503599627370496 + bits % 4503599627370496, by omega,
      by omega, .inr (by omega)⟩

/-- A number that fits the window is rounded into it. -/
theorem InWindow.of_round {y : ℚ} {k m : Nat} (hlt : y < twoTo 53)
    (hlow : k = 0 ∨ (twoTo 52 : ℚ) ≤ y) (hhalf : |y - m| ≤ 1 / 2) : InWindow k m := by
  rw [abs_le] at hhalf
  refine ⟨Nat.lt_succ_iff.1 ?_, hlow.imp_right fun hge => Nat.lt_succ_iff.1 ?_⟩ <;>
    rw [← Nat.cast_lt (α := ℚ), Nat.cast_succ] <;> linarith

theorem magnitude_strictMono : StrictMono magnitude := by
  refine strictMono_nat_of_lt_succ fun bits => ?_
  obtain ⟨k, m, rfl, hlt, hge⟩ := exists_window bits
  rw [Nat.add_assoc, magnitude_window ⟨hlt.le, hge⟩,
    magnitude_window ⟨hlt, hge.imp_right Nat.le_succ_of_le⟩]
  have hpos : (0 : ℚ) < 2 ^ (k - 1074 : ℤ) := by positivity
  push_cast
  linarith

/-! ### Rounding to a whole number -/

/-- A half at most is lost by rounding, and a half only if the result is even. -/
theorem abs_sub_roundHalfEven (num : Nat) {den : Nat} (hden : 0 < den) :
    |(num : ℚ) / den - roundHalfEven num den| ≤ 1 / 2 ∧
      (|(num : ℚ) / den - roundHalfEven num den| = 1 / 2 → roundHalfEven num den % 2 = 0) := by
  have hpos : (0 : ℚ) < den := by exact_mod_cast hden
  have hsplit : (num : ℚ) / den = (num / den : Nat) + ((num % den : Nat) : ℚ) / den := by
    have hnum : (num : ℚ) = den * (num / den : Nat) + (num % den : Nat) := by
      exact_mod_cast (Nat.div_add_mod num den).symm
    rw [hnum]
    field_simp
  have hnonneg : 0 ≤ ((num % den : Nat) : ℚ) / den := by positivity
  have hhalf : ((num % den : Nat) : ℚ) / den < 1 / 2 ↔ 2 * (num % den) < den := by
    rw [div_lt_iff₀ hpos, ← Nat.cast_lt (α := ℚ)]
    push_cast
    constructor <;> intro h <;> linarith
  have hlt : ((num % den : Nat) : ℚ) / den < 1 := by
    rw [div_lt_one hpos]
    exact_mod_cast Nat.mod_lt num hden
  have htie : ((num % den : Nat) : ℚ) / den = 1 / 2 ↔ 2 * (num % den) = den := by
    rw [div_eq_iff hpos.ne', ← Nat.cast_inj (R := ℚ)]
    push_cast
    constructor <;> intro h <;> linarith
  rw [hsplit, roundHalfEven]
  generalize ((num % den : Nat) : ℚ) / den = fraction at *
  generalize num / den = q at *
  split
  · rename_i hdown
    simp only [Bool.or_eq_true, decide_eq_true_eq, Bool.and_eq_true, beq_iff_eq, ← hhalf,
      ← htie] at hdown
    rw [add_sub_cancel_left, abs_of_nonneg hnonneg]
    exact ⟨hdown.elim le_of_lt fun h => h.1.le, fun h => (hdown.resolve_left h.not_lt).2⟩
  · rename_i hup
    simp only [Bool.or_eq_true, decide_eq_true_eq, Bool.and_eq_true, beq_iff_eq, ← hhalf,
      ← htie, not_or, not_and, not_lt] at hup
    rw [show (q : ℚ) + fraction - (q + 1 : Nat) = -(1 - fraction) by push_cast; ring, abs_neg,
      abs_of_pos (sub_pos.2 hlt)]
    refine ⟨by linarith, fun h => ?_⟩
    have := hup.2 (by linarith)
    omega

/-- A whole number that a half at most was lost for is the nearest one, and the nearest even one if
    there are two. -/
theorem abs_sub_le_of_round {y : ℚ} {m : Nat} (hhalf : |y - m| ≤ 1 / 2)
    (heven : |y - m| = 1 / 2 → m % 2 = 0) (z : Nat) :
    |y - m| ≤ |y - z| ∧ (|y - m| = |y - z| → z = m ∨ m % 2 = 0) := by
  rcases eq_or_ne z m with rfl | hne
  · exact ⟨le_rfl, fun _ => .inl rfl⟩
  have hone : (1 : ℚ) ≤ |(m : ℚ) - z| := by
    exact_mod_cast Int.one_le_abs (sub_ne_zero.2 (Nat.cast_injective.ne hne.symm) : (m : ℤ) - z ≠ 0)
  have htriangle : |(m : ℚ) - z| ≤ |y - m| + |y - z| := by
    rw [← abs_sub_comm (m : ℚ) y]
    exact abs_sub_le (m : ℚ) y z
  exact ⟨by linarith, fun h => .inr (heven (by linarith))⟩

/-! ### The nearest double -/

/-- From the window of an exponent up, the doubles are whole multiples of its power of two. -/
theorem exists_multiple {k bits : Nat} (h : k = 0 ∨ (k + 1) * twoTo 52 ≤ bits) :
    ∃ z : Nat, magnitude bits = z * (2 : ℚ) ^ (k - 1074 : ℤ) := by
  obtain ⟨k', m, rfl, hlt, hge⟩ := exists_window bits
  obtain ⟨n, rfl⟩ : ∃ n, k' = k + n := by
    rw [twoTo_52] at h
    rw [twoTo_53] at hlt
    exact Nat.exists_eq_add_of_le (by omega)
  refine ⟨m * 2 ^ n, ?_⟩
  rw [magnitude_window ⟨hlt.le, hge⟩, show ((k + n : Nat) - 1074 : ℤ) = (k - 1074) + n by
    push_cast; ring, zpow_add₀ (by simp), zpow_natCast]
  push_cast
  ring

/-- A double below the window is further away from a number in it than the nearest multiple. -/
theorem abs_sub_lt_of_below {y below : ℚ} {m : Nat} (hy : (twoTo 52 : ℚ) ≤ y)
    (hhalf : |y - m| ≤ 1 / 2) (hbelow : below < twoTo 52) : |y - m| < |y - below| := by
  rw [abs_of_pos (by linarith : 0 < y - below)]
  rw [abs_le] at hhalf
  obtain rfl | hm : twoTo 52 = m ∨ twoTo 52 < m := by
    refine Nat.eq_or_lt_of_le (Nat.lt_succ_iff.1 ?_)
    rw [← Nat.cast_lt (α := ℚ), Nat.cast_succ]
    linarith
  · rw [abs_of_nonneg (by linarith)]
    linarith
  · have hm' : (twoTo 52 : ℚ) + 1 ≤ m := by exact_mod_cast hm
    rw [abs_lt]
    constructor <;> linarith

/-- What is nearest among the multiples in a window is nearest among all doubles. -/
theorem nearest_of_window {y : ℚ} {k m : Nat} (hlt : y < twoTo 53)
    (hlow : k = 0 ∨ (twoTo 52 : ℚ) ≤ y) (hhalf : |y - m| ≤ 1 / 2)
    (heven : |y - m| = 1 / 2 → m % 2 = 0) (other : Nat) :
    let x := y * 2 ^ (k - 1074 : ℤ)
    let bits := k * twoTo 52 + m
    |x - magnitude bits| ≤ |x - magnitude other| ∧
      (|x - magnitude bits| = |x - magnitude other| → other = bits ∨ bits % 2 = 0) := by
  intro x bits
  have hbits : magnitude bits = m * 2 ^ (k - 1074 : ℤ) :=
    magnitude_window (.of_round hlt hlow hhalf)
  have hpos : (0 : ℚ) < 2 ^ (k - 1074 : ℤ) := by positivity
  have hscale (v : ℚ) : |x - v * 2 ^ (k - 1074 : ℤ)| = |y - v| * 2 ^ (k - 1074 : ℤ) := by
    rw [← sub_mul, abs_mul, abs_of_pos hpos]
  by_cases hin : k = 0 ∨ (k + 1) * twoTo 52 ≤ other
  · obtain ⟨z, hz⟩ := exists_multiple hin
    obtain ⟨hle, htie⟩ := abs_sub_le_of_round hhalf heven z
    rw [hbits, hz, hscale, hscale]
    refine ⟨mul_le_mul_of_nonneg_right hle hpos.le, fun h => ?_⟩
    refine (htie (mul_right_cancel₀ hpos.ne' h)).imp (fun hzm => ?_) fun hm => ?_
    · exact magnitude_strictMono.injective (by rw [hbits, hz, hzm])
    · rw [show bits = k * twoTo 52 + m from rfl, twoTo_52]
      omega
  · rw [not_or, not_le] at hin
    have hbelow : magnitude other / 2 ^ (k - 1074 : ℤ) < twoTo 52 := by
      rw [div_lt_iff₀ hpos, ← magnitude_window ⟨by decide, .inr le_rfl⟩, ← Nat.succ_mul]
      exact magnitude_strictMono hin.2
    have hlt := abs_sub_lt_of_below (hlow.resolve_left hin.1) hhalf hbelow
    have hother : magnitude other = magnitude other / 2 ^ (k - 1074 : ℤ) * 2 ^ (k - 1074 : ℤ) :=
      (div_mul_cancel₀ _ hpos.ne').symm
    rw [hother, hbits, hscale, hscale]
    have hlt' := mul_lt_mul_of_pos_right hlt hpos
    exact ⟨hlt'.le, fun h => absurd h hlt'.ne⟩

/-! ### The exponent of a ratio -/

section Exponent

variable {num den : Nat}

/-- A ratio scaled by a power of two. -/
theorem scaled_div (hden : 0 < den) (e : ℤ) :
    ((scaled num den e).1 : ℚ) / (scaled num den e).2 = num / den / 2 ^ e := by
  have hpow : (2 : ℚ) ^ e = 2 ^ (e.toNat : ℤ) / 2 ^ ((-e).toNat : ℤ) := by
    rw [← zpow_sub₀ (by simp), Int.toNat_sub_toNat_neg]
  have hpos : (0 : ℚ) < den := by exact_mod_cast hden
  rw [hpow, scaled]
  push_cast
  rw [cast_twoTo, cast_twoTo]
  field_simp

theorem scaled_pos (hden : 0 < den) (e : ℤ) : 0 < (scaled num den e).2 :=
  Nat.mul_pos hden (Nat.pos_of_ne_zero (by simp [twoTo]))

theorem scaled_lt_iff (hden : 0 < den) (e : ℤ) :
    (scaled num den e).1 / (scaled num den e).2 < twoTo 53 ↔
      (num : ℚ) / den / 2 ^ e < twoTo 53 := by
  have hpos : (0 : ℚ) < (scaled num den e).2 := by exact_mod_cast scaled_pos hden e
  rw [← scaled_div hden, div_lt_iff₀ hpos, Nat.div_lt_iff_lt_mul (scaled_pos hden e)]
  exact_mod_cast Iff.rfl

/-- The places of a numerator and a denominator leave two binades for their ratio. -/
theorem ratio_bounds (hnum : 0 < num) (hden : 0 < den) :
    (twoTo 52 : ℚ) ≤ (num : ℚ) / den / 2 ^ (num.log2 - den.log2 - 53 : ℤ) ∧
      (num : ℚ) / den / 2 ^ (num.log2 - den.log2 - 53 : ℤ) < 2 * twoTo 53 := by
  have hpos : (0 : ℚ) < den := by exact_mod_cast hden
  have htwo : (0 : ℚ) < 2 ^ (num.log2 - den.log2 - 53 : ℤ) := by positivity
  have hnum_le : (2 : ℚ) ^ (num.log2 : ℤ) ≤ num := by
    rw [zpow_natCast]
    exact_mod_cast Nat.log2_self_le hnum.ne'
  have hnum_lt : (num : ℚ) < 2 * 2 ^ (num.log2 : ℤ) := by
    rw [zpow_natCast, ← pow_succ']
    exact_mod_cast Nat.lt_log2_self
  have hden_le : (2 : ℚ) ^ (den.log2 : ℤ) ≤ den := by
    rw [zpow_natCast]
    exact_mod_cast Nat.log2_self_le hden.ne'
  have hden_lt : (den : ℚ) < 2 * 2 ^ (den.log2 : ℤ) := by
    rw [zpow_natCast, ← pow_succ']
    exact_mod_cast Nat.lt_log2_self
  have hplaces : (2 : ℚ) ^ (num.log2 - den.log2 - 53 : ℤ) * 2 ^ (den.log2 : ℤ) * twoTo 53 =
      2 ^ (num.log2 : ℤ) := by
    rw [cast_twoTo, ← zpow_add₀ (by simp), ← zpow_add₀ (by simp)]
    congr 1
    omega
  have hhalf : (twoTo 53 : ℚ) = 2 * twoTo 52 := by
    rw [twoTo_52, twoTo_53]
    norm_num
  rw [div_div, le_div_iff₀ (by positivity), div_lt_iff₀ (by positivity)]
  constructor
  · calc (twoTo 52 : ℚ) * (den * 2 ^ (num.log2 - den.log2 - 53 : ℤ))
      _ ≤ twoTo 52 * (2 * 2 ^ (den.log2 : ℤ) * 2 ^ (num.log2 - den.log2 - 53 : ℤ)) := by gcongr
      _ = 2 ^ (num.log2 : ℤ) := by rw [← hplaces, hhalf]; ring
      _ ≤ num := hnum_le
  · calc (num : ℚ)
      _ < 2 * 2 ^ (num.log2 : ℤ) := hnum_lt
      _ = 2 * twoTo 53 * (2 ^ (den.log2 : ℤ) * 2 ^ (num.log2 - den.log2 - 53 : ℤ)) := by
        rw [← hplaces]; ring
      _ ≤ 2 * twoTo 53 * (den * 2 ^ (num.log2 - den.log2 - 53 : ℤ)) := by gcongr

/-- The exponent at which a ratio has 53 binary places before the point. -/
def ownExponent (num den : Nat) : ℤ :=
  let low : ℤ := num.log2 - den.log2 - 53
  if (scaled num den low).1 / (scaled num den low).2 < twoTo 53 then low else low + 1

theorem ownExponent_bounds (hnum : 0 < num) (hden : 0 < den) :
    (num : ℚ) / den / 2 ^ ownExponent num den < twoTo 53 ∧
      (twoTo 52 : ℚ) ≤ num / den / 2 ^ ownExponent num den := by
  obtain ⟨hge, hlt⟩ := ratio_bounds hnum hden
  unfold ownExponent
  dsimp only
  generalize (num.log2 - den.log2 - 53 : ℤ) = low at *
  split
  · exact ⟨(scaled_lt_iff hden low).1 ‹_›, hge⟩
  · rename_i hfull
    have hsucc : (num : ℚ) / den / 2 ^ (low + 1) = num / den / 2 ^ low / 2 := by
      rw [zpow_add_one₀ (by simp), div_div (num / den : ℚ)]
    rw [scaled_lt_iff hden, not_lt, twoTo_53] at hfull
    rw [hsucc, twoTo_52]
    push_cast at *
    exact ⟨by linarith, by linarith⟩

/-- The exponent that a ratio is rounded at: its own, or the lowest. -/
def exponentOf (num den : Nat) : ℤ := max (ownExponent num den) (-1074)

theorem exponentOf_bounds (hnum : 0 < num) (hden : 0 < den) :
    (num : ℚ) / den / 2 ^ exponentOf num den < twoTo 53 ∧
      (exponentOf num den = -1074 ∨ (twoTo 52 : ℚ) ≤ num / den / 2 ^ exponentOf num den) := by
  obtain ⟨hlt, hge⟩ := ownExponent_bounds hnum hden
  obtain hmax | hmax := max_choice (ownExponent num den) (-1074) <;> rw [exponentOf, hmax]
  · exact ⟨hlt, .inr hge⟩
  · refine ⟨hlt.trans_le' ?_, .inl rfl⟩
    gcongr
    · simp
    · exact max_eq_right_iff.1 hmax

/-- The field of the exponent of a ratio. -/
theorem exists_exponentOf (num den : Nat) : ∃ k : Nat, exponentOf num den = k - 1074 := by
  obtain ⟨k, hk⟩ := Int.le.dest (le_max_right (ownExponent num den) (-1074))
  exact ⟨k, by rw [exponentOf]; omega⟩

end Exponent

/-! ### The double of a ratio -/

/-- Beyond the doubles the infinity is the nearest. -/
theorem isNearest_min {x : ℚ} {bits : Nat} (h : ∀ other,
    |x - magnitude bits| ≤ |x - magnitude other| ∧
      (|x - magnitude bits| = |x - magnitude other| → other = bits ∨ bits % 2 = 0)) :
    IsNearest x (min bits infinityBits) := by
  refine ⟨min_le_right _ _, fun other hother => ?_⟩
  obtain hle | hlt := le_or_gt bits infinityBits
  · rw [min_eq_left hle]
    exact h other
  · rw [min_eq_right hlt.le]
    refine ⟨?_, fun _ => .inr rfl⟩
    have hbits := magnitude_strictMono hlt
    have habove : magnitude infinityBits ≤ x := by
      by_contra hx
      have := (h infinityBits).1
      rw [abs_of_neg (by linarith), abs_of_neg (by linarith)] at this
      linarith
    have hother := magnitude_strictMono.monotone hother
    rw [abs_of_nonneg (by linarith), abs_of_nonneg (by linarith)]
    linarith

/-- The bits of a ratio are those of the nearest double. -/
theorem nearestBits_isNearest {num den : Nat} (hnum : 0 < num) (hden : 0 < den) :
    IsNearest (num / den) (nearestBits num den) := by
  obtain ⟨k, hk⟩ := exists_exponentOf num den
  obtain ⟨hlt, hlow⟩ := exponentOf_bounds hnum hden
  have hpos : 0 < (scaled num den (exponentOf num den)).2 := scaled_pos hden _
  obtain ⟨hhalf, heven⟩ := abs_sub_roundHalfEven (scaled num den (exponentOf num den)).1 hpos
  have hbits : nearestBits num den = min ((exponentOf num den + 1074).toNat * twoTo 52 +
      roundHalfEven (scaled num den (exponentOf num den)).1
        (scaled num den (exponentOf num den)).2) infinityBits := rfl
  rw [hbits]
  rw [scaled_div hden] at hhalf heven
  generalize roundHalfEven (scaled num den (exponentOf num den)).1
    (scaled num den (exponentOf num den)).2 = m at *
  rw [hk] at *
  have hfield : ((k : ℤ) - 1074 + 1074).toNat = k := by omega
  have hscaled : (num : ℚ) / den / 2 ^ (k - 1074 : ℤ) * 2 ^ (k - 1074 : ℤ) = num / den :=
    div_mul_cancel₀ _ (by positivity)
  rw [hfield]
  generalize (num : ℚ) / den / 2 ^ (k - 1074 : ℤ) = y at *
  have hlow : k = 0 ∨ (twoTo 52 : ℚ) ≤ y := hlow.imp_left fun h => by omega
  refine isNearest_min fun other => ?_
  rw [← hscaled]
  exact nearest_of_window hlt hlow hhalf heven other

theorem isNearest_zero : IsNearest 0 0 := by
  refine ⟨Nat.zero_le _, fun other _ => ⟨?_, fun _ => .inr rfl⟩⟩
  rw [show magnitude 0 = 0 by simp [magnitude], sub_zero, abs_zero]
  exact abs_nonneg _

/-- The double of a decimal is the nearest one. -/
theorem ofDecimal_isNearest (negative : Bool) (coefficient : Nat) (exponent : ℤ) :
    ∃ bits, ofDecimal negative coefficient exponent = signed negative bits ∧
      IsNearest (coefficient * 10 ^ exponent) bits := by
  have hden : 0 < tenTo (-exponent).toNat := Nat.pos_of_ne_zero (by simp [tenTo])
  have hratio : ((coefficient * tenTo exponent.toNat : Nat) : ℚ) / tenTo (-exponent).toNat =
      coefficient * 10 ^ exponent := by
    have hpow : (10 : ℚ) ^ exponent = 10 ^ (exponent.toNat : ℤ) / 10 ^ ((-exponent).toNat : ℤ) := by
      rw [← zpow_sub₀ (by simp), Int.toNat_sub_toNat_neg]
    rw [hpow, Nat.cast_mul, cast_tenTo, cast_tenTo, mul_div_assoc]
  rw [ofDecimal, ofRatio]
  split
  · rename_i hzero
    refine ⟨0, rfl, ?_⟩
    rw [← hratio, hzero, Nat.cast_zero, zero_div]
    exact isNearest_zero
  · rename_i hnum
    exact ⟨_, rfl, hratio ▸ nearestBits_isNearest (Nat.pos_of_ne_zero hnum) hden⟩

end Console.Binary64
