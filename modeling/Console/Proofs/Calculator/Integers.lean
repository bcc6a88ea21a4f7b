import Console.Calculator.Grammar
import Mathlib.Data.Int.Basic

/-! The calculator's operations on integers. An operation gives an integer exactly when its operands
    are integers and the exact result is a 64-bit integer, and then it gives that result. There is
    one exception: the remainder of the least integer by minus one is zero, but its quotient does
    not fit, so it is no integer either. -/

namespace Console.Calculator

/-- The integers are those that 64 bits hold. -/
theorem fit?_eq_some_iff {n : Int} {r : Int64} : fit? n = some r ↔ r.toInt = n := by
  have hlow := Int64.le_toInt r
  have hhigh := Int64.toInt_lt r
  unfold fit? Word.half
  split
  · rename_i h
    rw [Option.some.injEq]
    constructor
    · rintro rfl
      exact Int64.toInt_ofInt_of_le (by omega) (by omega)
    · rintro rfl
      exact Int64.ofInt_toInt r
  · constructor
    · exact fun h => nomatch h
    · intro h
      omega

/-- Whether a number fits. -/
theorem fit?_isSome_iff {n : Int} : (fit? n).isSome ↔ -Word.half ≤ n ∧ n < Word.half := by
  unfold fit?
  split <;> simp_all

theorem toInt_fits (n : Int64) : -Word.half ≤ n.toInt ∧ n.toInt < Word.half :=
  fit?_isSome_iff.1 (Option.isSome_iff_exists.2 ⟨n, fit?_eq_some_iff.2 rfl⟩)

theorem exists_toInt {n : Int} (h : -Word.half ≤ n ∧ n < Word.half) : ∃ r : Int64, r.toInt = n := by
  obtain ⟨r, hr⟩ := Option.isSome_iff_exists.1 (fit?_isSome_iff.2 h)
  exact ⟨r, fit?_eq_some_iff.1 hr⟩

/-! ### Quotients -/

/-- Only the least integer by minus one has a quotient that does not fit. -/
theorem tdiv_fits_iff {a b : Int} (ha : -Word.half ≤ a ∧ a < Word.half) (hb : b ≠ 0) :
    (-Word.half ≤ a.tdiv b ∧ a.tdiv b < Word.half) ↔ ¬ (a = -Word.half ∧ b = -1) := by
  unfold Word.half at *
  have hle := Int.natAbs_tdiv_le_natAbs a b
  constructor
  · rintro h ⟨rfl, rfl⟩
    exact absurd h (by decide)
  · intro hleast
    refine ⟨by omega, Int.not_le.1 fun hlarge => hleast ?_⟩
    -- the quotient is as large as the dividend, so the divisor is a unit
    have hunit : b.natAbs = 1 := by
      refine Classical.byContradiction fun hunit => ?_
      have hhalf : a.natAbs / b.natAbs ≤ a.natAbs / 2 := Nat.div_le_div_left (by omega) (by decide)
      have habs : (a.tdiv b).natAbs = a.natAbs / b.natAbs := Int.natAbs_tdiv a b
      omega
    obtain rfl | rfl := Int.natAbs_eq_iff.1 hunit
    · rw [Int.natCast_one, Int.tdiv_one] at hlarge
      omega
    · exact ⟨by omega, rfl⟩

/-! ### Operations -/

theorem SumOp.exact?_eq_some_iff {op : SumOp} {a b r : Int64} :
    op.exact? a b = some r ↔ r.toInt = op.apply a.toInt b.toInt := by
  cases op <;> exact fit?_eq_some_iff

/-- Nothing is divided by zero. -/
theorem ProductOp.ne_zero_of_defined : ∀ {op : ProductOp} {a b c : Int},
    op.apply? a b = some c → op ≠ .times → b ≠ 0
  | .times, _, _, _, _, hop => absurd rfl hop
  | .over, _, _, _, h, _ => by
    rintro rfl
    exact nomatch h
  | .modulo, _, _, _, h, _ => by
    rintro rfl
    exact nomatch h

/-- A product of integers is exact where it is defined and fits; a remainder needs a quotient that
    fits as well. -/
theorem ProductOp.exact?_eq_some_iff {op : ProductOp} {a b r : Int64}
    (hb : op ≠ .times → b.toInt ≠ 0) : op.exact? a b = some r ↔
      op.apply? a.toInt b.toInt = some r.toInt ∧
        ¬ (op = .modulo ∧ a.toInt = -Word.half ∧ b.toInt = -1) := by
  match op, hb with
  | .times, _ =>
    unfold ProductOp.exact? ProductOp.apply?
    rw [fit?_eq_some_iff, Option.some.injEq]
    simp [eq_comm]
  | .over, hb =>
    have hb' := hb (by decide)
    unfold ProductOp.exact? ProductOp.apply?
    dsimp only
    by_cases heven : b.toInt ∣ a.toInt
    · rw [if_pos (Int.tmod_eq_zero_of_dvd heven), if_pos ⟨hb', heven⟩, fit?_eq_some_iff,
        Int.tdiv_eq_ediv_of_dvd heven]
      simp [eq_comm]
    · rw [if_neg (mt Int.dvd_of_tmod_eq_zero heven), if_neg fun h => heven h.2]
      simp
  | .modulo, hb =>
    have hb' := hb (by decide)
    unfold ProductOp.exact? ProductOp.apply?
    dsimp only
    rw [if_pos hb', Option.bind_eq_some_iff]
    constructor
    · rintro ⟨q, hq, hr⟩
      refine ⟨congrArg some (fit?_eq_some_iff.1 hr).symm, fun h => ?_⟩
      exact (tdiv_fits_iff (toInt_fits a) hb').1 (fit?_isSome_iff.1 (by rw [hq]; rfl)) h.2
    · rintro ⟨hr, hleast⟩
      have hquotient := (tdiv_fits_iff (toInt_fits a) hb').2 fun h => hleast ⟨rfl, h⟩
      obtain ⟨q, hq⟩ := exists_toInt hquotient
      exact ⟨q, fit?_eq_some_iff.2 hq, fit?_eq_some_iff.2 (Option.some.inj hr).symm⟩

namespace Number

theorem sum_eq_int_iff {op : SumOp} {a b : Number} {r : Int64} : a.sum op b = .int r ↔
    ∃ m n, a = .int m ∧ b = .int n ∧ r.toInt = op.apply m.toInt n.toInt := by
  constructor
  · intro h
    unfold sum at h
    split at h
    · rename_i m n
      split at h
      · rename_i s hs
        obtain rfl := Number.int.inj h
        exact ⟨m, n, rfl, rfl, SumOp.exact?_eq_some_iff.1 hs⟩
      · exact nomatch h
    · exact nomatch h
  · rintro ⟨m, n, rfl, rfl, h⟩
    simp only [sum, SumOp.exact?_eq_some_iff.2 h]

theorem isZero_int (n : Int64) : (int n).isZero = true ↔ n.toInt = 0 := by
  rw [isZero, beq_iff_eq, ← Int64.toInt_inj]
  rfl

theorem product_eq_int_iff {op : ProductOp} {a b : Number} {r : Int64} :
    a.product op b = .ok (.int r) ↔ ∃ m n, a = .int m ∧ b = .int n ∧
      op.apply? m.toInt n.toInt = some r.toInt ∧
        ¬ (op = .modulo ∧ m.toInt = -Word.half ∧ n.toInt = -1) := by
  constructor
  · intro h
    unfold product at h
    split at h
    · exact nomatch h
    rename_i hzero
    split at h
    · rename_i m n
      have hn : op ≠ .times → n.toInt ≠ 0 := fun hop h0 =>
        hzero ⟨hop, (isZero_int n).2 h0⟩
      split at h
      · rename_i s hs
        obtain rfl := Number.int.inj (Except.ok.inj h)
        exact ⟨m, n, rfl, rfl, (ProductOp.exact?_eq_some_iff hn).1 hs⟩
      · exact nomatch h
    · exact nomatch h
  · rintro ⟨m, n, rfl, rfl, h⟩
    have hn := ProductOp.ne_zero_of_defined h.1
    have hzero : ¬ (op ≠ .times ∧ (int n).isZero) := fun hz => hn hz.1 ((isZero_int n).1 hz.2)
    rw [product, if_neg hzero]
    simp only [(ProductOp.exact?_eq_some_iff hn).2 h]

theorem negate_eq_int_iff {a : Number} {r : Int64} : a.negate = .int r ↔
    ∃ n, a = .int n ∧ r.toInt = -n.toInt := by
  constructor
  · intro h
    unfold negate at h
    split at h
    · rename_i n
      split at h
      · rename_i s hs
        obtain rfl := Number.int.inj h
        exact ⟨n, rfl, fit?_eq_some_iff.1 hs⟩
      · exact nomatch h
    · exact nomatch h
  · rintro ⟨n, rfl, h⟩
    simp only [negate, fit?_eq_some_iff.2 h]

end Number

end Console.Calculator
