import Console.Text.Blank
import Mathlib.Data.List.Induction

/-! Decimal numerals. A number that is read digit by digit only grows, and digits are the numeral of
    their value behind leading zeros. -/

namespace Console.Text

theorem le_ofDigitChars (digits : Text) (value : Nat) :
    value ≤ Nat.ofDigitChars 10 digits value := by
  induction digits generalizing value with
  | nil => simp
  | cons d rest ih =>
    rw [Nat.ofDigitChars_cons]
    have := ih (10 * value + (d.toNat - '0'.toNat))
    omega

/-- A digit has a value below ten, and is the digit of its value. -/
theorem digitChar_of_isDigit {c : Char} (h : c.isDigit = true) :
    c.toNat - '0'.toNat < 10 ∧ Nat.digitChar (c.toNat - '0'.toNat) = c := by
  rw [Char.isDigit, Bool.and_eq_true, decide_eq_true_eq, decide_eq_true_eq] at h
  have hlow : 48 ≤ c.toNat := h.1
  have hhigh : c.toNat ≤ 57 := h.2
  have hzero : '0'.toNat = 48 := rfl
  refine ⟨by omega, Char.toNat_inj.1 ?_⟩
  rw [Nat.toNat_digitChar_of_lt_ten (by omega)]
  omega

/-- Digits are leading zeros and the numeral of their value. -/
theorem exists_leading_zeros {digits : Text} (hne : digits ≠ [])
    (h : ∀ c ∈ digits, c.isDigit = true) :
    ∃ zeros, digits = List.replicate zeros '0' ++ ofNat (Nat.ofDigitChars 10 digits 0) := by
  induction digits using List.reverseRecOn with
  | nil => exact absurd rfl hne
  | append_singleton digits c ih =>
    rw [List.forall_mem_append, List.forall_mem_singleton] at h
    obtain ⟨hlt, hdigit⟩ := digitChar_of_isDigit h.2
    have hlast : ofNat (c.toNat - '0'.toNat) = [c] := by
      rw [ofNat, Nat.toDigits_of_lt_base hlt, hdigit]
    rw [Nat.ofDigitChars_append, Nat.ofDigitChars_cons, Nat.ofDigitChars_nil]
    by_cases hdigits : digits = []
    · subst hdigits
      exact ⟨0, by rw [Nat.ofDigitChars_nil, Nat.mul_zero, Nat.zero_add, hlast]; rfl⟩
    obtain ⟨zeros, hzeros⟩ := ih hdigits h.1
    -- a value of zero has the numeral 0, which becomes one more leading zero
    rcases (Nat.ofDigitChars 10 digits 0).eq_zero_or_pos with hvalue | hvalue
    · refine ⟨zeros + 1, ?_⟩
      rw [hvalue] at hzeros
      rw [hvalue, Nat.mul_zero, Nat.zero_add, hlast, List.replicate_succ', hzeros]
      rfl
    · refine ⟨zeros, ?_⟩
      rw [ofNat, ← Nat.toDigits_append_toDigits (by decide) hvalue hlt, ← List.append_assoc]
      change _ = (_ ++ ofNat _) ++ ofNat _
      rw [← hzeros, hlast]

/-! ### Reading -/

theorem isBlank_of_isDigit {c : Char} (h : c.isDigit = true) : isBlank c = false := by
  rw [Char.isDigit, Bool.and_eq_true, decide_eq_true_eq, decide_eq_true_eq] at h
  have hlow : 48 ≤ c.toNat := h.1
  have hhigh : c.toNat ≤ 57 := h.2
  simp only [isBlank]
  grind

theorem isDigit_of_mem_ofNat {n : Nat} {c : Char} (h : c ∈ ofNat n) : c.isDigit = true :=
  Nat.isDigit_of_mem_toDigits (by decide) (by decide) h

theorem toNat?_eq_some {digits : Text} (hne : digits ≠ []) (h : ∀ c ∈ digits, c.isDigit = true) :
    toNat? digits = some (Nat.ofDigitChars 10 digits 0) := by
  rw [toNat?, if_pos]
  simpa using ⟨hne, h⟩

/-- What does not begin with a digit is no numeral. -/
theorem toNat?_eq_none {t : Text} (h : ∀ c ∈ t.head?, c.isDigit = false) : toNat? t = none := by
  cases t with
  | nil => rfl
  | cons c t => simp [toNat?, h c rfl]

theorem isDigit_of_mem_zeros_ofNat {zeros n : Nat} {c : Char}
    (h : c ∈ List.replicate zeros '0' ++ ofNat n) : c.isDigit = true := by
  obtain h | h := List.mem_append.1 h
  · rw [List.eq_of_mem_replicate h]
    decide
  · exact isDigit_of_mem_ofNat h

theorem zeros_ofNat_ne_nil (zeros n : Nat) : List.replicate zeros '0' ++ ofNat n ≠ [] :=
  List.append_ne_nil_of_right_ne_nil _ Nat.toDigits_ne_nil

/-- Leading zeros do not count. -/
theorem ofDigitChars_zeros_ofNat (zeros n : Nat) :
    Nat.ofDigitChars 10 (List.replicate zeros '0' ++ ofNat n) 0 = n := by
  induction zeros with
  | zero => exact Nat.ofDigitChars_ten_toDigits
  | succ zeros ih => exact ih

/-- A numeral is read back, also behind leading zeros. -/
theorem toNat?_zeros_ofNat (zeros n : Nat) :
    toNat? (List.replicate zeros '0' ++ ofNat n) = some n := by
  rw [toNat?_eq_some (zeros_ofNat_ne_nil zeros n) fun c hc => isDigit_of_mem_zeros_ofNat hc,
    ofDigitChars_zeros_ofNat]

end Console.Text
