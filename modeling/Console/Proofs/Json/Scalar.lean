import Console.Json.Printer
import Console.Json.Reader
import Console.Proofs.Text.Numeral
import Mathlib.Data.List.Basic

/-! Strings and numerals read back. A printed string gives the string again whatever stands behind
    it, escapes included. A printed numeral gives its number if the number is below the limit and
    something that cannot belong to a number stands behind it; and whatever text is read as a
    natural, the natural is below the limit. -/

namespace Console.Json

/-! ### Strings -/

/-- Four digits as they are printed for a control character have its code for their value. -/
theorem hexFour?_hexChar : ∀ n < 32,
    hexFour? '0' '0' (hexChar (n / 16)) (hexChar (n % 16)) = some n := by decide

theorem toNat_lt_of_lt_space {c : Char} (h : c < ' ') : c.toNat < 32 := h

/-- The body of a string behind the code of a control character. -/
theorem stringBody_code {c : Char} (hc : c < ' ') (rest : Text) :
    stringBody ('\\' :: 'u' :: '0' :: '0' :: hexChar (c.toNat / 16) :: hexChar (c.toNat % 16)
      :: rest) = consChar c (stringBody rest) := by
  have hlt : c.toNat < 32 := toNat_lt_of_lt_space hc
  have hlow : isLowHalf c.toNat = false := by simp [isLowHalf]; omega
  have hhigh : isHighHalf c.toNat = false := by simp [isHighHalf]; omega
  rw [stringBody, hexFour?_hexChar _ hlt]
  simp only [hlow, hhigh, Bool.not_false, if_true, Bool.false_eq_true, if_false]
  rw [Char.ofNat_toNat]

/-- The body of a string behind a character that stands for itself. -/
theorem stringBody_cons {c : Char} (hquote : c ≠ '"') (hback : c ≠ '\\') (hc : ¬ c < ' ')
    (rest : Text) : stringBody (c :: rest) = consChar c (stringBody rest) := by
  rw [stringBody]
  · exact if_neg hc
  all_goals simp_all

/-- A character is read back from its printed form. -/
theorem stringBody_escapeChar (c : Char) (rest : Text) :
    stringBody (escapeChar c ++ rest) = consChar c (stringBody rest) := by
  unfold escapeChar
  split
  case h_8 =>
    split
    · rename_i hc
      exact stringBody_code hc rest
    · rename_i hc
      exact stringBody_cons (by simp_all) (by simp_all) hc rest
  all_goals simp [stringBody, escaped?]

/-- A string is read back from its printed form. -/
theorem stringBody_flatMap (t rest : Text) :
    stringBody (t.flatMap escapeChar ++ '"' :: rest) = .ok (t, rest) := by
  induction t with
  | nil => rfl
  | cons c t ih =>
    rw [List.flatMap_cons, List.append_assoc, stringBody_escapeChar, ih]
    rfl

theorem quote_append (t rest : Text) :
    quote t ++ rest = '"' :: (t.flatMap escapeChar ++ '"' :: rest) := by
  simp [quote]

/-- A string value is read back from its printed form. -/
theorem string_quote (t rest : Text) : string (quote t ++ rest) = .ok (t, rest) := by
  rw [quote_append]
  exact stringBody_flatMap t rest

/-! ### Numerals -/

/-- The first numeral character of a positive number is not a zero. -/
theorem head?_toDigits_ne_zero (n : Nat) (h : 0 < n) : (Nat.toDigits 10 n).head? ≠ some '0' := by
  induction n using Nat.strongRecOn with
  | ind n ih =>
    rw [Nat.toDigits_eq_if (by decide)]
    split
    · rename_i hlt
      simpa using Nat.ne_of_gt h
    · rename_i hge
      have hpos : 0 < n / 10 := by omega
      rw [List.head?_append_of_ne_nil _ Nat.toDigits_ne_nil]
      exact ih (n / 10) (by omega) hpos

/-- No numeral but the one of zero begins with a zero. -/
theorem toDigits_zero_or (n : Nat) :
    (Nat.toDigits 10 n).length = 1 ∨ (Nat.toDigits 10 n).head? ≠ some '0' := by
  rcases n.eq_zero_or_pos with rfl | h
  · exact .inl rfl
  · exact .inr (head?_toDigits_ne_zero n h)

/-- All digits are kept if the number stays below the limit. -/
theorem keptDigits_eq (digits : List Char) (value : Nat)
    (h : Nat.ofDigitChars 10 digits value < naturalLimit) :
    keptDigits digits value = (Nat.ofDigitChars 10 digits value, []) := by
  induction digits generalizing value with
  | nil => simp [keptDigits]
  | cons d rest ih =>
    rw [Nat.ofDigitChars_cons, Nat.mul_comm] at h ⊢
    have hgrown := Nat.lt_of_le_of_lt (Text.le_ofDigitChars rest _) h
    simp only [keptDigits]
    rw [if_pos hgrown]
    exact ih _ h

/-- What is kept stays below the limit. -/
theorem keptDigits_lt (digits : List Char) (value : Nat) (h : value < naturalLimit) :
    (keptDigits digits value).1 < naturalLimit := by
  induction digits generalizing value with
  | nil => exact h
  | cons d rest ih =>
    simp only [keptDigits]
    split
    · rename_i hgrown
      exact ih _ hgrown
    · exact h

/-- Whether nothing that belongs to a number stands at the front. -/
def PastNumber (t : Text) : Prop :=
  ∀ c ∈ t.head?, c.isDigit = false ∧ c ≠ '.' ∧ c ≠ 'e' ∧ c ≠ 'E'

theorem PastNumber.takeWhile_digits {digits rest : Text} (h : PastNumber rest)
    (hdigits : ∀ c ∈ digits, c.isDigit = true) :
    (digits ++ rest).takeWhile Char.isDigit = digits ∧
      (digits ++ rest).dropWhile Char.isDigit = rest := by
  rw [List.takeWhile_append_of_pos hdigits, List.dropWhile_append_of_pos hdigits]
  cases rest with
  | nil => simp
  | cons c rest =>
    have hc : c.isDigit = false := (h c rfl).1
    simp [hc]

/-- A number below the limit is read back from its numeral. -/
theorem number_ofNat {n : Nat} {rest : Text} (hn : n < naturalLimit) (hrest : PastNumber rest) :
    number (Text.ofNat n ++ rest) = .ok (some n, rest) := by
  have hdigits : ∀ c ∈ Text.ofNat n, c.isDigit = true := fun c hc =>
    Text.isDigit_of_mem_ofNat hc
  have hkept : keptDigits (Text.ofNat n) 0 = (n, []) := by
    have := keptDigits_eq (Text.ofNat n) 0
    rw [Text.ofNat, Nat.ofDigitChars_ten_toDigits] at this
    exact this hn
  obtain ⟨htake, hdrop⟩ := hrest.takeWhile_digits hdigits
  have hne : Text.ofNat n ≠ [] := Nat.toDigits_ne_nil
  unfold number
  split
  · rename_i heq
    exact absurd (List.append_eq_nil_iff.1 heq).1 hne
  · rename_i c _ heq
    have hhead : (Text.ofNat n).head? = some c := by
      rw [← List.head?_append_of_ne_nil _ hne, heq, List.head?_cons]
    have hc : c.isDigit = true := hdigits c (List.mem_of_mem_head? hhead)
    have hzero : ¬ (c = '0' ∧ 1 < (Text.ofNat n).length) := by
      rintro ⟨rfl, hlength⟩
      rcases toDigits_zero_or n with h | h
      · exact absurd h (Nat.ne_of_gt hlength)
      · exact h hhead
    simp only [htake, hdrop, hkept]
    rw [if_neg (by simp [hc]), if_neg (by simpa using hzero)]
    split
    · exact absurd rfl (hrest _ rfl).2.1
    · exact absurd rfl (hrest _ rfl).2.2.1
    · exact absurd rfl (hrest _ rfl).2.2.2
    · rfl

/-- A numeral begins with a digit. -/
theorem exists_ofNat_append (n : Nat) (rest : Text) :
    ∃ c more, Text.ofNat n ++ rest = c :: more ∧ c.isDigit = true := by
  obtain ⟨c, more, hcons⟩ : ∃ c more, Text.ofNat n = c :: more :=
    List.exists_cons_of_ne_nil Nat.toDigits_ne_nil
  exact ⟨c, more ++ rest, by rw [hcons, List.cons_append],
    Text.isDigit_of_mem_ofNat (hcons ▸ List.mem_cons_self)⟩

theorem skipBlanks_of_isDigit {c : Char} (hc : c.isDigit = true) (rest : Text) :
    skipBlanks (c :: rest) = c :: rest := by
  have hblank : ∀ b : Char, b.isDigit = false → (c == b) = false := fun b hb =>
    beq_false_of_ne fun h => by simp [h, hb] at hc
  simp [skipBlanks, hblank]

/-- A natural below the limit is read back from its numeral. -/
theorem natural_ofNat {n : Nat} {rest : Text} (hn : n < naturalLimit) (hrest : PastNumber rest) :
    natural (Text.ofNat n ++ rest) = .ok (n, rest) := by
  obtain ⟨c, more, hcons, hc⟩ := exists_ofNat_append n rest
  have hread := number_ofNat hn hrest
  rw [hcons] at hread ⊢
  unfold natural
  rw [skipBlanks_of_isDigit hc]
  split
  · rename_i heq
    rw [(List.cons.inj heq).1] at hc
    exact absurd hc (by decide)
  · rw [if_pos (by simpa using hc), hread]

theorem finishNumber_answer {kept n : Nat} {exponent : Int} {t rest : Text} :
    finishNumber kept exponent t ≠ .ok (some n, rest) := by
  unfold finishNumber
  split <;> simp

theorem withExponent_answer {kept n : Nat} {exponent : Int} {t rest : Text} :
    withExponent kept exponent t ≠ .ok (some n, rest) := by
  unfold withExponent
  split
  · split
    · dsimp only
      split
      · simp
      · exact finishNumber_answer
    · exact finishNumber_answer
  · exact finishNumber_answer

/-- The numbers that are answered are below the limit. -/
theorem number_lt {t rest : Text} {n : Nat} (h : number t = .ok (some n, rest)) :
    n < naturalLimit := by
  unfold number at h
  split at h
  · simp at h
  split at h
  · simp at h
  dsimp only at h
  split at h
  · simp at h
  split at h
  · split at h
    · simp at h
    · exact absurd h withExponent_answer
  · exact absurd h withExponent_answer
  · exact absurd h withExponent_answer
  · split at h
    · simp only [Except.ok.injEq, Prod.mk.injEq, Option.some.injEq] at h
      exact h.1 ▸ keptDigits_lt _ 0 (by decide)
    · exact absurd h finishNumber_answer

theorem natural_lt {t rest : Text} {n : Nat} (h : natural t = .ok (n, rest)) :
    n < naturalLimit := by
  unfold natural at h
  split at h
  · split at h <;> simp at h
  · split at h
    · split at h
      · rename_i hread
        simp only [Except.ok.injEq, Prod.mk.injEq] at h
        exact h.1 ▸ number_lt hread
      · simp at h
      · simp at h
    · simp at h

end Console.Json
