import Console.Command
import Console.Proofs.Text.Numeral
import Mathlib.Data.List.Basic

/-! Which expressions are special commands. A command has one spelling, but for the leading zeros of
    its size. The digits of a size may be of any script for the pattern, but they are read one by
    one as ASCII digits and refused as soon as they are too large; together this accepts exactly the
    ASCII digits of a value that 64 bits hold, however many there are. -/

namespace Console.Command

/-! ### Sizes -/

/-- Digits are added to a size exactly if all are ASCII and the value still fits. A size that has
    become too large stays too large. -/
theorem foldlM_addDigit?_eq_some_iff {digits : Text} {size n : Nat} (hsize : size < sizeLimit) :
    digits.foldlM addDigit? size = some n ↔
      (∀ c ∈ digits, c.isDigit = true) ∧ Nat.ofDigitChars 10 digits size = n ∧ n < sizeLimit := by
  induction digits generalizing size with
  | nil =>
    rw [List.foldlM_nil, Nat.ofDigitChars_nil]
    constructor
    · intro h
      obtain rfl := Option.some.inj h
      exact ⟨List.forall_mem_nil _, rfl, hsize⟩
    · rintro ⟨-, rfl, -⟩
      rfl
  | cons c digits ih =>
    rw [List.foldlM_cons, List.forall_mem_cons, Nat.ofDigitChars_cons, Nat.mul_comm]
    change (addDigit? size c).bind _ = _ ↔ _
    by_cases hc : c.isDigit = true
    · by_cases hgrown : size * 10 + (c.toNat - '0'.toNat) < sizeLimit
      · have hadd : addDigit? size c = some (size * 10 + (c.toNat - '0'.toNat)) :=
          (if_pos hc).trans (if_pos hgrown)
        rw [hadd, Option.bind_some, ih hgrown, and_iff_right hc]
      · have hadd : addDigit? size c = none := (if_pos hc).trans (if_neg hgrown)
        rw [hadd, Option.bind_none]
        refine ⟨nofun, ?_⟩
        rintro ⟨-, rfl, hlt⟩
        exact absurd (Nat.lt_of_le_of_lt (Text.le_ofDigitChars digits _) hlt) hgrown
    · have hadd : addDigit? size c = none := if_neg hc
      rw [hadd, Option.bind_none]
      exact ⟨nofun, fun h => absurd h.1.1 hc⟩

/-- Behind a pattern of digits a size is not signed. -/
theorem size?_eq_some_iff {numeral : Text} {n : Nat} (h : ∀ c ∈ numeral, isDecimalDigit c = true) :
    size? numeral = some n ↔ numeral ≠ [] ∧ (∀ c ∈ numeral, c.isDigit = true) ∧
      Nat.ofDigitChars 10 numeral 0 = n ∧ n < sizeLimit := by
  unfold size?
  split
  · exact absurd (h '+' List.mem_cons_self) (by decide)
  · cases numeral with
    | nil => simp
    | cons c rest =>
      rw [if_neg (by simp), foldlM_addDigit?_eq_some_iff (by decide)]
      exact (and_iff_right (List.cons_ne_nil _ _)).symm

theorem lt_sizeLimit_iff {n : Nat} : n < sizeLimit ↔ n ≤ twoTo 64 - 1 := by
  change n < 18446744073709551616 ↔ n ≤ 18446744073709551616 - 1
  omega

/-! ### Spellings -/

/-- How a command may be typed: the fixed words as they are, and behind the word of a size one space
    and ASCII digits, of which the first may be zeros, with a value of at most 64 bits. -/
inductive Spelling : Command → Text → Prop
  | clear : Spelling .clear "clear".toList
  | reset : Spelling .reset "reset".toList
  | help : Spelling .help "help".toList
  | showBufferSize : Spelling .showBufferSize "buffer".toList
  | setBufferSize (digits : Text) (hne : digits ≠ []) (hdigits : ∀ c ∈ digits, c.isDigit = true)
      (hfits : Nat.ofDigitChars 10 digits 0 ≤ twoTo 64 - 1) :
      Spelling (.setBufferSize (Nat.ofDigitChars 10 digits 0)) ("buffer ".toList ++ digits)

/-- Sizes are 64-bit. -/
def Fits : Command → Prop
  | .setBufferSize size => size ≤ twoTo 64 - 1
  | _ => True

/-- The command as it may be typed, with zeros in front of its size. -/
def renderWithZeros (zeros : Nat) : Command → Text
  | .setBufferSize size => "buffer ".toList ++ List.replicate zeros '0' ++ Text.ofNat size
  | c => c.render

/-- What is recognised behind the word of a size is a spelling. -/
theorem spelling_of_size? {expression numeral : Text} {n : Nat}
    (hnumeral : sizeNumeral? expression = some numeral) (hn : size? numeral = some n) :
    Spelling (.setBufferSize n) expression := by
  rw [sizeNumeral?, Option.filter_eq_some_iff, Bool.and_eq_true, List.all_eq_true] at hnumeral
  obtain ⟨hlead, -, hdecimal⟩ := hnumeral
  obtain ⟨hne, hdigits, rfl, hfits⟩ := (size?_eq_some_iff hdecimal).1 hn
  rw [← List.isPrefixOf?_eq_some_iff_append_eq.1 hlead]
  exact .setBufferSize numeral hne hdigits (lt_sizeLimit_iff.1 hfits)

/-- The word of a size with something behind it is none of the fixed words. -/
theorem parse?_sizeLead_append (digits : Text) : parse? (sizeLead ++ digits) =
    (sizeNumeral? (sizeLead ++ digits)).bind fun numeral => (size? numeral).map .setBufferSize := by
  have hother {word : Text} (hword : ¬ sizeLead <+: word) : sizeLead ++ digits ≠ word :=
    fun h => hword ⟨digits, h⟩
  unfold parse?
  rw [if_neg (hother (by decide)), if_neg (hother (by decide)), if_neg (hother (by decide)),
    if_neg (hother (by decide))]

/-- Exactly the spellings are recognised. -/
theorem parse?_eq_some_iff {expression : Text} {c : Command} :
    parse? expression = some c ↔ Spelling c expression := by
  constructor
  · intro h
    unfold parse? at h
    split_ifs at h with hclear hreset hhelp hbuffer
    · obtain rfl := Option.some.inj h
      exact hclear ▸ .clear
    · obtain rfl := Option.some.inj h
      exact hreset ▸ .reset
    · obtain rfl := Option.some.inj h
      exact hhelp ▸ .help
    · obtain rfl := Option.some.inj h
      exact hbuffer ▸ .showBufferSize
    · obtain ⟨numeral, hnumeral, h⟩ := Option.bind_eq_some_iff.1 h
      obtain ⟨n, hn, rfl⟩ := Option.map_eq_some_iff.1 h
      exact spelling_of_size? hnumeral hn
  · intro h
    cases h with
    | clear => rfl
    | reset => rfl
    | help => rfl
    | showBufferSize => rfl
    | setBufferSize digits hne hdigits hfits =>
      have hdecimal : ∀ c ∈ digits, isDecimalDigit c = true := fun c hc =>
        isDecimalDigit_of_isDigit (hdigits c hc)
      have hnumeral : sizeNumeral? (sizeLead ++ digits) = some digits := by
        rw [sizeNumeral?, Option.filter_eq_some_iff, List.isPrefixOf?_eq_some_iff_append_eq]
        exact ⟨rfl, by simpa [hne] using hdecimal⟩
      have hn : size? digits = some (Nat.ofDigitChars 10 digits 0) :=
        (size?_eq_some_iff hdecimal).2 ⟨hne, hdigits, rfl, lt_sizeLimit_iff.2 hfits⟩
      change parse? (sizeLead ++ digits) = _
      rw [parse?_sizeLead_append, hnumeral, Option.bind_some, hn]
      rfl

/-- The size that a command sets is one of 64 bits. -/
theorem size_lt_of_parse? {expression : Text} {size : Nat}
    (h : parse? expression = some (.setBufferSize size)) : size < Word.limit := by
  cases parse?_eq_some_iff.1 h with
  | setBufferSize digits _ _ hfits => exact lt_sizeLimit_iff.2 hfits

theorem parse?_eq_clear_iff {expression : Text} :
    parse? expression = some .clear ↔ expression = "clear".toList := by
  rw [parse?_eq_some_iff]
  exact ⟨fun h => by cases h; rfl, fun h => h ▸ .clear⟩

theorem parse?_eq_reset_iff {expression : Text} :
    parse? expression = some .reset ↔ expression = "reset".toList := by
  rw [parse?_eq_some_iff]
  exact ⟨fun h => by cases h; rfl, fun h => h ▸ .reset⟩

/-- The text of a command is a spelling of it. -/
theorem spelling_render {c : Command} (h : c.Fits) : Spelling c c.render := by
  cases c with
  | clear => exact .clear
  | reset => exact .reset
  | help => exact .help
  | showBufferSize => exact .showBufferSize
  | setBufferSize size =>
    have hvalue : Nat.ofDigitChars 10 (Text.ofNat size) 0 = size := Nat.ofDigitChars_ten_toDigits
    have hdigits : ∀ c ∈ Text.ofNat size, c.isDigit = true := fun c hc =>
      Text.isDigit_of_mem_ofNat hc
    have hspelling := Spelling.setBufferSize (Text.ofNat size) Nat.toDigits_ne_nil hdigits
      (by rw [hvalue]; exact h)
    rwa [hvalue] at hspelling

/-- A spelling is the text of its command up to leading zeros. -/
theorem Spelling.eq_renderWithZeros {c : Command} {s : Text} (h : Spelling c s) :
    c.Fits ∧ ∃ zeros, s = c.renderWithZeros zeros := by
  cases h with
  | setBufferSize digits hne hdigits hfits =>
    obtain ⟨zeros, hzeros⟩ := Text.exists_leading_zeros hne hdigits
    refine ⟨hfits, zeros, ?_⟩
    exact (congrArg ("buffer ".toList ++ ·) hzeros).trans (List.append_assoc _ _ _).symm
  | _ => exact ⟨trivial, 0, rfl⟩

/-- Recognition is exact. A text is recognised as a command exactly if it is one of its spellings,
    and as none exactly if it is no spelling at all. The text of a command is recognised as that
    command, and what is recognised is the text of its command up to leading zeros of a size. -/
theorem recognition_exact (s : Text) :
    (∀ c, parse? s = some c ↔ Spelling c s) ∧ (parse? s = none ↔ ∀ c, ¬ Spelling c s) ∧
      (∀ c : Command, c.Fits → parse? c.render = some c) ∧
      ∀ c, parse? s = some c → c.Fits ∧ ∃ zeros, s = c.renderWithZeros zeros := by
  refine ⟨fun c => parse?_eq_some_iff, ?_, fun c h => ?_, fun c h => ?_⟩
  · rw [Option.eq_none_iff_forall_ne_some]
    exact forall_congr' fun c => not_congr parse?_eq_some_iff
  · exact parse?_eq_some_iff.2 (spelling_render h)
  · exact (parse?_eq_some_iff.1 h).eq_renderWithZeros

/-- The largest size is recognised behind two zeros, and one more is not. -/
theorem recognition_exact_of_largest :
    parse? "buffer 0018446744073709551615".toList = some (.setBufferSize (twoTo 64 - 1)) ∧
      Spelling (.setBufferSize (twoTo 64 - 1)) "buffer 0018446744073709551615".toList ∧
      parse? (Command.setBufferSize (twoTo 64 - 1)).render = some (.setBufferSize (twoTo 64 - 1)) ∧
      (∀ c, ¬ Spelling c "buffer 18446744073709551616".toList) := by
  have hparse : parse? "buffer 0018446744073709551615".toList =
      some (.setBufferSize (twoTo 64 - 1)) := by decide
  obtain ⟨hspelling, -, hrender, -⟩ := recognition_exact "buffer 0018446744073709551615".toList
  obtain ⟨-, hnone, -⟩ := recognition_exact "buffer 18446744073709551616".toList
  exact ⟨hparse, (hspelling _).1 hparse, hrender _ (Nat.le_refl _), hnone.1 (by decide)⟩

end Console.Command
