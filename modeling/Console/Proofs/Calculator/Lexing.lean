import Console.Proofs.Calculator.Integers
import Console.Proofs.Except
import Console.Proofs.Text.Numeral
import Mathlib.Data.List.TakeWhile

/-! Reading tokens off a text. A character that makes a token by itself is neither blank nor part
    of a literal, and no character of a literal is blank, so each kind of token is read by its own
    rule. A literal without a dot is the value of its digits if that fits, and every number that is
    read is that of a literal in the text. -/

namespace Console.Calculator

/-- No character of a literal is blank. -/
theorem isBlank_of_isLiteralChar {c : Char} (h : isLiteralChar c = true) : isBlank c = false := by
  rw [isLiteralChar, Bool.or_eq_true, beq_iff_eq] at h
  obtain h | rfl := h
  · exact Text.isBlank_of_isDigit h
  · decide

/-- A character that makes a token by itself is neither blank nor part of a literal. -/
theorem ofChar?_spec {c : Char} {t : Token} (h : Token.ofChar? c = some t) :
    isBlank c = false ∧ isLiteralChar c = false := by
  unfold Token.ofChar? at h
  split at h
  all_goals first
    | decide
    | cases h

@[simp] theorem tokenize_nil : tokenize [] = .ok [] := by
  rw [tokenize]

theorem tokenize_blank {c : Char} (hc : isBlank c = true) (rest : Text) :
    tokenize (c :: rest) = tokenize rest := by
  rw [tokenize, if_pos hc]

theorem tokenize_symbol {c : Char} {t : Token} (h : Token.ofChar? c = some t) (rest : Text) :
    tokenize (c :: rest) = (tokenize rest).map (t :: ·) := by
  obtain ⟨hblank, hliteral⟩ := ofChar?_spec h
  rw [tokenize, hblank, hliteral, h]
  rfl

/-- A character that makes no token is the fault. -/
theorem tokenize_of_ofChar?_none {c : Char} (hblank : ¬ isBlank c = true)
    (hliteral : ¬ isLiteralChar c = true) (h : Token.ofChar? c = none) (rest : Text) :
    tokenize (c :: rest) = .error (.unexpectedToken [c]) := by
  rw [tokenize, if_neg hblank, if_neg hliteral, h]

/-- A literal is a longest run of digits and dots. -/
theorem tokenize_run {c : Char} (hc : isLiteralChar c = true) (rest : Text) :
    tokenize (c :: rest) =
      match Number.ofLiteral? (c :: rest.takeWhile isLiteralChar) with
      | none => .error (.invalidNumber (c :: rest.takeWhile isLiteralChar))
      | some n => (tokenize (rest.dropWhile isLiteralChar)).map (.number n :: ·) := by
  rw [tokenize, isBlank_of_isLiteralChar hc, hc]
  rfl

theorem tokenize_literal (c : Char) (rest : Text) {n : Number} (hc : isLiteralChar c = true)
    (h : Number.ofLiteral? (c :: rest.takeWhile isLiteralChar) = some n) :
    tokenize (c :: rest) =
      (tokenize (rest.dropWhile isLiteralChar)).map (.number n :: ·) := by
  rw [tokenize_run hc, h]

theorem fit?_of_lt {n : Int} (h : 0 ≤ n) (hlt : n < Word.half) : fit? n = some (Int64.ofInt n) :=
  if_pos ⟨by rw [Word.half]; omega, hlt⟩

/-- A literal without a dot is an integer. -/
theorem ofLiteral?_whole {literal : Text} (h : ∀ c ∈ literal, c ≠ '.') :
    Number.ofLiteral? literal =
      (Text.toNat? literal).bind fun n => (fit? n).map Number.int := by
  have htake : literal.takeWhile (· != '.') = literal :=
    List.takeWhile_eq_self_iff.2 fun c hc => bne_iff_ne.2 (h c hc)
  have hdrop : literal.dropWhile (· != '.') = [] :=
    List.dropWhile_eq_nil_iff.2 fun c hc => bne_iff_ne.2 (h c hc)
  rw [Number.ofLiteral?, htake, hdrop]

theorem ofLiteral?_of_value {literal : Text} (h : ∀ c ∈ literal, c ≠ '.') {n : Nat}
    (hvalue : Text.toNat? literal = some n) (hlt : (n : Int) < Word.half) :
    Number.ofLiteral? literal = some (.int (Int64.ofInt n)) := by
  rw [ofLiteral?_whole h, hvalue, Option.bind_some, fit?_of_lt (Int.natCast_nonneg n) hlt]
  rfl

/-- An integer literal has digits only, and it is their value. -/
theorem toNat?_of_ofLiteral?_int {literal : Text} {n : Int64}
    (h : Number.ofLiteral? literal = some (.int n)) :
    ∃ k, Text.toNat? literal = some k ∧ n.toInt = k := by
  by_cases hdot : ∀ c ∈ literal, c ≠ '.'
  · rw [ofLiteral?_whole hdot] at h
    obtain ⟨k, hk, h⟩ := Option.bind_eq_some_iff.1 h
    obtain ⟨r, hr, hn⟩ := Option.map_eq_some_iff.1 h
    obtain rfl := Number.int.inj hn
    exact ⟨k, hk, fit?_eq_some_iff.1 hr⟩
  -- with a dot the number is a double
  · unfold Number.ofLiteral? at h
    split at h
    · rename_i hdrop
      exact absurd (fun c hc => bne_iff_ne.1 (List.dropWhile_eq_nil_iff.1 hdrop c hc)) hdot
    · obtain ⟨k, -, hk⟩ := Option.map_eq_some_iff.1 h
      exact nomatch hk

/-- No character makes a number by itself. -/
theorem ofChar?_ne_number {c : Char} {n : Number} : Token.ofChar? c ≠ some (.number n) := by
  unfold Token.ofChar?
  split <;> exact nofun

/-- The numbers among the tokens are those of literals in the text. -/
theorem exists_literal_of_mem_tokenize {t : Text} {n : Number} :
    ∀ {ts : List Token}, tokenize t = .ok ts → .number n ∈ ts →
      ∃ literal, literal <:+: t ∧ Number.ofLiteral? literal = some n := by
  fun_induction tokenize t with
  | case1 =>
    intro ts h hn
    obtain rfl := Except.ok.inj h
    exact absurd hn List.not_mem_nil
  | case2 c rest _ ih =>
    intro ts h hn
    obtain ⟨literal, hwithin, hliteral⟩ := ih h hn
    exact ⟨literal, hwithin.trans (List.suffix_cons _ _).isInfix, hliteral⟩
  | case3 => exact fun h => nomatch h
  | case4 c rest _ _ literal number hnumber =>
    rename_i ih
    intro ts h hn
    obtain ⟨ts, hts, rfl⟩ := map_ok h
    obtain heq | hn := List.mem_cons.1 hn
    · obtain rfl := Token.number.inj heq
      exact ⟨literal, (List.prefix_cons_inj c |>.2 (List.takeWhile_prefix _)).isInfix, hnumber⟩
    · obtain ⟨literal, hwithin, hliteral⟩ := ih hts hn
      refine ⟨literal, hwithin.trans ?_, hliteral⟩
      exact (List.dropWhile_suffix _).isInfix.trans (List.suffix_cons _ _).isInfix
  | case5 => exact fun h => nomatch h
  | case6 c rest _ _ token htoken ih =>
    intro ts h hn
    obtain ⟨ts, hts, rfl⟩ := map_ok h
    obtain rfl | hn := List.mem_cons.1 hn
    · exact absurd htoken ofChar?_ne_number
    · obtain ⟨literal, hwithin, hliteral⟩ := ih hts hn
      exact ⟨literal, hwithin.trans (List.suffix_cons _ _).isInfix, hliteral⟩

end Console.Calculator
