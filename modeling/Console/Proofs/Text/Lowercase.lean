import Console.Text.Basic
import Console.Text.Lowercase
import Mathlib.Data.List.TakeWhile

/-! Lowercasing part by part. Only the form of a capital sigma depends on what stands around it. A
    part whose sigmas are settled within it has one lowercase, wherever it stands; any other part
    has a place where it loses one of the sigmas of its lowercase. ASCII letters are lowercased one
    by one. -/

namespace Console.Text

variable {before after front back t u : Text} {c : Char}

/-! ### Sigma -/

/-- Whether the next character that is not case-ignorable has case, if there is one. -/
def nextCased? (t : Text) : Option Bool := (t.find? fun c => !isCaseIgnorable c).map isCased

@[simp] theorem nextCased?_nil : nextCased? [] = none := rfl

theorem meetsCased_eq (t : Text) : meetsCased t = (nextCased? t).getD false := by
  rw [meetsCased, nextCased?, List.find?_eq_head?_dropWhile_not]
  simp only [Bool.not_not]
  cases t.dropWhile isCaseIgnorable <;> rfl

theorem nextCased?_append (t t' : Text) :
    nextCased? (t ++ t') = (nextCased? t).or (nextCased? t') := by
  rw [nextCased?, List.find?_append, Option.map_or]
  rfl

/-- Whether a capital sigma ends a word, behind a text that is given from its end. -/
def isFinal (before after : Text) : Bool := meetsCased before && !meetsCased after

/-- Whether it is settled between two texts, the first of them given from its end, that a capital
    sigma ends a word or that it does not, whatever stands around the two. -/
def SigmaSettled (before after : Text) : Prop :=
  nextCased? before = some false ∨ nextCased? after = some true ∨
    nextCased? before = some true ∧ nextCased? after = some false

theorem SigmaSettled.isFinal_append (h : SigmaSettled before after) (front back : Text) :
    isFinal (before ++ front) (after ++ back) = isFinal before after := by
  simp only [isFinal, meetsCased_eq, nextCased?_append]
  rcases h with h | h | ⟨h, h'⟩ <;> simp [*]

/-- A sigma that is not settled changes its form for a letter on one side, which turns no sigma into
    one of the form that is lost. -/
theorem exists_isFinal_ne (h : ¬ SigmaSettled before after) {letter : Text}
    (hletter : nextCased? letter = some true) :
    ∃ front back, (front = letter ∧ back = [] ∨ front = [] ∧ back = letter) ∧
      isFinal (before ++ front) (after ++ back) ≠ isFinal before after ∧
      ∀ u v, isFinal (u ++ front) (v ++ back) = isFinal before after →
        isFinal u v = isFinal before after := by
  simp only [SigmaSettled, not_or, not_and] at h
  obtain ⟨hbefore, hafter, hboth⟩ := h
  simp only [isFinal, meetsCased_eq, nextCased?_append]
  match hb : nextCased? before with
  | some false => exact absurd hb hbefore
  -- not final by itself, final behind a letter
  | none =>
    refine ⟨letter, [], .inl ⟨rfl, rfl⟩, ?_, fun u v => ?_⟩
    · match hv : nextCased? after with
      | some true => exact absurd hv hafter
      | some false | none => simp [hletter]
    · match nextCased? u with
      | some true | some false | none => simp
  -- final by itself, not in front of a letter
  | some true =>
    have hv : nextCased? after = none := by
      match hv : nextCased? after with
      | some true => exact absurd hv hafter
      | some false => exact absurd hv (hboth hb)
      | none => rfl
    refine ⟨[], letter, .inr ⟨rfl, rfl⟩, ?_, fun u v => ?_⟩
    · simp [hletter, hv]
    · match nextCased? v with
      | some true | some false | none => simp [hletter, hv]

/-! ### Parts -/

/-- The lowercase of a character between two texts, the first of them given from its end. -/
def lowerBetween (before : Text) (c : Char) (after : Text) : Text :=
  if c = 'Σ' then (if isFinal before after then ['ς'] else ['σ']) else lowerChar c

/-- The lowercase of a text between two others, the first of them given from its end. -/
def lowerWithin (before : Text) : Text → Text → Text
  | [], _ => []
  | c :: t, after => lowerBetween before c (t ++ after) ++ lowerWithin (c :: before) t after

theorem lowerWithin_nil (before after : Text) : lowerWithin before [] after = [] := rfl

theorem lowerAfter_eq (before t : Text) : lowerAfter before t = lowerWithin before t [] := by
  induction t generalizing before with
  | nil => rfl
  | cons c t ih =>
    rw [lowerAfter, ih, lowerWithin, List.append_nil]
    rfl

theorem lowerWithin_append (before t t' after : Text) :
    lowerWithin before (t ++ t') after =
      lowerWithin before t (t' ++ after) ++ lowerWithin (t.reverse ++ before) t' after := by
  induction t generalizing before with
  | nil => rfl
  | cons c t ih =>
    rw [List.cons_append, lowerWithin, ih, lowerWithin, List.append_assoc, List.append_assoc,
      List.reverse_cons, List.append_assoc]
    rfl

/-- The lowercase of a text, around a part of it. -/
theorem lower_append (front part back : Text) :
    lower (front ++ part ++ back) = lowerWithin [] front (part ++ back) ++
      lowerWithin front.reverse part back ++ lowerWithin (front ++ part).reverse back [] := by
  rw [lower, lowerAfter_eq, lowerWithin_append, lowerWithin_append]
  simp only [List.append_nil]

/-- Whether every capital sigma of a text is settled within it. -/
def Settled (t : Text) : Prop :=
  ∀ before after, t = before ++ 'Σ' :: after → SigmaSettled before.reverse after

theorem settled_of_notMem (h : 'Σ' ∉ t) : Settled t := by
  rintro before after rfl
  exact absurd (List.mem_append_right _ List.mem_cons_self) h

/-- The sigmas of a text that are settled behind `u` keep their form. -/
theorem lowerWithin_append_of_settled
    (h : ∀ before after, t = before ++ 'Σ' :: after → SigmaSettled (before.reverse ++ u) after) :
    lowerWithin (u ++ front) t back = lowerWithin u t [] := by
  induction t generalizing u with
  | nil => rfl
  | cons c t ih =>
    have hfirst : lowerBetween (u ++ front) c (t ++ back) = lowerBetween u c (t ++ []) := by
      by_cases hc : c = 'Σ'
      · subst hc
        have hsettled : SigmaSettled u t := h [] t rfl
        rw [lowerBetween, lowerBetween, List.append_nil, hsettled.isFinal_append]
      · rw [lowerBetween, lowerBetween, if_neg hc, if_neg hc]
    have hrest := ih (u := c :: u) fun before after ht => by
      simpa using h (c :: before) after (by rw [ht, List.cons_append])
    rw [lowerWithin, lowerWithin, hfirst]
    exact congrArg _ hrest

/-- A settled part is found in the lowercase of every text around it. -/
theorem Settled.lower_infix (h : Settled t) (ht : t <:+: u) : lower t <:+: lower u := by
  obtain ⟨front, back, rfl⟩ := ht
  have hpart : lowerWithin front.reverse t back = lower t := by
    rw [lower, lowerAfter_eq]
    refine lowerWithin_append_of_settled (u := []) fun before after hsplit => ?_
    rw [List.append_nil]
    exact h before after hsplit
  rw [lower_append, hpart]
  exact ⟨_, _, rfl⟩

/-! ### ASCII -/

/-- In ASCII the lowercase mappings are those of the letters. -/
theorem lowerChar_ofNat : ∀ n < 128, lowerChar (Char.ofNat n) = [(Char.ofNat n).toLower] := by
  decide +kernel

theorem lowerChar_of_lt (h : c.toNat < 128) : lowerChar c = [c.toLower] := by
  have hletter := lowerChar_ofNat c.toNat h
  rwa [Char.ofNat_toNat] at hletter

/-- In ASCII there is no sigma, and each letter is lowercased by itself. -/
theorem lower_of_lt (h : ∀ c ∈ t, c.toNat < 128) : lower t = lowerAscii t := by
  rw [lower]
  generalize ([] : Text) = before
  induction t generalizing before with
  | nil => rfl
  | cons c t ih =>
    rw [List.forall_mem_cons] at h
    have hsigma : c ≠ 'Σ' := by
      rintro rfl
      exact absurd h.1 (by decide)
    rw [lowerAfter, if_neg hsigma, lowerChar_of_lt h.1, ih h.2]
    rfl

/-! ### Parts that are not settled -/

/-- The small sigma that ends a word, and the other one. -/
def smallSigma (final : Bool) : Char := if final then 'ς' else 'σ'

theorem lowerBetween_sigma (before after : Text) :
    lowerBetween before 'Σ' after = [smallSigma (isFinal before after)] := by
  rw [lowerBetween, if_pos rfl, smallSigma]
  split <;> rfl

theorem count_smallSigma (final final' : Bool) :
    [smallSigma final'].count (smallSigma final) = if final' = final then 1 else 0 := by
  cases final <;> cases final' <;> rfl

variable {final : Bool}

/-- Where no sigma gets a form, there are no more sigmas of this form in all. -/
theorem count_lowerWithin_le
    (h : ∀ u v, isFinal (u ++ front) (v ++ back) = final → isFinal u v = final)
    (u t after : Text) :
    (lowerWithin (u ++ front) t (after ++ back)).count (smallSigma final) ≤
      (lowerWithin u t after).count (smallSigma final) := by
  induction t generalizing u with
  | nil => exact Nat.le_refl _
  | cons c t ih =>
    have hfirst : (lowerBetween (u ++ front) c (t ++ (after ++ back))).count (smallSigma final) ≤
        (lowerBetween u c (t ++ after)).count (smallSigma final) := by
      by_cases hc : c = 'Σ'
      · rw [hc, lowerBetween_sigma, lowerBetween_sigma, count_smallSigma, count_smallSigma,
          ← List.append_assoc]
        have hform := h u (t ++ after)
        split <;> split <;> simp_all
      · rw [lowerBetween, lowerBetween, if_neg hc, if_neg hc]
    rw [lowerWithin, lowerWithin, List.count_append, List.count_append]
    exact Nat.add_le_add hfirst (ih (c :: u))

/-- Where a sigma loses its form besides, there are fewer. -/
theorem count_lowerWithin_lt
    (h : ∀ u v, isFinal (u ++ front) (v ++ back) = final → isFinal u v = final)
    (hown : isFinal before.reverse after = final)
    (hlost : isFinal (before.reverse ++ front) (after ++ back) ≠ final) :
    (lowerWithin front (before ++ 'Σ' :: after) back).count (smallSigma final) <
      (lower (before ++ 'Σ' :: after)).count (smallSigma final) := by
  have hbefore : (lowerWithin front before ('Σ' :: after ++ back)).count (smallSigma final) ≤
      (lowerWithin [] before ('Σ' :: after)).count (smallSigma final) :=
    count_lowerWithin_le h [] before _
  have hafter :
      (lowerWithin ('Σ' :: (before.reverse ++ front)) after back).count (smallSigma final) ≤
        (lowerWithin ('Σ' :: before.reverse) after []).count (smallSigma final) :=
    count_lowerWithin_le h ('Σ' :: before.reverse) after []
  rw [lower, lowerAfter_eq, lowerWithin_append, lowerWithin_append, lowerWithin, lowerWithin]
  simp only [List.count_append, List.append_nil, lowerBetween_sigma, count_smallSigma, if_pos hown,
    if_neg hlost]
  omega

theorem lowerWithin_letter (before after : Text) : lowerWithin before ['a'] after = ['a'] := by
  rw [lowerWithin, lowerBetween, if_neg (by decide), lowerChar_of_lt (by decide)]
  rfl

/-- A part that is not settled is missed in the lowercase of some text around it. -/
theorem exists_not_lower_infix (h : ¬ Settled t) : ∃ u, t <:+: u ∧ ¬ lower t <:+: lower u := by
  simp only [Settled, not_forall] at h
  obtain ⟨before, after, rfl, hsigma⟩ := h
  have ha : nextCased? ['a'] = some true := by decide +kernel
  obtain ⟨front, back, hletter, hlost, hkeep⟩ := exists_isFinal_ne hsigma ha
  refine ⟨front.reverse ++ (before ++ 'Σ' :: after) ++ back, ⟨_, _, rfl⟩, fun hinfix => ?_⟩
  have hlt := count_lowerWithin_lt hkeep rfl hlost
  have hle := hinfix.count_le (smallSigma (isFinal before.reverse after))
  have hform : ['a'].count (smallSigma (isFinal before.reverse after)) = 0 := by
    cases isFinal before.reverse after <;> rfl
  rw [lower_append, List.reverse_reverse, List.count_append, List.count_append] at hle
  rcases hletter with ⟨rfl, rfl⟩ | ⟨rfl, rfl⟩
  all_goals
    simp only [List.reverse_singleton, List.reverse_nil, lowerWithin_letter, hform, lowerWithin_nil,
      List.count_nil] at hle
    omega

end Console.Text
