import Console.Proofs.Text.Parts
import Console.Toml.Printer
import Console.Toml.Scalar
import Mathlib.Data.List.Basic

/-! TOML strings read back. Whatever characters a text is made of, it is read back from the form in
    which it is written, and what stands behind it is left over. In one line each character is read
    from what was written for it. In several lines quotes are held back until it is known whether
    they end the string, so the lemmas count the quotes that were read last. -/

namespace Console.Toml

/-! ### Characters -/

theorem toNat_lt_of_isControl {c : Char} (h : isControl c = true) : c.toNat < 128 := by
  simp only [isControl, Bool.or_eq_true, Bool.and_eq_true, decide_eq_true_eq, beq_iff_eq] at h
  obtain ⟨⟨hlt, -⟩, -⟩ | rfl := h
  · exact Nat.lt_trans (show c.toNat < 32 from hlt) (by decide)
  · decide

theorem isPlain_of_isControl {c : Char} (h : isControl c = false) (hnewline : c ≠ '\n') :
    isPlain c = true := by
  simp only [isControl, isPlain, Bool.or_eq_false_iff, Bool.and_eq_false_iff, Bool.or_eq_true,
    Bool.and_eq_true, decide_eq_false_iff_not, decide_eq_true_eq, bne_iff_ne, bne_eq_false_iff_eq,
    beq_iff_eq, beq_eq_false_iff_ne, ne_eq] at h ⊢
  obtain ⟨(hle | rfl) | heq, hdelete⟩ := h
  · exact .inr ⟨Char.not_lt.1 hle, hdelete⟩
  · exact .inl rfl
  · exact absurd heq hnewline

/-- The code of an ASCII character has four digits, which give the character again. -/
theorem unicodeEscape_ascii : ∀ n < 128, (unicodeEscape n).length = 6 ∧
    (unicodeEscape n).take 2 = ['\\', 'u'] ∧
    hexChar? ((unicodeEscape n).drop 2) = some (Char.ofNat n) := by decide

theorem exists_unicodeEscape {n : Nat} (h : n < 128) : ∃ d₁ d₂ d₃ d₄,
    unicodeEscape n = ['\\', 'u', d₁, d₂, d₃, d₄] ∧
    hexChar? [d₁, d₂, d₃, d₄] = some (Char.ofNat n) := by
  obtain ⟨hlength, hlead, hdigits⟩ := unicodeEscape_ascii n h
  have hfour : ((unicodeEscape n).drop 2).length = 4 := by rw [List.length_drop, hlength]
  obtain ⟨d₁, d₂, d₃, d₄, hdrop⟩ := List.length_eq_four.1 hfour
  refine ⟨d₁, d₂, d₃, d₄, ?_, hdrop ▸ hdigits⟩
  rw [← List.take_append_drop 2 (unicodeEscape n), hlead, hdrop]
  rfl

/-- The ways in which a character can be written between double quotes. -/
inductive Written (raw : Char → Bool) (c : Char) : Text → Prop where
  | raw (h : raw c = true) : Written raw c [c]
  | plain (hplain : isPlain c = true) (hquote : c ≠ '"') (hback : c ≠ '\\') : Written raw c [c]
  | letter (e : Char) (h : escape? e = some c) : Written raw c ['\\', e]
  | code (d₁ d₂ d₃ d₄ : Char) (h : hexChar? [d₁, d₂, d₃, d₄] = some c) :
    Written raw c ['\\', 'u', d₁, d₂, d₃, d₄]

theorem written_escapeChar (raw : Char → Bool) (c : Char) : Written raw c (escapeChar raw c) := by
  unfold escapeChar
  split_ifs with hraw _ _ hnewline _ _ hquote hback hcontrol
  · exact .raw hraw
  -- the seven characters with a letter of their own
  iterate 7
    · subst c
      exact .letter _ rfl
  · obtain ⟨d₁, d₂, d₃, d₄, hwritten, hdigits⟩ :=
      exists_unicodeEscape (toNat_lt_of_isControl hcontrol)
    rw [hwritten]
    exact .code d₁ d₂ d₃ d₄ (Char.ofNat_toNat c ▸ hdigits)
  · rw [Bool.not_eq_true] at hcontrol
    exact .plain (isPlain_of_isControl hcontrol hnewline) hquote hback

/-! ### Strings in one line -/

theorem basicBody_written {c : Char} {w : Text} (h : Written (fun _ => false) c w) (rest : Text) :
    basicBody (w ++ rest) = withChar c (basicBody rest) := by
  cases h with
  | raw h => exact nomatch h
  | plain hplain hquote hback =>
    rw [List.singleton_append, basicBody]
    · simp [hplain, hback]
    all_goals exact fun _ => by simp_all
  | letter e h =>
    change basicBody ('\\' :: e :: rest) = _
    rw [basicBody, h]
    · rfl
    · rintro _ _ _ _ _ rfl
      exact nomatch h
    · rintro _ _ _ _ _ _ _ _ _ rfl
      exact nomatch h
  | code d₁ d₂ d₃ d₄ h =>
    change basicBody ('\\' :: 'u' :: d₁ :: d₂ :: d₃ :: d₄ :: rest) = _
    rw [basicBody, h]
    rfl

/-- A text is read back from its line between double quotes. -/
theorem basicBody_escapeLine (t rest : Text) :
    basicBody (escapeLine t ++ '"' :: rest) = some (t, rest) := by
  induction t with
  | nil => rfl
  | cons c t ih =>
    rw [escapeLine, List.flatMap_cons, List.append_assoc,
      basicBody_written (written_escapeChar _ c), ← escapeLine, ih]
    rfl

/-- A text that can stand as it is is read back between single quotes. -/
theorem literalBody_append {t : Text} (h : ∀ c ∈ t, isPlain c = true ∧ c ≠ '\'') (rest : Text) :
    literalBody (t ++ '\'' :: rest) = some (t, rest) := by
  induction t with
  | nil => rfl
  | cons c t ih =>
    obtain ⟨hplain, hquote⟩ := h c List.mem_cons_self
    rw [List.cons_append, literalBody, if_pos hplain,
      ih fun d hd => h d (List.mem_cons_of_mem _ hd)]
    · rfl
    · exact hquote

/-! ### Strings of several lines -/

/-- Puts quotes that were held back before the rest of a string. -/
def withMarks (quote : Char) (marks : Nat) (r : Option (Text × Text)) : Option (Text × Text) :=
  r.map fun (s, rest) => (List.replicate marks quote ++ s, rest)

section

variable {quote c : Char} {escapes : Bool} {marks : Nat} {rest : Text}

/-- A quote is held back. -/
theorem multiBody_quote (h : marks < 5) (rest : Text) : multiBody quote escapes .none marks
    (quote :: rest) = multiBody quote escapes .none (marks + 1) rest := by
  rw [multiBody.eq_def]
  simp [h]

/-- Three quotes end a string, and those that were held back before them belong to it. -/
theorem multiBody_end (h : marks < 3) (hrest : rest.head? ≠ some quote) :
    multiBody quote escapes .none marks (quote :: quote :: quote :: rest) =
      some (List.replicate marks quote, rest) := by
  rw [multiBody_quote (by omega), multiBody_quote (by omega), multiBody_quote (by omega),
    multiBody.eq_def]
  cases rest with
  | nil => simp
  | cons c rest =>
    have hc : c ≠ quote := fun h => hrest (congrArg some h)
    simp [hc]

/-- A character that ends no string puts the quotes before it into the string. -/
theorem multiBody_plain (h : marks < 3) (hquote : c ≠ quote)
    (hback : c = '\\' → escapes = false) (hreturn : c ≠ '\r')
    (hplain : c = '\n' ∨ isPlain c = true) (rest : Text) :
    multiBody quote escapes .none marks (c :: rest) =
      withMarks quote marks (withChar c (multiBody quote escapes .none 0 rest)) := by
  have hescape : (c = '\\' && escapes) = false := by
    by_cases hc : c = '\\'
    · rw [hback hc, Bool.and_false]
    · simp [hc]
  rw [multiBody.eq_def]
  simp [hquote, hplain, hreturn, hescape, Nat.not_le.2 h, withMarks]

theorem multiBody_written {w : Text} (h : marks < 3) (hw : Written (· == '\n') c w) (rest : Text) :
    multiBody '"' true .none marks (w ++ rest) =
      withMarks '"' marks (withChar c (multiBody '"' true .none 0 rest)) := by
  cases hw with
  | raw hraw =>
    obtain rfl := beq_iff_eq.1 hraw
    exact multiBody_plain h (by decide) (by decide) (by decide) (.inl rfl) rest
  | plain hplain hquote hback =>
    exact multiBody_plain h hquote (fun hc => absurd hc hback) (by rintro rfl; exact nomatch hplain)
      (.inr hplain) rest
  | letter e he =>
    -- the letters of the codes stand for no character themselves
    have hcode : e ≠ 'u' ∧ e ≠ 'U' := by
      constructor <;> rintro rfl <;> exact nomatch he
    change multiBody '"' true .none marks ('\\' :: e :: rest) = _
    rw [multiBody.eq_def]
    simp only [Bool.false_eq_true, if_false, Char.reduceEq, Nat.not_le.2 h, decide_true,
      Bool.and_self, if_true]
    split <;> simp_all [withMarks]
  | code d₁ d₂ d₃ d₄ hdigits =>
    change multiBody '"' true .none marks ('\\' :: 'u' :: d₁ :: d₂ :: d₃ :: d₄ :: rest) = _
    rw [multiBody.eq_def]
    simp [Nat.not_le.2 h, hdigits, withMarks]

/-- A text is read back from its lines between double quotes. -/
theorem multiBody_escapeLines (h : marks < 3) (t : Text) (hrest : rest.head? ≠ some '"') :
    multiBody '"' true .none marks (escapeLines marks t ++ '"' :: '"' :: '"' :: rest) =
      some (List.replicate marks '"' ++ t, rest) := by
  -- the writer counts the quotes that the reader holds back
  fun_induction escapeLines marks t with
  | case1 marks =>
    rw [List.append_nil]
    exact multiBody_end h hrest
  | case2 marks t hmarks ih =>
    rw [List.cons_append, multiBody_quote (by omega), ih (by omega), List.replicate_succ',
      List.append_assoc]
    rfl
  | case3 marks t hmarks ih =>
    have hw : Written (· == '\n') '"' ['\\', '"'] := .letter '"' rfl
    have hstep := multiBody_written h hw (escapeLines 0 t ++ '"' :: '"' :: '"' :: rest)
    rw [ih (by decide)] at hstep
    exact hstep
  | case4 marks c t hquote ih =>
    rw [List.append_assoc, multiBody_written h (written_escapeChar _ c), ih (by decide)]
    rfl

/-- A text without three quotes in a row is read back from its lines between single quotes. -/
theorem multiBody_literal {t : Text} (h : marks < 3)
    (hplain : ∀ c ∈ t, isControl c = false)
    (htriple : ¬ List.replicate 3 quote <:+: List.replicate marks quote ++ t)
    (hrest : rest.head? ≠ some quote) :
    multiBody quote false .none marks (t ++ quote :: quote :: quote :: rest) =
      some (List.replicate marks quote ++ t, rest) := by
  induction t generalizing marks with
  | nil =>
    rw [List.append_nil]
    exact multiBody_end h hrest
  | cons c t ih =>
    rw [List.forall_mem_cons] at hplain
    rw [List.cons_append]
    by_cases hc : c = quote
    · -- a quote of the text is one more to be held back
      subst hc
      have hshift : List.replicate marks c ++ c :: t = List.replicate (marks + 1) c ++ t := by
        rw [List.replicate_succ', List.append_assoc]
        rfl
      rw [hshift] at htriple ⊢
      have hmarks : marks + 1 ≠ 3 := fun heq =>
        htriple (heq ▸ (List.prefix_append _ _).isInfix)
      rw [multiBody_quote (by omega)]
      exact ih (by omega) hplain.2 htriple
    · have hcontrol : c = '\n' ∨ isPlain c = true := by
        by_cases hnewline : c = '\n'
        · exact .inl hnewline
        · exact .inr (isPlain_of_isControl hplain.1 hnewline)
      have htriple' : ¬ List.replicate 3 quote <:+: List.replicate 0 quote ++ t := fun htail =>
        htriple (htail.trans ((List.suffix_cons c t).isInfix.trans
          (List.suffix_append _ _).isInfix))
      rw [multiBody_plain h hc (fun _ => rfl) (by rintro rfl; exact nomatch hplain.1) hcontrol,
        ih (by decide) hplain.2 htriple']
      rfl

end

/-! ### Forms -/

theorem string_basic {t : Text} (h : ∀ more, t ≠ '"' :: '"' :: more) :
    string ('"' :: t) = basicBody t := by
  rw [string]
  exact h

theorem string_literal {t : Text} (h : ∀ more, t ≠ '\'' :: '\'' :: more) :
    string ('\'' :: t) = literalBody t := by
  rw [string]
  exact h

theorem newline?_eq_none {t : Text} (h : ∀ c ∈ t.head?, isPlain c = true) :
    newline? t = none := by
  unfold newline?
  split
  · exact nomatch h '\n' rfl
  · exact nomatch h '\r' rfl
  · rfl

/-- The newline behind three opening quotes is dropped, and nothing else is. -/
theorem newline?_leadIn {t body : Text} (h : '\n' ∉ t → newline? body = none) :
    (newline? (leadIn t ++ body)).getD (leadIn t ++ body) = body := by
  unfold leadIn
  split
  · rfl
  · rename_i hnewline
    rw [List.nil_append, h (by simpa using hnewline)]
    rfl

theorem head?_written {raw : Char → Bool} {c : Char} {w : Text} (h : Written raw c w)
    (hraw : raw c = false) (rest : Text) :
    ∀ d ∈ (w ++ rest).head?, isPlain d = true ∧ d ≠ '"' := by
  intro d hd
  cases h with
  | raw h => exact nomatch hraw.symm.trans h
  | plain hplain hquote _ =>
    obtain rfl : c = d := Option.some.inj hd
    exact ⟨hplain, hquote⟩
  | letter | code =>
    obtain rfl : '\\' = d := Option.some.inj hd
    decide

/-- What is written for a text without newlines begins with none. -/
theorem head?_escapeLines {t : Text} (h : '\n' ∉ t) (rest : Text) :
    ∀ c ∈ (escapeLines 0 t ++ '"' :: rest).head?, isPlain c = true := by
  have hquote : ∀ c ∈ some '"', isPlain c = true := by
    intro c hc
    obtain rfl : '"' = c := Option.some.inj hc
    decide
  fun_cases escapeLines 0 t with
  | case1 => exact hquote
  | case2 => exact hquote
  | case3 _ hmarks => exact absurd (by decide) hmarks
  | case4 c t =>
    rw [List.append_assoc]
    have hraw : (c == '\n') = false := beq_false_of_ne fun hc => h (hc ▸ List.mem_cons_self)
    exact fun d hd => (head?_written (written_escapeChar _ c) hraw _ d hd).1

/-- The forms in which everything can be written, by escapes. -/
def Form.escapes : Form → Bool
  | .basic | .basicLines => true
  | .literal | .literalLines => false

/-- A text is read back from each form that can hold it, and from the forms with escapes. -/
theorem string_write {t rest : Text} {f : Form} (h : f.escapes = true ∨ f.holds t = true)
    (hdouble : rest.head? ≠ some '"') (hsingle : rest.head? ≠ some '\'') :
    string (f.write t ++ rest) = some (t, rest) := by
  cases f with
  | basic =>
    have hrest : '"' :: escapeLine t ++ ['"'] ++ rest = '"' :: (escapeLine t ++ '"' :: rest) := by
      simp
    rw [Form.write, hrest, string_basic ?_, basicBody_escapeLine]
    intro more heq
    cases t with
    | nil => exact hdouble (congrArg List.head? (List.cons.inj heq).2)
    | cons c t =>
      rw [escapeLine, List.flatMap_cons, List.append_assoc] at heq
      have hhead := head?_written (written_escapeChar (fun _ => false) c) rfl
        (t.flatMap (escapeChar fun _ => false) ++ '"' :: rest)
      rw [heq] at hhead
      exact (hhead '"' rfl).2 rfl
  | literal =>
    obtain hescapes | hholds := h
    · exact nomatch hescapes
    have hrest : '\'' :: t ++ ['\''] ++ rest = '\'' :: (t ++ '\'' :: rest) := by simp
    simp only [Form.holds, List.all_eq_true, Bool.and_eq_true, Bool.not_eq_true', bne_iff_ne,
      ne_eq] at hholds
    rw [Form.write, hrest, string_literal ?_, literalBody_append]
    · exact fun c hc => ⟨isPlain_of_isControl (hholds c hc).1.1 (hholds c hc).1.2, (hholds c hc).2⟩
    · intro more heq
      cases t with
      | nil => exact hsingle (congrArg List.head? (List.cons.inj heq).2)
      | cons c t => exact (hholds c List.mem_cons_self).2 (List.cons.inj heq).1
  | basicLines =>
    have hrest : "\"\"\"".toList ++ leadIn t ++ escapeLines 0 t ++ "\"\"\"".toList ++ rest =
        '"' :: '"' :: '"' :: (leadIn t ++ (escapeLines 0 t ++ '"' :: '"' :: '"' :: rest)) := by
      simp
    rw [Form.write, hrest, string,
      newline?_leadIn fun hnewline => newline?_eq_none (head?_escapeLines hnewline _),
      multiBody_escapeLines (by decide) t hdouble]
    rfl
  | literalLines =>
    obtain hescapes | hholds := h
    · exact nomatch hescapes
    have hrest : "'''".toList ++ leadIn t ++ t ++ "'''".toList ++ rest =
        '\'' :: '\'' :: '\'' :: (leadIn t ++ (t ++ '\'' :: '\'' :: '\'' :: rest)) := by
      simp
    simp only [Form.holds, Bool.and_eq_true, List.all_eq_true, Bool.not_eq_true', hasTriple,
      ← Bool.not_eq_true, Text.contains_iff_infix] at hholds
    rw [Form.write, hrest, string,
      newline?_leadIn fun hnewline => newline?_eq_none ?_,
      multiBody_literal (by decide) (fun c hc => Bool.not_eq_true _ ▸ hholds.1 c hc) hholds.2
        hsingle]
    · rfl
    · cases t with
      | nil => exact fun d hd => Option.some.inj hd ▸ rfl
      | cons c t =>
        rintro d hd
        obtain rfl : c = d := Option.some.inj hd
        exact isPlain_of_isControl (Bool.not_eq_true _ ▸ hholds.1 c List.mem_cons_self)
          fun hc => hnewline (hc ▸ List.mem_cons_self)

/-- A text is read back from the form that is chosen for it. -/
theorem string_quote {t rest : Text} (hdouble : rest.head? ≠ some '"')
    (hsingle : rest.head? ≠ some '\'') : string (quote t ++ rest) = some (t, rest) := by
  refine string_write ?_ hdouble hsingle
  unfold Form.choose
  cases hfind : [Form.basic, .literal, .basicLines, .literalLines].find? (Form.holds t) with
  | some f => exact .inr (List.find?_some hfind)
  | none =>
    left
    rw [Option.getD_none]
    split <;> rfl

end Console.Toml
