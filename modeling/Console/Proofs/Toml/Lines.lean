import Console.Proofs.Json.Scalar
import Console.Proofs.Toml.Strings
import Console.Toml.Document

/-! Lines of a TOML document read back. A value that is spelled at the end of a line is read up to
    the newline, be it a string, a truth value or a numeral within 64 bits. A line with a bare key and
    a header with a bare name say one statement each, and a text says what its lines say. -/

namespace Console.Toml

/-- A character of a kind is none of those that are not of the kind. -/
theorem ne_of_kind {kind : Char → Bool} {c d : Char} (hc : kind c = true) (hd : kind d = false) :
    c ≠ d := by
  rintro rfl
  exact nomatch hd.symm.trans hc

/-! ### Numerals -/

theorem digitRun_cons {c d : Char} (hd : d ≠ '_') (rest : Text) :
    digitRun Char.isDigit (c :: d :: rest) =
      if !c.isDigit then none
      else if d.isDigit then withChar c (digitRun Char.isDigit (d :: rest))
      else some ([c], d :: rest) := by
  rw [digitRun]
  · exact fun _ _ h _ => hd h
  · exact fun h _ => hd h

/-- A run of digits ends in front of a newline. -/
theorem digitRun_append {c : Char} {digits : Text} (hc : c.isDigit = true)
    (hdigits : ∀ d ∈ digits, d.isDigit = true) (rest : Text) :
    digitRun Char.isDigit (c :: (digits ++ '\n' :: rest)) = some (c :: digits, '\n' :: rest) := by
  induction digits generalizing c with
  | nil =>
    rw [List.nil_append, digitRun_cons (by decide), hc]
    rfl
  | cons d digits ih =>
    rw [List.forall_mem_cons] at hdigits
    have hd : d ≠ '_' := ne_of_kind hdigits.1 (by decide)
    rw [List.cons_append, digitRun_cons hd, hc, hdigits.1, ih hdigits.1 hdigits.2]
    rfl

/-- A numeral has its first digit, and more digits that do not stand behind a zero. -/
theorem exists_ofNat (n : Nat) : ∃ c digits, Text.ofNat n = c :: digits ∧ c.isDigit = true ∧
    (∀ d ∈ digits, d.isDigit = true) ∧ (c = '0' → digits = []) := by
  obtain ⟨c, digits, hcons⟩ : ∃ c digits, Text.ofNat n = c :: digits :=
    List.exists_cons_of_ne_nil Nat.toDigits_ne_nil
  have hall : ∀ d ∈ c :: digits, d.isDigit = true := fun d hd =>
    Text.isDigit_of_mem_ofNat (hcons ▸ hd)
  rw [List.forall_mem_cons] at hall
  refine ⟨c, digits, hcons, hall.1, hall.2, ?_⟩
  rintro rfl
  rcases Json.toDigits_zero_or n with hlength | hhead
  · rw [← Text.ofNat, hcons] at hlength
    exact List.length_eq_zero_iff.1 (Nat.succ.inj hlength)
  · rw [← Text.ofNat, hcons] at hhead
    exact absurd rfl hhead

theorem decimal_ofNat {n : Nat} (h : (n : Int) < Word.half) (rest : Text) :
    decimal false (Text.ofNat n ++ '\n' :: rest) = some (.integer n, '\n' :: rest) := by
  obtain ⟨c, digits, hcons, hc, hdigits, hzero⟩ := exists_ofNat n
  have hvalue : Nat.ofDigitChars 10 (c :: digits) 0 = n := hcons ▸ Nat.ofDigitChars_ten_toDigits
  have hrange : -Word.half ≤ (n : Int) ∧ (n : Int) < Word.half :=
    ⟨Int.le_trans (by decide) (Int.natCast_nonneg n), h⟩
  rw [hcons, List.cons_append, decimal, digitRun_append hc hdigits]
  simpa [hvalue, integer?, hrange] using hzero

/-- A number that begins with a digit is decimal unless its second character is the letter of a
    base. -/
theorem number_eq_decimal {c d : Char} {rest : Text} (hc : c.isDigit = true)
    (hd : d.isDigit = true ∨ d = '\n') :
    number (c :: d :: rest) = decimal false (c :: d :: rest) := by
  have hletter : d ≠ 'x' ∧ d ≠ 'o' ∧ d ≠ 'b' := by
    refine ⟨?_, ?_, ?_⟩ <;> rintro rfl <;> exact absurd hd (by decide)
  have hsign : c ≠ '+' ∧ c ≠ '-' ∧ c ≠ 'i' ∧ c ≠ 'n' := by
    refine ⟨?_, ?_, ?_, ?_⟩ <;> exact ne_of_kind hc (by decide)
  rw [number, unsigned] <;> simp_all

/-- Nothing but digits stands within so many characters of a numeral, or the newline is met. -/
theorem startsWith_digits {digits : Text} (hdigits : ∀ d ∈ digits, d.isDigit = true) {c : Char}
    (hc : c.isDigit = false) (hnewline : c ≠ '\n') (count : Nat) (rest : Text) :
    startsWith count c (digits ++ '\n' :: rest) = false := by
  unfold startsWith
  rcases Nat.lt_trichotomy count digits.length with hlt | rfl | hgt
  · have hdrop : ((digits ++ '\n' :: rest).drop count).head? = some digits[count] := by
      rw [List.head?_drop, List.getElem?_append_left hlt, List.getElem?_eq_getElem hlt]
    have hne : digits[count] ≠ c := ne_of_kind (hdigits _ (List.getElem_mem hlt)) hc
    simp [hdrop, hne]
  · simp [hnewline.symm]
  · have hmem : '\n' ∈ (digits ++ '\n' :: rest).take count := by
      obtain ⟨more, hmore⟩ := Nat.exists_eq_add_of_lt hgt
      rw [List.take_append, hmore, Nat.add_assoc, Nat.add_sub_cancel_left, List.take_succ_cons]
      exact List.mem_append_right _ List.mem_cons_self
    have hall : ((digits ++ '\n' :: rest).take count).all Char.isDigit = false := by
      rw [List.all_eq_false]
      exact ⟨_, hmem, by decide⟩
    rw [hall, Bool.and_false, Bool.false_and]

/-- What begins with a digit is a number unless it is a date or a time. -/
theorem scalar_eq_number {c : Char} {rest : Text} (hc : c.isDigit = true)
    (hmoment : isMoment (c :: rest) = false) : scalar (c :: rest) = number (c :: rest) := by
  have hne : c ≠ 't' ∧ c ≠ 'f' ∧ c ≠ '"' ∧ c ≠ '\'' := by
    refine ⟨?_, ?_, ?_, ?_⟩ <;> exact ne_of_kind hc (by decide)
  rw [scalar]
  · rw [List.head?_cons]
    split
    · rename_i heq
      exact absurd (Option.some.inj heq) hne.2.2.1
    · rename_i heq
      exact absurd (Option.some.inj heq) hne.2.2.2
    · rw [hmoment]
      rfl
  · exact fun _ heq => hne.1 (List.cons.inj heq).1
  · exact fun _ heq => hne.2.1 (List.cons.inj heq).1

theorem scalar_ofNat {n : Nat} (h : (n : Int) < Word.half) (rest : Text) :
    scalar (Text.ofNat n ++ '\n' :: rest) = some (.integer n, '\n' :: rest) := by
  have hmoment : isMoment (Text.ofNat n ++ '\n' :: rest) = false := by
    have hdigits : ∀ d ∈ Text.ofNat n, d.isDigit = true := fun d hd =>
      Text.isDigit_of_mem_ofNat hd
    rw [isMoment, startsWith_digits hdigits (by decide) (by decide),
      startsWith_digits hdigits (by decide) (by decide), Bool.false_or]
  have hdecimal := decimal_ofNat h rest
  obtain ⟨c, digits, hcons, hc, hdigits, -⟩ := exists_ofNat n
  obtain ⟨d, more, hsecond, hd⟩ : ∃ d more, digits ++ '\n' :: rest = d :: more ∧
      (d.isDigit = true ∨ d = '\n') := by
    cases digits with
    | nil => exact ⟨'\n', rest, rfl, .inr rfl⟩
    | cons d digits => exact ⟨d, _, rfl, .inl (hdigits d List.mem_cons_self)⟩
  rw [hcons, List.cons_append, hsecond] at hdecimal hmoment ⊢
  rw [scalar_eq_number hc hmoment, number_eq_decimal hc hd, hdecimal]

/-- A string begins with a quote. -/
theorem exists_quote (t : Text) : ∃ c more, quote t = c :: more ∧ (c = '"' ∨ c = '\'') := by
  unfold quote
  cases Form.choose t with
  | basic => exact ⟨'"', _, rfl, .inl rfl⟩
  | literal => exact ⟨'\'', _, rfl, .inr rfl⟩
  | basicLines => exact ⟨'"', _, rfl, .inl rfl⟩
  | literalLines => exact ⟨'\'', _, rfl, .inr rfl⟩

theorem scalar_quote (t rest : Text) :
    scalar (quote t ++ '\n' :: rest) = some (.string t, '\n' :: rest) := by
  have hstring : string (quote t ++ '\n' :: rest) = some (t, '\n' :: rest) :=
    string_quote (by simp) (by simp)
  obtain ⟨c, more, hcons, hc⟩ := exists_quote t
  rw [hcons, List.cons_append] at hstring ⊢
  obtain rfl | rfl := hc
  all_goals
    rw [scalar, hstring]
    · rfl
    · exact nofun
    · exact nofun

/-! ### Lines -/

/-- A text that is read as a value at the end of a line. -/
def Spells (w : Text) (v : Value) : Prop :=
  ∀ rest, value (skipSpaces (w ++ '\n' :: rest)) = some (v, '\n' :: rest)

theorem value_eq_scalar {c : Char} (hc : c ≠ '[' ∧ c ≠ '\x7b') (t : Text) :
    value (c :: t) = scalar (c :: t) := by
  rw [value, valueOf]
  all_goals simp_all [depthLimit]

theorem spells_of_scalar {w : Text} {v : Value} {c : Char} {more : Text} (hw : w = c :: more)
    (hc : c ≠ '[' ∧ c ≠ '\x7b' ∧ c ≠ ' ' ∧ c ≠ '\t')
    (hscalar : ∀ rest, scalar (w ++ '\n' :: rest) = some (v, '\n' :: rest)) : Spells w v := by
  intro rest
  have h := hscalar rest
  subst hw
  rw [List.cons_append] at h ⊢
  have hskip : skipSpaces (c :: (more ++ '\n' :: rest)) = c :: (more ++ '\n' :: rest) := by
    simp [skipSpaces, hc.2.2]
  rw [hskip, value_eq_scalar ⟨hc.1, hc.2.1⟩, h]

theorem spells_quote (t : Text) : Spells (quote t) (.string t) := by
  obtain ⟨c, more, hcons, hc⟩ := exists_quote t
  refine spells_of_scalar hcons ?_ (scalar_quote t)
  obtain rfl | rfl := hc <;> decide

theorem spells_ofNat {n : Nat} (h : (n : Int) < Word.half) :
    Spells (Text.ofNat n) (.integer n) := by
  obtain ⟨c, digits, hcons, hc, -, -⟩ := exists_ofNat n
  refine spells_of_scalar hcons ?_ (scalar_ofNat h)
  refine ⟨?_, ?_, ?_, ?_⟩ <;> exact ne_of_kind hc (by decide)

theorem spells_boolean (b : Bool) :
    Spells (if b then "true".toList else "false".toList) (.boolean b) := by
  cases b with
  | true => exact spells_of_scalar rfl (by decide) fun _ => rfl
  | false => exact spells_of_scalar rfl (by decide) fun _ => rfl

/-! ### Statements -/

/-- A name that needs no quotes. -/
structure IsBareName (k : Text) : Prop where
  ne_nil : k ≠ []
  all_bare : ∀ c ∈ k, isBare c = true

theorem IsBareName.exists_cons {k : Text} (h : IsBareName k) :
    ∃ c more, k = c :: more ∧ isBare c = true := by
  obtain ⟨c, more, rfl⟩ := List.exists_cons_of_ne_nil h.ne_nil
  exact ⟨c, more, rfl, h.all_bare c List.mem_cons_self⟩

theorem skipSpaces_of_isBare {c : Char} (hc : isBare c = true) (rest : Text) :
    skipSpaces (c :: rest) = c :: rest := by
  have hspace : c ≠ ' ' := ne_of_kind hc (by decide)
  have htab : c ≠ '\t' := ne_of_kind hc (by decide)
  simp [skipSpaces, hspace, htab]

theorem name_append {k : Text} (hk : IsBareName k) {d : Char} (hd : isBare d = false)
    (rest : Text) :
    name (k ++ d :: rest) = some (k, d :: rest) := by
  have htake : (k ++ d :: rest).takeWhile isBare = k := by
    rw [List.takeWhile_append_of_pos hk.all_bare, List.takeWhile_cons_of_neg (by simp [hd]),
      List.append_nil]
  have hdrop : (k ++ d :: rest).dropWhile isBare = d :: rest := by
    rw [List.dropWhile_append_of_pos hk.all_bare, List.dropWhile_cons_of_neg (by simp [hd])]
  obtain ⟨c, more, rfl, hc⟩ := hk.exists_cons
  rw [name, htake, hdrop]
  · rfl
  · exact fun _ heq => ne_of_kind hc (by decide) (List.cons.inj heq).1
  · exact fun _ heq => ne_of_kind hc (by decide) (List.cons.inj heq).1

/-- A bare name is a key if something else than a point stands behind it. -/
theorem key_append {k : Text} (hk : IsBareName k) {d : Char} {rest t : Text}
    (hd : isBare d = false) (ht : skipSpaces (d :: rest) = t) (hpoint : t.head? ≠ some '.') :
    key (k ++ d :: rest) = some (⟨[], k⟩, t) := by
  have hskip : skipSpaces (k ++ d :: rest) = k ++ d :: rest := by
    obtain ⟨c, more, rfl, hc⟩ := hk.exists_cons
    exact skipSpaces_of_isBare hc _
  change keyOf (78 + 1) (k ++ d :: rest) = _
  rw [keyOf, hskip, name_append hk hd, Option.bind_eq_bind, Option.bind_some]
  dsimp only
  rw [ht]
  split
  · exact absurd rfl hpoint
  · rfl

/-- What begins with a bare character is a key with a value. -/
theorem statement_of_isBare {c : Char} (hc : isBare c = true) (t : Text) :
    statement (c :: t) = (do
      let (k, t) ← key (c :: t)
      let (v, t) ← value (skipSpaces (← mark '=' t))
      pure (.pair k v, ← lineEnd? t)) := by
  rw [statement]
  · exact fun _ heq => ne_of_kind hc (by decide) (List.cons.inj heq).1
  · exact fun _ heq => ne_of_kind hc (by decide) (List.cons.inj heq).1

theorem statement_pair {k w : Text} {v : Value} (hk : IsBareName k) (hw : Spells w v)
    (rest : Text) : statement (k ++ ' ' :: '=' :: ' ' :: (w ++ '\n' :: rest)) =
      some (.pair ⟨[], k⟩ v, rest) := by
  have hkey : key (k ++ ' ' :: '=' :: ' ' :: (w ++ '\n' :: rest)) =
      some (⟨[], k⟩, '=' :: ' ' :: (w ++ '\n' :: rest)) :=
    key_append hk (by decide) rfl (by simp)
  have hvalue := hw rest
  obtain ⟨c, more, rfl, hc⟩ := hk.exists_cons
  rw [List.cons_append, statement_of_isBare hc, ← List.cons_append, hkey]
  change (value (skipSpaces (w ++ '\n' :: rest))).bind _ = _
  rw [hvalue]
  rfl

theorem statement_header {k : Text} (hk : IsBareName k) (rest : Text) :
    statement ('[' :: (k ++ ']' :: '\n' :: rest)) = some (.header ⟨[], k⟩, rest) := by
  have hkey : key (k ++ ']' :: '\n' :: rest) = some (⟨[], k⟩, ']' :: '\n' :: rest) :=
    key_append hk (by decide) rfl (by simp)
  have hone : ∀ more, k ++ ']' :: '\n' :: rest ≠ '[' :: more := by
    obtain ⟨c, more, rfl, hc⟩ := hk.exists_cons
    exact fun _ heq => ne_of_kind hc (by decide) (List.cons.inj heq).1
  rw [statement, hkey]
  · rfl
  · exact hone

/-! ### Documents -/

/-- A text says these statements, line by line. -/
def Says (t : Text) (l : List Statement) : Prop :=
  ∀ lines, t.length < lines → statementsOf lines t = some l

theorem says_nil : Says [] [] := by
  intro lines h
  obtain ⟨lines, rfl⟩ := Nat.exists_eq_add_of_lt h
  rfl

theorem Says.newline {t : Text} {l : List Statement} (h : Says t l) : Says ('\n' :: t) l := by
  intro lines hlines
  obtain ⟨lines, rfl⟩ : ∃ n, lines = n + 1 := ⟨lines - 1, by omega⟩
  rw [List.length_cons] at hlines
  exact h lines (by omega)

theorem Says.cons {c : Char} {more rest : Text} {s : Statement} {l : List Statement}
    (h : Says rest l) (hc : isBare c = true ∨ c = '[')
    (hs : statement (c :: more) = some (s, rest)) (hlength : rest.length ≤ more.length) :
    Says (c :: more) (s :: l) := by
  intro lines hlines
  obtain ⟨lines, rfl⟩ : ∃ n, lines = n + 1 := ⟨lines - 1, by omega⟩
  rw [List.length_cons] at hlines
  have hskip : skipSpaces (c :: more) = c :: more := by
    obtain hc | rfl := hc
    · exact skipSpaces_of_isBare hc more
    · rfl
  have hnone : (c == '#' || c == '\n' || c == '\r') = false := by
    obtain hc | rfl := hc
    · rw [beq_false_of_ne (ne_of_kind hc (by decide)),
        beq_false_of_ne (ne_of_kind hc (by decide)),
        beq_false_of_ne (ne_of_kind hc (by decide))]
      rfl
    · rfl
  rw [statementsOf, hskip]
  simp [hnone, hs, h lines (by omega)]

theorem Says.pair {k w rest : Text} {v : Value} {l : List Statement} (h : Says rest l)
    (hk : IsBareName k) (hw : Spells w v) :
    Says (k ++ ' ' :: '=' :: ' ' :: (w ++ '\n' :: rest)) (.pair ⟨[], k⟩ v :: l) := by
  have hs := statement_pair hk hw rest
  obtain ⟨c, more, rfl, hc⟩ := hk.exists_cons
  rw [List.cons_append] at hs ⊢
  exact h.cons (.inl hc) hs (by simp; omega)

theorem Says.header {k rest : Text} {l : List Statement} (h : Says rest l) (hk : IsBareName k) :
    Says ('[' :: (k ++ ']' :: '\n' :: rest)) (.header ⟨[], k⟩ :: l) :=
  h.cons (.inr rfl) (statement_header hk rest) (by simp; omega)

theorem statements_of_says {t : Text} {l : List Statement} (h : Says t l)
    (hmark : t.head? ≠ some '\ufeff') : statements t = some l := by
  unfold statements
  split
  · exact absurd rfl hmark
  · exact h _ (Nat.lt_succ_self _)

end Console.Toml
